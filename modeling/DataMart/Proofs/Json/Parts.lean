import DataMart.Json.Reader
import Mathlib.Tactic.SplitIfs

/-!
# The values inside a value

`Part u v` says that `u` stands in `v`, at any depth, and `Every p v` that `p` holds of everything in
`v`. With these, what is said of a JSON value as a whole is said once for the value itself:

* `WellFormed`: whole numbers fit 64 bits, and the members of an object are sorted by name with no
  name twice.
* `FloatFree`: no number is a floating-point number.
* `Unmarked`: no object starts with the mark of embedded texts.

`depth` is the greatest number of containers that stand inside each other.
-/

namespace DataMart.Json

/-- `u` stands in `v`, or is `v` itself. -/
inductive Part : (u v : Json) → Prop
  | whole (v : Json) : Part v v
  | item {u v : Json} {vs : List Json} (mem : v ∈ vs) (part : Part u v) : Part u (.list vs)
  | member {u : Json} {m : String × Json} {ms : List (String × Json)} (mem : m ∈ ms)
      (part : Part u m.2) : Part u (.object ms)

/-- Whether `p` holds of everything in a value. -/
def Every (p : Json → Prop) (v : Json) : Prop := ∀ u, Part u v → p u

section Every

variable {p : Json → Prop}

theorem Every.self {v : Json} (h : Every p v) : p v := h v (.whole v)

@[simp] theorem every_null : Every p .null ↔ p .null :=
  ⟨Every.self, fun h _ hu => by cases hu; exact h⟩

@[simp] theorem every_bool (b : Bool) : Every p (.bool b) ↔ p (.bool b) :=
  ⟨Every.self, fun h _ hu => by cases hu; exact h⟩

@[simp] theorem every_number (n : Number) : Every p (.number n) ↔ p (.number n) :=
  ⟨Every.self, fun h _ hu => by cases hu; exact h⟩

@[simp] theorem every_text (s : String) : Every p (.text s) ↔ p (.text s) :=
  ⟨Every.self, fun h _ hu => by cases hu; exact h⟩

@[simp] theorem every_list (vs : List Json) :
    Every p (.list vs) ↔ p (.list vs) ∧ ∀ v ∈ vs, Every p v := by
  refine ⟨fun h => ⟨h.self, fun v hv u hu => h u (.item hv hu)⟩, fun ⟨hself, hitems⟩ u hu => ?_⟩
  cases hu with
  | whole => exact hself
  | item mem part => exact hitems _ mem u part

@[simp] theorem every_object (ms : List (String × Json)) :
    Every p (.object ms) ↔ p (.object ms) ∧ ∀ m ∈ ms, Every p m.2 := by
  refine ⟨fun h => ⟨h.self, fun m hm u hu => h u (.member hm hu)⟩, fun ⟨hself, hmembers⟩ u hu => ?_⟩
  cases hu with
  | whole => exact hself
  | member mem part => exact hmembers _ mem u part

end Every

/-! ## What values are like -/

/-- Members are sorted by name, and no name stands twice. -/
def Sorted (ms : List (String × Json)) : Prop := ms.Pairwise fun a b => a.1 < b.1

/-- Whether a value itself is one that reading can give. -/
def Proper : Json → Prop
  | .number (.int n) => -(Word.signedEnd : Int) ≤ n ∧ n < (Word.unsignedEnd : Int)
  | .object ms => Sorted ms
  | _ => True

/-- Whether a value is a floating-point number. -/
def isReal : Json → Bool
  | .number (.real _) => true
  | _ => false

/-- Whether a value is an object whose first member has the name of the mark. -/
def isMarked : Json → Bool
  | .object (m :: _) => m.1 == embedMark
  | _ => false

/-- Whole numbers fit 64 bits, and the members of objects are sorted by name. -/
def WellFormed (v : Json) : Prop := Every Proper v

/-- No number is a floating-point number. -/
def FloatFree (v : Json) : Prop := Every (fun u => u.isReal = false) v

/-- No object starts with the mark of embedded texts. -/
def Unmarked (v : Json) : Prop := Every (fun u => u.isMarked = false) v

/-! ## Depth -/

mutual

/-- How many containers stand inside each other at most. -/
def depth : Json → Nat
  | .list vs => depthItems vs + 1
  | .object ms => depthMembers ms + 1
  | _ => 0

/-- The greatest depth of an item. -/
def depthItems : List Json → Nat
  | [] => 0
  | v :: vs => max (depth v) (depthItems vs)

/-- The greatest depth of the value of a member. -/
def depthMembers : List (String × Json) → Nat
  | [] => 0
  | (_, v) :: ms => max (depth v) (depthMembers ms)

end

theorem depth_le_of_mem {v : Json} {vs : List Json} (h : v ∈ vs) : v.depth ≤ depthItems vs := by
  induction vs with
  | nil => cases h
  | cons w vs ih =>
      rw [depthItems]
      rcases List.mem_cons.1 h with rfl | h
      · exact Nat.le_max_left _ _
      · exact Nat.le_trans (ih h) (Nat.le_max_right _ _)

theorem depth_le_of_mem_members {m : String × Json} {ms : List (String × Json)} (h : m ∈ ms) :
    m.2.depth ≤ depthMembers ms := by
  induction ms with
  | nil => cases h
  | cons n ms ih =>
      rw [depthMembers]
      rcases List.mem_cons.1 h with rfl | h
      · exact Nat.le_max_left _ _
      · exact Nat.le_trans (ih h) (Nat.le_max_right _ _)

/-! ## Sorted members -/

/-- A member that belongs behind all others is put there. -/
theorem insert_append {name : String} {v : Json} {ms : List (String × Json)}
    (h : ∀ m ∈ ms, m.1 < name) : insert name v ms = ms ++ [(name, v)] := by
  induction ms with
  | nil => rfl
  | cons m ms ih =>
      obtain ⟨hm, hms⟩ := List.forall_mem_cons.1 h
      have hne : name ≠ m.1 := fun heq => String.lt_irrefl _ (heq ▸ hm)
      rw [insert, if_neg hne, if_neg (String.lt_asymm hm), ih hms, List.cons_append]

/-- Sorted members that are put in one after the other stay as they are. -/
theorem foldl_insert {acc ms : List (String × Json)} (h : Sorted (acc ++ ms)) :
    ms.foldl (fun acc m => insert m.1 m.2 acc) acc = acc ++ ms := by
  induction ms generalizing acc with
  | nil => simp
  | cons m ms ih =>
      have hm : ∀ k ∈ acc, k.1 < m.1 := fun k hk =>
        (List.pairwise_append.1 h).2.2 k hk m (List.mem_cons_self ..)
      rw [List.append_cons] at h
      rw [List.foldl_cons, insert_append hm, ih h, List.append_assoc, List.singleton_append]

/-- A name that is put in is one of the names that stand there then. -/
theorem mem_insert {name : String} {v : Json} {ms : List (String × Json)} {m : String × Json}
    (h : m ∈ insert name v ms) : m = (name, v) ∨ m ∈ ms := by
  induction ms with
  | nil => exact .inl (List.mem_singleton.1 h)
  | cons k ms ih =>
      rw [insert] at h
      split_ifs at h with heq hlt
      · exact (List.mem_cons.1 h).imp_right (List.mem_cons_of_mem _)
      · exact List.mem_cons.1 h
      · rcases List.mem_cons.1 h with rfl | h
        · exact .inr (List.mem_cons_self ..)
        · exact (ih h).imp_right (List.mem_cons_of_mem _)

/-- Putting a member in keeps the order. -/
theorem Sorted.insert {name : String} {v : Json} {ms : List (String × Json)} (h : Sorted ms) :
    Sorted (insert name v ms) := by
  induction ms with
  | nil => exact List.pairwise_singleton _ _
  | cons k ms ih =>
      obtain ⟨hk, hms⟩ := List.pairwise_cons.1 h
      rw [Json.insert]
      split_ifs with heq hlt
      · exact List.pairwise_cons.2 ⟨fun m hm => heq ▸ hk m hm, hms⟩
      · refine List.pairwise_cons.2 ⟨fun m hm => ?_, h⟩
        rcases List.mem_cons.1 hm with rfl | hm
        · exact hlt
        · exact String.lt_trans hlt (hk m hm)
      · refine List.pairwise_cons.2 ⟨fun m hm => ?_, ih hms⟩
        rcases mem_insert hm with rfl | hm
        · refine Decidable.byContradiction fun hnot => heq ?_
          exact String.le_antisymm (String.not_lt.1 hnot) (String.not_lt.1 hlt)
        · exact hk m hm

end DataMart.Json
