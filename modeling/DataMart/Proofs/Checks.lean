import DataMart.Fault
import DataMart.Proofs.Steps

/-!
# Checks in a row

A computation that makes checks one after another stops at the first that fails. A `Check` is what
has to hold and the fault that is reported if it does not. `Checked x checks good` says all that
such a computation answers: a good result if every check holds, and otherwise the fault of the first
one that fails. Computations in a row make their checks in a row (`Checked.bind`, `Checked.mapM`).
-/

namespace DataMart

/-- What has to hold, and the fault that is reported if it does not. -/
structure Check where
  holds : Prop
  fault : Fault

namespace Check

/-- Every check of a list holds. -/
def AllHold (checks : List Check) : Prop := ∀ k ∈ checks, k.holds

/-- The first check of a list that fails has the given fault. -/
inductive FirstFails : List Check → Fault → Prop
  | here {k : Check} {rest : List Check} (fails : ¬ k.holds) : FirstFails (k :: rest) k.fault
  | later {k : Check} {rest : List Check} {e : Fault} (holds : k.holds)
      (further : FirstFails rest e) : FirstFails (k :: rest) e

variable {checks more : List Check} {e e' : Fault}

/-- If one fails, they do not all hold. -/
theorem FirstFails.not_allHold (h : FirstFails checks e) : ¬ AllHold checks := by
  induction h with
  | here fails => exact fun hall => fails (hall _ (List.mem_cons_self ..))
  | later _ _ ih => exact fun hall => ih fun k hk => hall k (List.mem_cons_of_mem _ hk)

/-- Only one is the first that fails. -/
theorem FirstFails.unique (h : FirstFails checks e) (h' : FirstFails checks e') : e = e' := by
  induction h with
  | here fails =>
      cases h' with
      | here _ => rfl
      | later holds _ => exact absurd holds fails
  | later holds _ ih =>
      cases h' with
      | here fails => exact absurd holds fails
      | later _ further => exact ih further

/-- Its fault is the one of a check in the list. -/
theorem FirstFails.mem (h : FirstFails checks e) : ∃ k ∈ checks, k.fault = e := by
  induction h with
  | here _ => exact ⟨_, List.mem_cons_self .., rfl⟩
  | later _ _ ih =>
      obtain ⟨k, hk, he⟩ := ih
      exact ⟨k, List.mem_cons_of_mem _ hk, he⟩

/-- It stays the first if further checks follow. -/
theorem FirstFails.append (h : FirstFails checks e) (more : List Check) :
    FirstFails (checks ++ more) e := by
  induction h with
  | here fails => exact .here fails
  | later holds _ ih => exact .later holds ih

/-- It is the first behind checks that all hold. -/
theorem FirstFails.behind (h : FirstFails more e) (hall : AllHold checks) :
    FirstFails (checks ++ more) e := by
  induction checks with
  | nil => exact h
  | cons k checks ih =>
      obtain ⟨hk, hrest⟩ := List.forall_mem_cons.1 hall
      exact .later hk (ih hrest)

@[simp] theorem allHold_nil : AllHold [] := List.forall_mem_nil _

@[simp] theorem allHold_cons {k : Check} : AllHold (k :: checks) ↔ k.holds ∧ AllHold checks :=
  List.forall_mem_cons

@[simp] theorem allHold_append : AllHold (checks ++ more) ↔ AllHold checks ∧ AllHold more :=
  List.forall_mem_append

@[simp] theorem allHold_map {α : Type} {f : α → Check} {xs : List α} :
    AllHold (xs.map f) ↔ ∀ x ∈ xs, (f x).holds := List.forall_mem_map

@[simp] theorem allHold_flatMap {α : Type} {f : α → List Check} {xs : List α} :
    AllHold (xs.flatMap f) ↔ ∀ x ∈ xs, AllHold (f x) := List.forall_mem_flatMap

end Check

open Check (AllHold FirstFails)

/-- All that a computation answers which makes some checks in a row. -/
inductive Checked {α : Type} : Except Fault α → List Check → (good : α → Prop) → Prop
  | passed {checks : List Check} {good : α → Prop} {a : α} (hall : AllHold checks) (ha : good a) :
      Checked (.ok a) checks good
  | refused {checks : List Check} {good : α → Prop} {e : Fault} (first : FirstFails checks e) :
      Checked (.error e) checks good

namespace Checked

variable {α β : Type} {x : Except Fault α} {checks more : List Check} {good : α → Prop}

/-- A result is given exactly if every check holds. -/
theorem exists_ok_iff (h : Checked x checks good) : (∃ a, x = .ok a) ↔ AllHold checks := by
  cases h with
  | passed hall _ => exact ⟨fun _ => hall, fun _ => ⟨_, rfl⟩⟩
  | refused first => exact ⟨nofun, fun hall => absurd hall first.not_allHold⟩

/-- A fault is reported exactly if it is that of the first check that fails. -/
theorem eq_error_iff (h : Checked x checks good) (e : Fault) :
    x = .error e ↔ FirstFails checks e := by
  cases h with
  | passed hall _ => exact ⟨nofun, fun first => absurd hall first.not_allHold⟩
  | refused first =>
      refine ⟨fun he => ?_, fun first' => congrArg Except.error (first.unique first')⟩
      cases he
      exact first

/-- What is given is good. -/
theorem good_of_eq_ok (h : Checked x checks good) {a : α} (ha : x = .ok a) : good a := by
  cases h with
  | passed _ hgood => exact Except.ok.inj ha ▸ hgood
  | refused _ => cases ha

/-- One check that is made by a test. -/
theorem of_iff {k : Check} {y : Except Fault α} (hok : k.holds → ∃ a, y = .ok a ∧ good a)
    (herror : ¬ k.holds → y = .error k.fault) : Checked y [k] good := by
  by_cases hk : k.holds
  · obtain ⟨a, rfl, ha⟩ := hok hk
    exact .passed (by simpa using hk) ha
  · rw [herror hk]
    exact .refused (.here hk)

/-- Checks that all hold may have been made before. -/
theorem behind (h : Checked x checks good) {made : List Check} (hmade : AllHold made) :
    Checked x (made ++ checks) good := by
  cases h with
  | passed hall ha => exact .passed (Check.allHold_append.2 ⟨hmade, hall⟩) ha
  | refused first => exact .refused (first.behind hmade)

/-- The checks of a step are followed by those of the steps behind it. -/
theorem bind {f : α → Except Fault β} {good' : β → Prop} (h : Checked x checks good)
    (hf : ∀ a, good a → Checked (f a) more good') : Checked (x >>= f) (checks ++ more) good' := by
  cases h with
  | refused first => exact .refused (first.append more)
  | @passed _ _ a hall ha =>
      rw [ok_bind]
      have hnext := hf a ha
      cases hfa : f a with
      | error e =>
          rw [hfa] at hnext
          cases hnext with
          | refused first => exact .refused (first.behind hall)
      | ok b =>
          rw [hfa] at hnext
          cases hnext with
          | passed hmore hb => exact .passed (Check.allHold_append.2 ⟨hall, hmore⟩) hb

/-- A result can be looked at in another way. -/
theorem map {f : α → β} {good' : β → Prop} (h : Checked x checks good)
    (hf : ∀ a, good a → good' (f a)) : Checked (x.map f) checks good' := by
  cases h with
  | passed hall ha => exact .passed hall (hf _ ha)
  | refused first => exact .refused first

/-- A step repeated over a list makes its checks for each member in turn. -/
theorem mapM {p : α → Except Fault β} {each : α → List Check} {gives : α → β → Prop}
    (h : ∀ a, Checked (p a) (each a) (gives a)) (xs : List α) :
    Checked (xs.mapM p) (xs.flatMap each) (List.Forall₂ gives xs) := by
  induction xs with
  | nil => exact .passed Check.allHold_nil .nil
  | cons a xs ih =>
      rw [List.mapM_cons, List.flatMap_cons]
      refine (h a).bind fun b hb => ?_
      rw [← List.append_nil (xs.flatMap each)]
      exact ih.bind fun bs hbs => .passed Check.allHold_nil (.cons hb hbs)

end Checked

end DataMart
