import DataMart.Record
import DataMart.Proofs.Json.RoundTrip

/-!
# Rows in JSON text

A row lists all of its fields in JSON, those of a repeated name too, and it is left to the reader of
the text which of these counts. Two readers of objects stand here: `readMembers` keeps the members as
they stand in the text, and `readObject` puts a later member in the place of an earlier one of its
name, as `value` does.

* `lookup_foldl_insert`: of members that are put in one after the other, the last of a name is found.
* `readAll_objectOf`: the text of an object is read member by member, whatever its names are.
* `parse_compact_object`: `value` reads the object that `readObject` reads, unless the first name in
  the text is the mark of embedded texts.
* `pushAll_read_back`: the text of a row has under every name what the row has, and its names stand in
  the order of the columns.
-/

namespace DataMart

namespace Json

variable {σ : Type} {depth : Nat} {ms : List (String × Json)}

/-! ## Members with one name -/

theorem lookup_cons_eq_ite (n : String) (m : String × Json) (ms : List (String × Json)) :
    (m :: ms).lookup n = if n = m.1 then some m.2 else ms.lookup n := by
  rw [List.lookup_cons]
  by_cases hn : n = m.1
  · simp [hn]
  · rw [beq_false_of_ne hn, if_neg hn]

/-- Putting a member in changes what is found under its name, and nothing else. -/
theorem lookup_insert (n name : String) (v : Json) (ms : List (String × Json)) :
    (insert name v ms).lookup n = if n = name then some v else ms.lookup n := by
  induction ms with
  | nil => rw [insert, lookup_cons_eq_ite]
  | cons m ms ih =>
      rw [insert]
      split_ifs with hreplace hlt hn hn
      all_goals grind [lookup_cons_eq_ite]

/-- Of members that are put in one after the other, the last of a name is found. -/
theorem lookup_foldl_insert (n : String) (ms acc : List (String × Json)) :
    (ms.foldl (fun acc m => insert m.1 m.2 acc) acc).lookup n =
      (ms.reverse.lookup n).or (acc.lookup n) := by
  induction ms generalizing acc with
  | nil => rfl
  | cons m ms ih =>
      rw [List.foldl_cons, ih, lookup_insert, List.reverse_cons, List.lookup_append, Option.or_assoc,
        lookup_cons_eq_ite]
      by_cases hn : n = m.1
      · rw [if_pos hn, if_pos hn, Option.some_or]
      · rw [if_neg hn, if_neg hn, List.lookup_nil, Option.none_or]

/-! ## Reading objects -/

/-- An object whose members `step` folds into a state; it counts as one of `depth` containers. -/
def objectOf (depth : Nat) (step : Nat → σ → String → Except ReadError (Reader σ)) (start : σ) :
    Reader σ := fun s =>
  match h : skipBlanks s with
  | '\x7b' :: t =>
    match depth with
    | 0 => .error .malformed
    | depth + 1 => afterFirst h (members (step depth) start t)
  | _ => .error (refuse s)

/-- Take a member into a state, whatever its name and its value are. -/
def takeMember (f : σ → String × Json → σ) (depth : Nat) (acc : σ) (name : String) :
    Except ReadError (Reader σ) :=
  .ok fun u => (value depth u).mapValue fun v => f acc (name, v)

/-- The members of an object as they stand in its text. -/
def readMembers (text : String) : Except ReadError (List (String × Json)) :=
  readAll (objectOf maxDepth (takeMember fun acc m => acc ++ [m]) []) text

/-- An object, a later member in the place of an earlier one of its name. -/
def readObject (text : String) : Except ReadError Json :=
  (readAll (objectOf maxDepth (takeMember fun acc m => insert m.1 m.2 acc) []) text).map .object

/-- Members are read back one after the other, whatever they are taken into. -/
theorem readsMembers_values (embedded : String → Option Json) (f : σ → String × Json → σ) (start : σ)
    (hms : ∀ m ∈ ms, Faithful depth m.2) :
    ReadsMembers (fun acc name => .ok fun u => (valueIn embedded depth u).mapValue fun v =>
      f acc (name, v)) start (charsOfMembers ms) (ms.foldl f start) := by
  refine readsMembers_foldl f Prod.fst (fun m => m.2.chars) ?_ start
  intro m hm acc
  refine ⟨_, rfl, ?_⟩
  intro rest hrest
  exact (gives_valueIn_chars (hms m hm) hrest).mapValue fun v => f acc (m.1, v)

/-- The text of an object is read member by member. -/
theorem gives_objectOf (f : σ → String × Json → σ) (start : σ)
    (hms : ∀ m ∈ ms, Faithful depth m.2) (rest : List Char) :
    Gives (objectOf (depth + 1) (takeMember f) start (chars (.object ms) ++ rest))
      (ms.foldl f start) rest := by
  have hmembers : Gives (members (takeMember f depth) start _) _ rest :=
    gives_members (readsMembers_values _ f start hms) rest
  rw [chars_object, List.cons_append, List.append_assoc]
  have hblank := skipBlanks_cons (c := '\x7b') rfl
    (commas (memberTexts (charsOfMembers ms)) ++ (['\x7d'] ++ rest))
  unfold objectOf
  split
  · next h =>
    cases hblank.symm.trans h
    exact hmembers.afterFirst h
  · next h => exact absurd hblank (h _)

/-- **The text of an object is read member by member**, in the order in which they were written and
with every repetition, whatever the members are taken into. -/
theorem readAll_objectOf (f : σ → String × Json → σ) (start : σ)
    (hms : ∀ m ∈ ms, Faithful 126 m.2) :
    readAll (objectOf maxDepth (takeMember f) start) (compact (.object ms)) =
      .ok (ms.foldl f start) := by
  refine readAll_of_gives ?_
  rw [← List.append_nil (compact (.object ms)).toList]
  exact gives_objectOf f start hms []

/-- The text of an object is read as a value like it is read as an object, unless it starts with the
mark of embedded texts. -/
theorem parse_compact_object (hms : ∀ m ∈ ms, Faithful 126 m.2)
    (hmark : (object ms).isMarked = false) :
    parse (compact (.object ms)) = readObject (compact (.object ms)) := by
  have hobject := readAll_objectOf (fun acc m => insert m.1 m.2 acc) [] hms
  have hvalue (embedded : String → Option Json) : Gives (valueIn embedded maxDepth
      (chars (.object ms) ++ [])) (.object (ms.foldl (fun acc m => insert m.1 m.2 acc) [])) [] := by
    have hmembers := gives_members
      (readsMembers_values embedded (fun acc m => insert m.1 m.2 acc) [] hms) []
    rw [chars_object, List.cons_append, List.append_assoc]
    exact gives_valueIn_object (behindMark?_members hmark []) hmembers
  rw [List.append_nil] at hvalue
  rw [readObject, hobject, parse]
  exact readAll_of_gives (hvalue _)

/-! ## Scalars -/

/-- A scalar that JSON text keeps: a whole number fits 64 bits, and no other number is one. -/
structure ExactScalar (v : Json) : Prop where
  wellFormed : v.WellFormed
  floatFree : v.FloatFree
  scalar : v.depth = 0

theorem ExactScalar.faithful {v : Json} (h : ExactScalar v) (depth : Nat) : Faithful depth v where
  wellFormed := h.wellFormed
  floatFree := h.floatFree
  unmarked := by
    have hdepth := h.scalar
    cases v with
    | list vs => cases hdepth
    | object ms => cases hdepth
    | _ => simp [Unmarked, isMarked]
  shallow := by
    rw [h.scalar]
    exact Nat.zero_le depth

end Json

/-! ## Rows -/

namespace Record

open Json (ExactScalar readMembers readObject embedMark)

variable {r : Record} {fields : List (String × Json)}

/-- A row with further fields, appended one after the other. -/
def pushAll (r : Record) (fields : List (String × Json)) : Record :=
  fields.foldl (fun r f => r.push f.1 f.2) r

theorem fields_pushAll (r : Record) (fields : List (String × Json)) :
    (r.pushAll fields).fields = r.fields ++ fields := by
  induction fields generalizing r with
  | nil => exact (List.append_nil _).symm
  | cons f fields ih =>
      have hrest : r.pushAll (f :: fields) = (r.push f.1 f.2).pushAll fields := rfl
      rw [hrest, ih, push, List.append_assoc, List.singleton_append]

/-- The names of a row are read from its text in the order of its columns. -/
theorem readMembers_toJson (h : ∀ f ∈ r.fields, ExactScalar f.2) :
    readMembers r.toJson.compact = .ok r.fields := by
  rw [readMembers, toJson, Json.readAll_objectOf _ _ fun f hf => (h f hf).faithful 126,
    List.foldl_append_eq_append, List.nil_append, ← List.flatMap_def, List.flatMap_singleton']

/-- The object that is read from the text of a row has under every name what the row has. -/
theorem exists_readObject_toJson (h : ∀ f ∈ r.fields, ExactScalar f.2) :
    ∃ v, readObject r.toJson.compact = .ok v ∧ ∀ name, v.get? name = r.get? name := by
  have hread := Json.readAll_objectOf (fun acc m => Json.insert m.1 m.2 acc) [] fun f hf =>
    (h f hf).faithful 126
  refine ⟨_, by rw [readObject, toJson, hread]; rfl, fun name => ?_⟩
  rw [Json.get?, Json.lookup_foldl_insert, List.lookup_nil, Option.or_none]
  rfl

/-- **A row is in its text what it is in memory.** For fields that are appended one after the other,
with names of any kind and repeated or not: the names in the text are the columns, in their order,
and the object that the text is read as, a later member in the place of an earlier one, has under
every name what is found in the row. Any reader of values takes the text for that object, unless the
first name is the mark of embedded texts. -/
theorem pushAll_read_back (h : ∀ f ∈ fields, ExactScalar f.2) :
    let r := pushAll {} fields
    (readMembers r.toJson.compact).map (List.map Prod.fst) = .ok r.columns ∧
    ∃ v, readObject r.toJson.compact = .ok v ∧ (∀ name, v.get? name = r.get? name) ∧
      (r.columns.head? ≠ some embedMark → Json.parse r.toJson.compact = .ok v) := by
  intro r
  have hfields : r.fields = fields := fields_pushAll {} fields
  rw [← hfields] at h
  obtain ⟨v, hread, hget⟩ := exists_readObject_toJson h
  refine ⟨?_, v, hread, hget, fun hmark => ?_⟩
  · rw [readMembers_toJson h]
    rfl
  · rw [← hread, toJson]
    refine Json.parse_compact_object (fun f hf => (h f hf).faithful 126) ?_
    rw [columns] at hmark
    cases hfirst : r.fields with
    | nil => rfl
    | cons f rest => simpa [hfirst, Json.isMarked] using hmark

/-- The row of a customer that had a contact before its details were appended, with names that need
escapes and the greatest whole number. -/
def detailed : List (String × Json) :=
  [("contact", .text "loja"), ("n\"\\\n", .number (.int 18446744073709551615)), ("", .bool true),
    ("customer_name", .text "Conceição"), ("contact", .null)]

theorem detailed_read_back : (∀ f ∈ detailed, ExactScalar f.2) ∧
    ∃ v, readObject (pushAll {} detailed).toJson.compact = .ok v ∧
      Json.parse (pushAll {} detailed).toJson.compact = .ok v ∧
      v.get? "contact" = some .null ∧ v.get? "contato" = none := by
  have hscalars : ∀ f ∈ detailed, ExactScalar f.2 := by
    intro f hf
    simp only [detailed, List.mem_cons, List.not_mem_nil, or_false] at hf
    rcases hf with rfl | rfl | rfl | rfl | rfl <;> constructor <;>
      simp [Json.WellFormed, Json.FloatFree, Json.Proper, Json.isReal, Json.depth, Word.signedEnd,
        Word.unsignedEnd]
  obtain ⟨-, v, hread, hget, hvalue⟩ := pushAll_read_back hscalars
  refine ⟨hscalars, v, hread, hvalue ?_, ?_, ?_⟩
  · simp [columns, fields_pushAll, detailed, embedMark]
  · rw [hget]
    rfl
  · rw [hget]
    rfl

end Record

end DataMart
