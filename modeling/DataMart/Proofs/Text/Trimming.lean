import Mathlib.Data.List.DropRight
import Mathlib.Data.List.TakeWhile
import DataMart.Text.Blank

/-!
# Trimmed texts

Trimming takes blanks from both ends of a text and nothing else.

* `not_of_mem_getLast?_dropEndWhile`, `dropEndWhile_eq_self`: an end that was trimmed has nothing more
  to trim.
* `dropEndWhile_append_append`: the end of a text is trimmed up to a piece that stays.
* `exists_trimChars`: a text is what trimming leaves of it, with blanks around.
* `trimChars_eq_nil_iff`: nothing is left of blanks, and of them only.
* `trimChars_surrounded`: a text without blanks at its ends (`Trimmed`) is left as it is, whatever
  blanks stand around it.
-/

namespace DataMart.Text

variable {s front kept back : List Char} {p : Char → Bool}

/-- Trimming the end of a text keeps what stands before a character that stays. -/
theorem dropEndWhile_append_cons {c : Char} (hc : p c = false) (before after : List Char) :
    dropEndWhile p (before ++ c :: after) = before ++ c :: dropEndWhile p after := by
  induction before with
  | nil => simp [dropEndWhile, hc]
  | cons b before ih => simp [dropEndWhile, ih]

/-- Nothing is left of an end that is trimmed. -/
theorem dropEndWhile_eq_nil (h : ∀ c ∈ back, p c = true) : dropEndWhile p back = [] := by
  induction back with
  | nil => rfl
  | cons c back ih =>
      obtain ⟨hc, hback⟩ := List.forall_mem_cons.1 h
      simp [dropEndWhile, ih hback, hc]

/-- What is trimmed stands at the end of what is kept. -/
theorem dropEndWhile_append_of_forall (h : ∀ c ∈ back, p c = true) (s : List Char) :
    dropEndWhile p (s ++ back) = dropEndWhile p s := by
  induction s with
  | nil => exact dropEndWhile_eq_nil h
  | cons c s ih => simp [dropEndWhile, ih]

/-- Trimming from the start of a text on keeps what trimming from its end on keeps. -/
theorem dropEndWhile_eq_rdropWhile (p : Char → Bool) (s : List Char) :
    dropEndWhile p s = s.rdropWhile p := by
  induction s using List.reverseRecOn with
  | nil => rfl
  | append_singleton s c ih =>
      rw [List.rdropWhile_concat]
      split_ifs with hc
      · rw [dropEndWhile_append_of_forall (by simpa using hc), ih]
      · exact dropEndWhile_append_cons (Bool.not_eq_true _ ▸ hc) s []

theorem dropEndWhile_prefix (p : Char → Bool) (s : List Char) : dropEndWhile p s <+: s := by
  rw [dropEndWhile_eq_rdropWhile]
  exact List.rdropWhile_prefix p s

/-- An end that was trimmed has nothing more to trim. -/
theorem not_of_mem_getLast?_dropEndWhile {c : Char} (h : c ∈ (dropEndWhile p s).getLast?) :
    p c = false := by
  obtain ⟨start, hstart⟩ := List.getLast?_eq_some_iff.1 h
  rw [dropEndWhile_eq_rdropWhile] at hstart
  have hne : s.rdropWhile p ≠ [] := by simp [hstart]
  have hlast := List.rdropWhile_last_not p s hne
  simpa [hstart] using hlast

/-- An end with nothing to trim is left as it is. -/
theorem dropEndWhile_eq_self (h : ∀ c ∈ s.getLast?, p c = false) : dropEndWhile p s = s := by
  rw [dropEndWhile_eq_rdropWhile, List.rdropWhile_eq_self_iff]
  intro hne
  rw [h _ (List.getLast?_eq_some_getLast hne)]
  exact Bool.false_ne_true

/-- Trimming takes off what stands behind a piece in which there is nothing to trim, and no more. -/
theorem dropEndWhile_append_append (s : List Char) (hne : kept ≠ []) (hkept : ∀ c ∈ kept, p c = false)
    (hback : ∀ c ∈ back, p c = true) : dropEndWhile p (s ++ (kept ++ back)) = s ++ kept := by
  rw [← List.append_assoc, dropEndWhile_append_of_forall hback]
  refine dropEndWhile_eq_self fun c hc => ?_
  rw [List.getLast?_append_of_ne_nil s hne] at hc
  exact hkept c (List.mem_of_getLast? hc)

/-- A text that was trimmed starts with something else than a blank. -/
theorem not_isBlank_of_mem_head?_trimChars {c : Char} (h : c ∈ (trimChars s).head?) :
    isBlank c = false := by
  obtain ⟨back, hback, -⟩ := dropEndWhile_append isBlank (s.dropWhile isBlank)
  have hfirst := List.head?_dropWhile_not isBlank s
  rw [hback, ← trimChars, List.head?_append, Option.mem_def.1 h, Option.some_or] at hfirst
  exact hfirst

/-- A text that was trimmed ends with something else than a blank. -/
theorem not_isBlank_of_mem_getLast?_trimChars {c : Char} (h : c ∈ (trimChars s).getLast?) :
    isBlank c = false :=
  not_of_mem_getLast?_dropEndWhile h

/-- A text without blanks at its ends is left as it is. -/
theorem trimChars_eq_self (hfirst : ∀ c ∈ s.head?, isBlank c = false)
    (hlast : ∀ c ∈ s.getLast?, isBlank c = false) : trimChars s = s := by
  rw [trimChars]
  cases s with
  | nil => rfl
  | cons c s =>
      rw [List.dropWhile_cons_of_neg (by simp [hfirst c rfl]), dropEndWhile_eq_self hlast]

/-- A text is what trimming leaves of it, with blanks around. -/
theorem exists_trimChars (s : List Char) : ∃ front back, s = front ++ (trimChars s ++ back) ∧
    (∀ c ∈ front, isBlank c = true) ∧ ∀ c ∈ back, isBlank c = true := by
  obtain ⟨back, hback, hblank⟩ := dropEndWhile_append isBlank (s.dropWhile isBlank)
  refine ⟨s.takeWhile isBlank, back, ?_, fun c hc => ?_, hblank⟩
  · rw [trimChars, ← hback, List.takeWhile_append_dropWhile]
  · exact List.all_eq_true.1 List.all_takeWhile c hc

/-- What is not blank stays. -/
theorem mem_trimChars {c : Char} (hc : c ∈ s) (h : isBlank c = false) : c ∈ trimChars s := by
  obtain ⟨front, back, hs, hfront, hback⟩ := exists_trimChars s
  rw [hs, List.mem_append, List.mem_append] at hc
  rcases hc with hc | hc | hc
  · rw [hfront c hc] at h
    cases h
  · exact hc
  · rw [hback c hc] at h
    cases h

/-- Nothing is left of a text by trimming exactly if it is blank. -/
theorem trimChars_eq_nil_iff : trimChars s = [] ↔ ∀ c ∈ s, isBlank c = true := by
  constructor
  · intro h
    obtain ⟨front, back, hs, hfront, hback⟩ := exists_trimChars s
    rw [hs, h, List.nil_append]
    exact List.forall_mem_append.2 ⟨hfront, hback⟩
  · intro h
    rw [trimChars, List.dropWhile_eq_nil_iff.2 h]
    rfl

/-- Something is left exactly if something other than blanks is in it. -/
theorem isEmpty_trimChars_eq_false_iff :
    (trimChars s).isEmpty = false ↔ ∃ c ∈ s, isBlank c = false := by
  rw [List.isEmpty_eq_false_iff, Ne, trimChars_eq_nil_iff]
  simp

/-- A text is not empty, and it neither starts nor ends with a blank. -/
structure Trimmed (s : List Char) : Prop where
  first : ∃ c ∈ s.head?, isBlank c = false
  last : ∃ c ∈ s.getLast?, isBlank c = false

instance (s : List Char) : Decidable (Trimmed s) :=
  decidable_of_iff ((s.head?.any (!isBlank ·)) = true ∧ (s.getLast?.any (!isBlank ·)) = true) <| by
    simp only [Option.any_eq_true, Bool.not_eq_true']
    exact ⟨fun h => ⟨h.1, h.2⟩, fun h => ⟨h.first, h.last⟩⟩

/-- A trimmed text has something in it that is not blank. -/
theorem Trimmed.exists_not_blank (h : Trimmed s) : ∃ c ∈ s, isBlank c = false := by
  obtain ⟨c, hc, hblank⟩ := h.first
  exact ⟨c, List.mem_of_mem_head? hc, hblank⟩

/-- **A trimmed text is what trimming leaves of it**, with whatever blanks around. -/
theorem trimChars_surrounded (hfront : ∀ c ∈ front, isBlank c = true)
    (hback : ∀ c ∈ back, isBlank c = true) (h : Trimmed s) :
    trimChars (front ++ (s ++ back)) = s := by
  obtain ⟨c, hc, hfirst⟩ := h.first
  obtain ⟨d, hd, hlast⟩ := h.last
  obtain ⟨rest, hrest⟩ := List.head?_eq_some_iff.1 hc
  obtain ⟨start, hstart⟩ := List.getLast?_eq_some_iff.1 hd
  have hdrop : (front ++ (s ++ back)).dropWhile isBlank = s ++ back := by
    rw [List.dropWhile_append_of_pos hfront, hrest, List.cons_append,
      List.dropWhile_cons_of_neg (by simp [hfirst])]
  rw [trimChars, hdrop, hstart, List.append_assoc, List.singleton_append,
    dropEndWhile_append_cons hlast, dropEndWhile_eq_nil hback]

end DataMart.Text
