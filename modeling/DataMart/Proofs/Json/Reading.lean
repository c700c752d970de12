import DataMart.Json.Printer
import DataMart.Json.Reader

/-!
# Reading printed tokens

What the readers make of the tokens that the printer writes. Every statement is of the form `Gives`:
reading gives a result and leaves the rest of the text.

* `gives_readName`: an escaped text is read back, whatever its characters are.
* `gives_readNumber_nat`, `gives_readNumber_neg`: whole numbers of 64 bits are read back, if what
  follows them ends them (`Ends`).
-/

namespace DataMart.Json

variable {α : Type} {a : α} {s t r : List Char}

/-- Reading gives `a` and leaves `r`. -/
def Gives (res : Result α s) (a : α) (r : List Char) : Prop :=
  ∃ h : r.length < s.length, res = .ok (a, ⟨r, h⟩)

/-- What is read from a part is read from the whole. -/
theorem Gives.widen {res : Result α t} (h : Gives res a r) (hle : t.length ≤ s.length) :
    Gives (s := s) (res.widen hle) a r := by
  obtain ⟨hr, rfl⟩ := h
  exact ⟨Nat.lt_of_lt_of_le hr hle, rfl⟩

theorem Gives.andThen {u : List Char} (hu : u.length < s.length) {res : Result α u}
    (h : Gives res a r) : Gives (Rest.andThen ⟨u, hu⟩ res) a r :=
  h.widen _

theorem Gives.mapValue {β : Type} {res : Result α s} (h : Gives res a r) (f : α → β) :
    Gives (res.mapValue f) (f a) r := by
  obtain ⟨hr, rfl⟩ := h
  exact ⟨hr, rfl⟩

/-- What is read behind the first character is read from the whole. -/
theorem Gives.afterFirst {c : Char} {res : Result α t} (h : Gives res a r)
    (hs : skipBlanks s = c :: t) : Gives (Json.afterFirst hs res) a r :=
  h.widen _

/-- A whole text is read if nothing is left of it. -/
theorem readAll_of_gives {read : Reader α} {text : String} (h : Gives (read text.toList) a []) :
    readAll read text = .ok a := by
  obtain ⟨hr, heq⟩ := h
  rw [readAll, heq]
  rfl

/-- A character that is no blank is not skipped. -/
theorem skipBlanks_cons {c : Char} (hc : isBlank c = false) (t : List Char) :
    skipBlanks (c :: t) = c :: t := by
  rw [skipBlanks, List.dropWhile_cons_of_neg (by simp [hc])]

/-! ## Keywords -/

theorem expect_append (word rest : List Char) : ∃ h, expect word (word ++ rest) = .ok ⟨rest, h⟩ := by
  induction word with
  | nil => exact ⟨Nat.le_refl _, rfl⟩
  | cons w word ih =>
      obtain ⟨h, heq⟩ := ih
      refine ⟨Nat.le_succ_of_le h, ?_⟩
      simp only [List.cons_append, expect, if_true, heq]
      rfl

theorem gives_keyword {c : Char} (word rest : List Char) (a : α)
    (hs : skipBlanks s = c :: (word ++ rest)) : Gives (keyword word a hs) a rest := by
  obtain ⟨h, heq⟩ := expect_append word rest
  have hlt := length_lt_of_skipBlanks hs
  refine ⟨Nat.lt_of_le_of_lt h hlt, ?_⟩
  rw [keyword, heq]

/-! ## Texts -/

/-- The closing quote. -/
theorem gives_readText_quote (rest : List Char) : Gives (readText ('"' :: rest)) [] rest := by
  refine ⟨by simp, ?_⟩
  unfold readText
  rw [if_pos rfl]

/-- A character that stands for itself. -/
theorem gives_readText_plain {c : Char} (hquote : c ≠ '"') (hslash : c ≠ '\\')
    (hc : ¬ c.toNat < 32) {cs : List Char} (h : Gives (readText t) cs r) :
    Gives (readText (c :: t)) (c :: cs) r := by
  obtain ⟨hr, heq⟩ := h
  refine ⟨Nat.lt_succ_of_lt hr, ?_⟩
  unfold readText
  simp only [if_neg hquote, if_neg hslash, if_neg hc, heq]
  rfl

/-- A character written by a letter behind a backslash. -/
theorem gives_readText_letter {e d : Char} (he : e ≠ 'u') (hd : unescape? e = some d)
    {cs : List Char} (h : Gives (readText t) cs r) :
    Gives (readText ('\\' :: e :: t)) (d :: cs) r := by
  obtain ⟨hr, heq⟩ := h
  refine ⟨Nat.lt_succ_of_lt (Nat.lt_succ_of_lt hr), ?_⟩
  unfold readText
  simp only [if_neg (show ('\\' : Char) ≠ '"' by decide), if_true, if_neg he, hd, heq]
  rfl

theorem hexValue?_hexDigit : ∀ n < 16, hexValue? (hexDigit n) = some n := by decide

/-- Two digits behind two zeros stand for the character with their number. -/
theorem gives_readCodePoint {n : Nat} (hn : n < 32) (t : List Char) :
    Gives (readCodePoint ('0' :: '0' :: hexDigit (n / 16) :: hexDigit (n % 16) :: t))
      (Char.ofNat n) t := by
  have hzero : hexValue? '0' = some 0 := hexValue?_hexDigit 0 (by decide)
  have hhigh := hexValue?_hexDigit (n / 16) (by omega)
  have hlow := hexValue?_hexDigit (n % 16) (by omega)
  have hsum : ((0 * 16 + 0) * 16 + n / 16) * 16 + n % 16 = n := by omega
  refine ⟨by simp only [List.length_cons]; omega, ?_⟩
  simp only [readCodePoint, readHex, hzero, hhigh, hlow, hsum]
  rw [if_neg (by omega), if_pos (by omega)]

/-- A character written by four digits. -/
theorem gives_readText_digits {d : Char} {u : List Char} (hd : Gives (readCodePoint u) d t)
    {cs : List Char} (h : Gives (readText t) cs r) :
    Gives (readText ('\\' :: 'u' :: u)) (d :: cs) r := by
  obtain ⟨ht, hcode⟩ := hd
  obtain ⟨hr, heq⟩ := h
  refine ⟨Nat.lt_succ_of_lt (Nat.lt_succ_of_lt (Nat.lt_trans hr ht)), ?_⟩
  unfold readText
  simp only [if_neg (show ('\\' : Char) ≠ '"' by decide), if_true, hcode, heq]
  rfl

/-- A character is read back from the way it is written. -/
theorem gives_readText_escapeChar (c : Char) {cs : List Char} (h : Gives (readText t) cs r) :
    Gives (readText (escapeChar c ++ t)) (c :: cs) r := by
  by_cases hletter : c = '"' ∨ c = '\\' ∨ c = '\n' ∨ c = '\r' ∨ c = '\t' ∨ c = '\x08' ∨ c = '\x0c'
  · rcases hletter with rfl | rfl | rfl | rfl | rfl | rfl | rfl <;>
      exact gives_readText_letter (by decide) rfl h
  · simp only [not_or] at hletter
    obtain ⟨hquote, hslash, hline, hreturn, htab, hback, hfeed⟩ := hletter
    rw [escapeChar, if_neg hquote, if_neg hslash, if_neg hline, if_neg hreturn, if_neg htab,
      if_neg hback, if_neg hfeed]
    by_cases hcontrol : c.toNat < 32
    · have hcode := gives_readCodePoint hcontrol t
      rw [Char.ofNat_toNat] at hcode
      rw [if_pos hcontrol]
      exact gives_readText_digits hcode h
    · rw [if_neg hcontrol]
      exact gives_readText_plain hquote hslash hcontrol h

theorem gives_readText (cs rest : List Char) :
    Gives (readText (cs.flatMap escapeChar ++ '"' :: rest)) cs rest := by
  induction cs with
  | nil => exact gives_readText_quote rest
  | cons c cs ih =>
      rw [List.flatMap_cons, List.append_assoc]
      exact gives_readText_escapeChar c ih

/-- What stands behind the opening quote of a text. -/
def behindQuote (s : String) : List Char := s.toList.flatMap escapeChar ++ ['"']

theorem toList_quoted (s : String) : (quoted s).toList = '"' :: behindQuote s := by
  rw [quoted, String.toList_ofList, behindQuote, List.cons_append]

theorem gives_readName (name : String) (rest : List Char) :
    Gives (readName (behindQuote name ++ rest)) name rest := by
  rw [behindQuote, List.append_assoc]
  have h := (gives_readText name.toList rest).mapValue String.ofList
  rwa [String.ofList_toList] at h

/-- A text that is wanted as such. -/
theorem gives_string (v : String) (rest : List Char) :
    Gives (string ((quoted v).toList ++ rest)) v rest := by
  rw [toList_quoted, List.cons_append]
  have hblank := skipBlanks_cons (c := '"') rfl (behindQuote v ++ rest)
  unfold string
  split
  · next t h =>
    cases hblank.symm.trans h
    exact (gives_readName v rest).afterFirst h
  · next h => exact absurd hblank (h _)

/-! ## Numbers -/

/-- What may follow a value: nothing, a comma or a closing bracket. -/
def Ends (rest : List Char) : Prop := ∀ c ∈ rest.head?, c = ',' ∨ c = ']' ∨ c = '\x7d'

@[simp] theorem ends_nil : Ends [] := by simp [Ends]

@[simp] theorem ends_comma (t : List Char) : Ends (',' :: t) := by simp [Ends]

@[simp] theorem ends_bracket (t : List Char) : Ends (']' :: t) := by simp [Ends]

@[simp] theorem ends_brace (t : List Char) : Ends ('\x7d' :: t) := by simp [Ends]

theorem Ends.cases {rest : List Char} (h : Ends rest) :
    rest = [] ∨ ∃ c t, rest = c :: t ∧ (c = ',' ∨ c = ']' ∨ c = '\x7d') := by
  cases rest with
  | nil => exact .inl rfl
  | cons c t => exact .inr ⟨c, t, rfl, h c rfl⟩

/-- A number above zero does not start with a zero. -/
theorem head_toDigits {n : Nat} (hn : 0 < n) : ∀ c ∈ (Nat.toDigits 10 n).head?, c ≠ '0' := by
  induction n using Nat.strongRecOn with
  | _ n ih =>
      by_cases hlt : n < 10
      · have hsmall : ∀ k < 10, 0 < k → Nat.digitChar k ≠ '0' := by decide
        simpa [Nat.toDigits_of_lt_base hlt] using hsmall n hlt hn
      · rw [Nat.toDigits_of_base_le (by decide) (by omega), List.head?_append,
          Option.or_of_isSome (by simp [Nat.toDigits_ne_nil])]
        exact ih (n / 10) (by omega) (by omega)

theorem gives_readWhole_zero (atEnd : ReadError) {rest : List Char} (hrest : Ends rest) :
    Gives (readWhole atEnd ('0' :: rest)) ['0'] rest := by
  refine ⟨by simp, ?_⟩
  rw [readWhole]
  rcases hrest.cases with rfl | ⟨c, t, rfl, rfl | rfl | rfl⟩ <;> rfl

theorem gives_readWhole_cons (atEnd : ReadError) {c : Char} {cs rest : List Char} (hc : c ≠ '0')
    (hdigits : ∀ d ∈ c :: cs, d.isDigit = true) (hrest : Ends rest) :
    Gives (readWhole atEnd (c :: (cs ++ rest))) (c :: cs) rest := by
  obtain ⟨hcdigit, hcs⟩ := List.forall_mem_cons.1 hdigits
  have hno : rest.takeWhile Char.isDigit = [] ∧ rest.dropWhile Char.isDigit = rest := by
    rcases hrest.cases with rfl | ⟨c, t, rfl, rfl | rfl | rfl⟩ <;> exact ⟨rfl, rfl⟩
  refine ⟨by simp only [List.length_cons, List.length_append]; omega, ?_⟩
  rw [readWhole.eq_3 _ _ _ hc, if_pos hcdigit]
  simp only [List.takeWhile_append_of_pos hcs, List.dropWhile_append_of_pos hcs, hno,
    List.append_nil]

theorem gives_readWhole (atEnd : ReadError) (n : Nat) {rest : List Char} (hrest : Ends rest) :
    Gives (readWhole atEnd (Nat.toDigits 10 n ++ rest)) (Nat.toDigits 10 n) rest := by
  rcases Nat.eq_zero_or_pos n with rfl | hn
  · exact gives_readWhole_zero atEnd hrest
  · cases hcs : Nat.toDigits 10 n with
    | nil => exact absurd hcs Nat.toDigits_ne_nil
    | cons c cs =>
        refine gives_readWhole_cons atEnd (head_toDigits hn c (by simp [hcs])) (fun d hd => ?_) hrest
        exact Nat.isDigit_of_mem_toDigits (by decide) (by decide) (hcs ▸ hd)

theorem gives_readDigits (atEnd : ReadError) (negative : Bool) (n : Nat) {rest : List Char}
    (hrest : Ends rest) :
    Gives (readDigits atEnd negative (Nat.toDigits 10 n ++ rest))
      ⟨negative, Nat.toDigits 10 n, none, none⟩ rest := by
  obtain ⟨h, heq⟩ := gives_readWhole atEnd n hrest
  have hfraction : readFraction atEnd rest = .ok (none, .all rest) := by
    rcases hrest.cases with rfl | ⟨c, t, rfl, rfl | rfl | rfl⟩ <;> rfl
  have hpower : readPower atEnd rest = .ok (none, .all rest) := by
    rcases hrest.cases with rfl | ⟨c, t, rfl, rfl | rfl | rfl⟩ <;> rfl
  refine ⟨h, ?_⟩
  simp only [readDigits, heq, hfraction]
  simp only [Remainder.all, hpower]

theorem gives_readNumber {negative : Bool} {n : Nat} {v : Number} {rest : List Char}
    (hv : NumberText.number ⟨negative, Nat.toDigits 10 n, none, none⟩ = .ok v)
    (hrest : Ends rest) : Gives (readNumber negative (Nat.toDigits 10 n ++ rest)) v rest := by
  obtain ⟨h, heq⟩ := gives_readDigits .cutShort negative n hrest
  refine ⟨h, ?_⟩
  rw [readNumber, heq]
  simp only [hv]
  rfl

theorem gives_readNumber_nat {n : Nat} (hn : n < Word.unsignedEnd) {rest : List Char}
    (hrest : Ends rest) : Gives (readNumber false (Nat.toDigits 10 n ++ rest)) (.int n) rest := by
  refine gives_readNumber ?_ hrest
  simp only [NumberText.number, Decimal.number, Nat.ofDigitChars_ten_toDigits, if_pos hn]

theorem gives_readNumber_neg {n : Nat} (hpos : 0 < n) (hn : n ≤ Word.signedEnd)
    {rest : List Char} (hrest : Ends rest) :
    Gives (readNumber true (Nat.toDigits 10 n ++ rest)) (.int (-n)) rest := by
  refine gives_readNumber ?_ hrest
  simp only [NumberText.number, Decimal.number, Nat.ofDigitChars_ten_toDigits]
  rw [if_pos ⟨hpos, hn⟩]

end DataMart.Json
