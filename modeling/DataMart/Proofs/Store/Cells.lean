import DataMart.Proofs.Text.Trimming
import DataMart.Store.Cell
import Mathlib

/-!
# What a cell reads as

A value that a column accepts is kept as a cell and read as JSON. It reads as the JSON of the value
itself, with two exceptions among floating-point columns: whole numbers are read as floating-point
ones, and zero without its sign (`readBack`).

* Adding zero to a floating-point number changes at most the sign of zero (`add_positive_zero`).
* `toJson_store`: a cell of a column reads as `readBack` says.
* `adapt_store`: the affinity of a column leaves its cells as they are. Where numbers are kept, the
  only texts are dates, and a date is no number (`Dashed.numberOfText?_eq_none`).
-/

namespace DataMart

/-! ## Adding zero -/

section addZero

open Float.Model.UnpackedFloat

/-- A number that is unpacked and packed again is the same. -/
theorem ofModel_pack_unpack (x : Float) : Float.ofModel (.pack x.toModel.unpack) = x := by
  obtain ⟨⟨bits, valid⟩⟩ := x
  simp only [Float.Model.pack, Float.Model.unpack, pack_unpack_of_valid valid]

/-- Adding zero changes nothing but the sign of zero. -/
theorem add_positive_zero (x : Float) : x + 0.0 = if x = -0.0 then 0.0 else x := by
  have hadd : x + 0.0 = .ofModel (.pack (.add .binary64 x.toModel.unpack (.zero .positive))) := rfl
  have hpack := ofModel_pack_unpack x
  by_cases hzero : x = -0.0
  · rw [if_pos hzero, hzero]
    rfl
  · have hsame : add .binary64 x.toModel.unpack (.zero .positive) = x.toModel.unpack := by
      cases hx : x.toModel.unpack with
      | zero s =>
          cases s with
          | positive => rfl
          | negative =>
              -- only negative zero is unpacked so
              rw [hx] at hpack
              exact absurd hpack.symm hzero
      | _ => rfl
    rw [if_neg hzero, hadd, hsame, hpack]

end addZero

/-! ## Dates are no numbers -/

/-- A text padded with zeros has a digit, and nothing but digits. -/
theorem digits_zeroPadded (width n : Nat) :
    (Text.zeroPadded width n).toList ≠ [] ∧ ∀ c ∈ (Text.zeroPadded width n).toList,
      c.isDigit = true := by
  rw [Text.zeroPadded, String.toList_ofList]
  constructor
  · intro h
    exact Nat.toDigits_ne_nil (List.append_eq_nil_iff.1 h).2
  · rw [List.forall_mem_append]
    refine ⟨?_, fun c hc => Nat.isDigit_of_mem_toDigits (by decide) (by decide) hc⟩
    intro c hc
    rw [List.eq_of_mem_replicate hc]
    rfl

/-- A text starts with a whole number, perhaps with a sign, and a dash behind it. -/
def Dashed (s : List Char) : Prop :=
  ∃ sign digits rest, s = sign ++ (digits ++ '-' :: rest) ∧
    (sign = [] ∨ sign = ['-'] ∨ sign = ['+']) ∧ digits ≠ [] ∧ ∀ c ∈ digits, c.isDigit = true

namespace Dashed

/-- A dashed text goes on as one likes. -/
theorem append {s : List Char} (h : Dashed s) (t : List Char) : Dashed (s ++ t) := by
  obtain ⟨sign, digits, rest, rfl, hsign, hne, hdigits⟩ := h
  exact ⟨sign, digits, rest ++ t, by simp, hsign, hne, hdigits⟩

/-- A date is dashed: its year comes first. -/
theorem of_date (d : Calendar.Date) : Dashed d.text.toList := by
  unfold Calendar.Date.text Calendar.yearText
  split
  · obtain ⟨hne, hdigits⟩ := digits_zeroPadded 4 d.year.toNat
    exact ⟨[], _, _, by simp [List.append_assoc]; rfl, .inl rfl, hne, hdigits⟩
  · obtain ⟨hne, hdigits⟩ := digits_zeroPadded 4 d.year.natAbs
    split
    · exact ⟨['-'], _, _, by simp [List.append_assoc]; rfl, .inr (.inl rfl), hne, hdigits⟩
    · exact ⟨['+'], _, _, by simp [List.append_assoc]; rfl, .inr (.inr rfl), hne, hdigits⟩

/-- No digits with a dash behind them are a decimal. -/
theorem ofChars?_eq_none {digits rest : List Char} (hne : digits ≠ [])
    (hdigits : ∀ c ∈ digits, c.isDigit = true) :
    Decimal.Written.ofChars? (digits ++ '-' :: rest) = none := by
  have hwhole : (digits ++ '-' :: rest).takeWhile Char.isDigit = digits := by
    rw [List.takeWhile_append_of_pos hdigits, List.takeWhile_cons_of_neg (by decide),
      List.append_nil]
  have hrest : (digits ++ '-' :: rest).dropWhile Char.isDigit = '-' :: rest := by
    rw [List.dropWhile_append_of_pos hdigits, List.dropWhile_cons_of_neg (by decide)]
  have hsome : digits.isEmpty = false := List.isEmpty_eq_false_iff.2 hne
  simp [Decimal.Written.ofChars?, hwhole, hrest, hsome]

/-- A sign in front is told from the digits behind it. -/
theorem splitSign_append {sign digits : List Char}
    (hsign : sign = [] ∨ sign = ['-'] ∨ sign = ['+']) (hne : digits ≠ [])
    (hdigits : ∀ c ∈ digits, c.isDigit = true) (rest : List Char) :
    Decimal.splitSign (sign ++ (digits ++ rest)) = (decide (sign = ['-']), digits ++ rest) := by
  rcases hsign with rfl | rfl | rfl
  · obtain ⟨d, tail, rfl⟩ := List.exists_cons_of_ne_nil hne
    have hd : d.isDigit = true := hdigits d List.mem_cons_self
    show Decimal.splitSign (d :: (tail ++ rest)) = (false, d :: (tail ++ rest))
    unfold Decimal.splitSign
    split <;> rename_i heq
    · cases heq
      cases hd
    · cases heq
      cases hd
    · rfl
  · rfl
  · rfl

/-- What is not only digits behind its sign is no whole number. -/
theorem signedNumber?_eq_none {s : List Char}
    (h : (Decimal.splitSign s).2.all Char.isDigit = false) : Decimal.signedNumber? s = none := by
  unfold Decimal.splitSign at h
  unfold Decimal.signedNumber?
  split at h <;> simp [h]

/-- A digit is no blank. -/
theorem isSpace_of_isDigit {c : Char} (h : c.isDigit = true) : Cell.isSpace c = false := by
  cases hc : Cell.isSpace c with
  | false => rfl
  | true =>
      simp only [Cell.isSpace, Bool.or_eq_true, decide_eq_true_eq] at hc
      rcases hc with ((((rfl | rfl) | rfl) | rfl) | rfl) | rfl <;> cases h

/-- No dashed text is a number. -/
theorem numberOfText?_eq_none {s : String} (h : Dashed s.toList) : Cell.numberOfText? s = none := by
  obtain ⟨sign, digits, rest, hs, hsign, hne, hdigits⟩ := h
  have hbody : Text.dropEndWhile Cell.isSpace (s.toList.dropWhile Cell.isSpace) =
      sign ++ (digits ++ '-' :: Text.dropEndWhile Cell.isSpace rest) := by
    have hstart : s.toList.dropWhile Cell.isSpace = s.toList := by
      rw [hs]
      rcases hsign with rfl | rfl | rfl
      · obtain ⟨d, tail, rfl⟩ := List.exists_cons_of_ne_nil hne
        have hspace := isSpace_of_isDigit (hdigits d List.mem_cons_self)
        exact List.dropWhile_cons_of_neg (by rw [hspace]; exact Bool.false_ne_true)
      · exact List.dropWhile_cons_of_neg (by decide)
      · exact List.dropWhile_cons_of_neg (by decide)
    -- the dash stays, so that blanks are trimmed behind it only
    rw [hstart, hs, ← List.append_assoc, Text.dropEndWhile_append_cons (by decide), List.append_assoc]
  have hsplit := splitSign_append hsign hne hdigits ('-' :: Text.dropEndWhile Cell.isSpace rest)
  have hsigned : Decimal.signedNumber?
      (sign ++ (digits ++ '-' :: Text.dropEndWhile Cell.isSpace rest)) = none := by
    apply signedNumber?_eq_none
    rw [hsplit]
    simp
  simp only [Cell.numberOfText?, hbody, hsplit, hsigned, ofChars?_eq_none hne hdigits,
    Option.map_none]

end Dashed

/-! ## Cells -/

/-- What a value in a column of the given type reads as. -/
def readBack (type : ColumnType) : Value → Json
  | .int n => if type = .float then .ofFloat (Float.ofInt n) else .ofInt n
  | .float x => .ofFloat (if x = -0.0 then 0.0 else x)
  | v => v.toJson

/-- Apart from whole numbers among floating-point ones and from negative zero, a value reads as its
own JSON. -/
theorem readBack_eq_toJson {type : ColumnType} {v : Value}
    (hint : type = .float → ∀ n, v ≠ .int n) (hzero : v ≠ .float (-0.0)) :
    readBack type v = v.toJson := by
  cases v with
  | int n =>
      have hne : type ≠ .float := fun h => hint h n rfl
      rw [readBack, if_neg hne, Value.toJson]
  | float x =>
      have hne : x ≠ -0.0 := fun h => hzero (congrArg Value.float h)
      rw [readBack, if_neg hne, Value.toJson]
  | _ => rfl

/-- A floating-point number reads as itself, without the sign of zero. -/
theorem toJson_store_float (x : Float) :
    (Cell.store .float (.float x)).toJson false = readBack .float (.float x) := by
  cases hnan : x.isNaN with
  | true =>
      have hx : x = .nan := by simpa using hnan
      rw [hx]
      rfl
  | false =>
      simp only [Cell.store, Cell.ofValue, hnan, Bool.false_eq_true, if_false, Cell.toJson,
        readBack, add_positive_zero]

/-- A cell of a column reads as it should. -/
theorem toJson_store {type : ColumnType} {v : Value} (h : type.accepts v = true) :
    (Cell.store type v).toJson (type == .boolean) = readBack type v := by
  cases v with
  | float x =>
      cases type <;> cases h
      exact toJson_store_float x
  | bool b =>
      cases type <;> cases h
      cases b <;> rfl
  | null => cases type <;> rfl
  | _ => cases type <;> cases h <;> rfl

/-- The affinity of a column changes nothing about what the column keeps: the texts of a numeric column
are dates, and these look like no numbers. -/
theorem adapt_store {type : ColumnType} {v : Value} (h : type.accepts v = true) :
    Cell.adapt (Affinity.ofDeclared type.sqlName) (Cell.store type v) = Cell.store type v := by
  have haffinity : ∀ t : ColumnType, Affinity.ofDeclared t.sqlName =
      if t = .text then .text else .numeric := by
    intro t
    cases t <;> decide +kernel
  have hdate (d : Calendar.Date) : Cell.numberOfText? d.text = none :=
    (Dashed.of_date d).numberOfText?_eq_none
  have htimestamp (t : Calendar.Timestamp) : Cell.numberOfText? t.text = none := by
    apply Dashed.numberOfText?_eq_none
    rw [Calendar.Timestamp.text, Calendar.Timestamp.textWith, String.toList_append,
      String.toList_append]
    exact ((Dashed.of_date t.date).append _).append _
  rw [haffinity]
  -- a boolean is a number in its cell; texts are all that a numeric column would change
  cases v with
  | timestamp t =>
      cases type <;> cases h
      simp [Cell.store, Cell.ofValue, Cell.adapt, htimestamp]
  | date d =>
      cases type <;> cases h
      simp [Cell.store, Cell.ofValue, Cell.adapt, hdate]
  | float x =>
      cases type <;> cases h
      cases hnan : x.isNaN <;>
        simp only [Cell.store, Cell.ofValue, hnan, if_true, Bool.false_eq_true, if_false] <;> rfl
  | null => cases type <;> rfl
  | _ => cases type <;> cases h <;> rfl

end DataMart
