import DataMart.Json.Basic
import DataMart.Decimal.Reading

/-!
# Tokens of JSON text

Reading JSON goes from left to right, and the first problem in the text is the one reported. Three
kinds of problem are told apart: the text is malformed, the text ends too early, or the text is
well formed so far but holds something else than what is wanted.

This module reads blanks, keywords, numbers and texts. Every reader says by its type that it leaves
less than it was given, so whatever repeats readers comes to an end. Values that nobody asked for are
skipped, not read: `skipNumber` and `skipText` accept what a reader of kept values would refuse,
numbers of any size and halves of surrogate pairs.
-/

namespace DataMart.Json

/-- Why JSON text is refused. -/
inductive ReadError where
  /-- The text breaks the grammar. -/
  | malformed
  /-- The text holds another kind of value, a repeated member or too few members. -/
  | mismatch
  /-- The text ends before the value does. -/
  | cutShort
  deriving DecidableEq, Repr

/-- What is left of `s` after something was read from it: less than there was. -/
abbrev Rest (s : List Char) := { r : List Char // r.length < s.length }

/-- What is left of `s`, perhaps all of it. -/
abbrev Remainder (s : List Char) := { r : List Char // r.length ≤ s.length }

/-- Nothing was read yet. -/
def Remainder.all (s : List Char) : Remainder s := ⟨s, Nat.le_refl _⟩

/-- Something was read. -/
def Rest.loosen {s : List Char} (r : Rest s) : Remainder s := ⟨r.1, Nat.le_of_lt r.2⟩

/-- What reading from `s` gives: a result and what is left, or the first problem. -/
abbrev Result (α : Type) (s : List Char) := Except ReadError (α × Rest s)

/-- A reader of results of one type. -/
abbrev Reader (α : Type) := (s : List Char) → Result α s

/-- What is left of a part is left of the whole. -/
def Rest.widen {s t : List Char} (r : Rest t) (h : t.length ≤ s.length) : Rest s :=
  ⟨r.1, Nat.lt_of_lt_of_le r.2 h⟩

/-- A result read from a part is read from the whole. -/
def Result.widen {α : Type} {s t : List Char} (h : t.length ≤ s.length) :
    Result α t → Result α s
  | .ok (a, r) => .ok (a, r.widen h)
  | .error e => .error e

/-- What is left behind a second piece is left of the whole. -/
def Rest.within {s : List Char} {r : Remainder s} (r' : Rest r.1) : Rest s := r'.widen r.2

/-- A result read from what is left is read from the whole. -/
def Rest.andThen {α : Type} {s : List Char} (r : Rest s) (res : Result α r.1) : Result α s :=
  res.widen r.loosen.2

/-- What is made of what was read; the rest stays as it is. -/
def Result.mapValue {α β : Type} {s : List Char} (f : α → β) : Result α s → Result β s
  | .ok (a, r) => .ok (f a, r)
  | .error e => .error e

/-! ## Blanks and keywords -/

/-- The blanks of JSON: space, tab, line feed and carriage return. -/
def isBlank (c : Char) : Bool := c = ' ' || c = '\t' || c = '\n' || c = '\r'

/-- A text without the blanks at its start. -/
def skipBlanks (s : List Char) : List Char := s.dropWhile isBlank

theorem length_dropWhile_le (p : Char → Bool) (s : List Char) :
    (s.dropWhile p).length ≤ s.length := (List.dropWhile_sublist p).length_le

theorem length_skipBlanks_le (s : List Char) : (skipBlanks s).length ≤ s.length :=
  length_dropWhile_le _ _

/-- What stands behind the first character that is no blank is shorter than the text. -/
theorem length_lt_of_skipBlanks {s t : List Char} {c : Char} (h : skipBlanks s = c :: t) :
    t.length < s.length := by
  have hs := length_skipBlanks_le s
  rw [h, List.length_cons] at hs
  exact hs

/-- What is left of a text behind `word`, which has to be there letter by letter. -/
def expect : (word s : List Char) → Except ReadError (Remainder s)
  | [], s => .ok (.all s)
  | _ :: _, [] => .error .cutShort
  | w :: word, c :: s =>
    if w = c then (expect word s).map fun r => ⟨r.1, Nat.le_succ_of_le r.2⟩
    else .error .malformed

/-! ## Numbers -/

/-- A number as it stands in the text. -/
structure NumberText where
  negative : Bool
  /-- The digits before the point. -/
  whole : List Char
  /-- The digits behind the point, if there is one. -/
  fraction : Option (List Char)
  /-- The power of ten, if one is written: whether it is negative, and its digits. -/
  power : Option (Bool × List Char)

/-- The digits at the start of a text and what follows them. -/
def digits (s : List Char) : List Char × List Char :=
  (s.takeWhile Char.isDigit, s.dropWhile Char.isDigit)

/-- Reading digits leaves no more than there was. -/
theorem length_of_digits {s ds r : List Char} (h : digits s = (ds, r)) : r.length ≤ s.length := by
  rw [digits, Prod.mk.injEq] at h
  rw [← h.2]
  exact length_dropWhile_le Char.isDigit s

/-- What is left behind one character more. -/
def Remainder.behind {s : List Char} (c : Char) (r : Remainder s) : Remainder (c :: s) :=
  ⟨r.1, Nat.le_succ_of_le r.2⟩

/-- What ends a number that breaks off: the end of the text counts as `atEnd`. -/
def broken (atEnd : ReadError) : List Char → ReadError
  | [] => atEnd
  | _ :: _ => .malformed

/-- Digits, of which there has to be one. -/
def someDigits (atEnd : ReadError) (s : List Char) :
    Except ReadError (List Char × Remainder s) :=
  match h : digits s with
  | ([], r) => .error (broken atEnd r)
  | (ds, r) => .ok (ds, ⟨r, length_of_digits h⟩)

/-- The power of ten behind a number, if one is written. -/
def readPower (atEnd : ReadError) (s : List Char) :
    Except ReadError (Option (Bool × List Char) × Remainder s) :=
  match s with
  | [] => .ok (none, .all [])
  | c :: t =>
    if c = 'e' ∨ c = 'E' then
      match t with
      | [] => .error atEnd
      | sign :: u =>
        if sign = '+' ∨ sign = '-' then
          (someDigits atEnd u).map fun (ds, r) =>
            (some (sign = '-', ds), (r.behind sign).behind c)
        else
          (someDigits atEnd (sign :: u)).map fun (ds, r) => (some (false, ds), r.behind c)
    else .ok (none, .all (c :: t))

/-- The digits behind the point of a number, if there is one; at least one digit follows it. -/
def readFraction (atEnd : ReadError) (s : List Char) :
    Except ReadError (Option (List Char) × Remainder s) :=
  match s with
  | '.' :: t => (someDigits atEnd t).map fun (ds, r) => (some ds, r.behind '.')
  | s => .ok (none, .all s)

/-- The digits before the point: a zero alone, or digits that start with another one. -/
def readWhole (atEnd : ReadError) (s : List Char) : Result (List Char) s :=
  match s with
  | [] => .error atEnd
  | '0' :: t =>
    if (t.head?.map Char.isDigit).getD false then .error .malformed
    else .ok (['0'], ⟨t, by simp⟩)
  | c :: t =>
    if c.isDigit then
      .ok (c :: t.takeWhile Char.isDigit, ⟨t.dropWhile Char.isDigit, by
        have := length_dropWhile_le Char.isDigit t
        simp only [List.length_cons]; omega⟩)
    else .error .malformed

/-- A number as written, without the sign in front of it. A text that ends where a digit is due
gives `atEnd`. -/
def readDigits (atEnd : ReadError) (negative : Bool) (s : List Char) : Result NumberText s :=
  match readWhole atEnd s with
  | .error e => .error e
  | .ok (whole, r) =>
    match readFraction atEnd r.1 with
    | .error e => .error e
    | .ok (fraction, r') =>
      match readPower atEnd r'.1 with
      | .error e => .error e
      | .ok (power, r'') => .ok (⟨negative, whole, fraction, power⟩, ⟨r''.1, by
          have := r.2; have := r'.2; have := r''.2; omega⟩)

/-- Digits taken into a whole number as long as it fits 64 bits, starting from `n`, and how many of
them were taken. -/
def takeDigits (n : Nat) : List Char → Nat × Nat
  | [] => (n, 0)
  | c :: rest =>
    let m := 10 * n + (c.toNat - '0'.toNat)
    if m < Word.unsignedEnd then
      let (total, taken) := takeDigits m rest
      (total, taken + 1)
    else (n, 0)

/-- A power of ten with a floating-point number for result; the exponent is at most 308. -/
def tenTo (e : Nat) : Float := Float.ofScientific 1 false e

/-- `x` times a power of ten. A large negative power is taken in steps that each stay in range; a
product out of range is no number. -/
def scaled : (tries : Nat) → Float → Int → Option Float
  | 0, x, _ => some x
  | tries + 1, x, e =>
    if e.natAbs ≤ 308 then
      let y := if 0 ≤ e then x * tenTo e.natAbs else x / tenTo e.natAbs
      if y.isInf then none else some y
    else if x == 0.0 then some x
    else if 0 ≤ e then none
    else scaled tries (x / tenTo 308) (e + 308)

/-- The floating-point number for a number that is no 64-bit integer: as many digits as fit 64 bits,
scaled by the power of ten that is left. -/
def NumberText.real (n : NumberText) : Except ReadError Float :=
  let (head, taken) := takeDigits 0 n.whole
  let (significand, behind) := takeDigits head (n.fraction.getD [])
  let start : Int := (n.whole.length - taken : Nat) - (behind : Int)
  let magnitude : Option Float :=
    match n.power with
    | none => scaled 4 (Float.ofNat significand) start
    | some (down, ds) =>
      let e := Decimal.number ds
      if e < 2147483648 then
        scaled 4 (Float.ofNat significand) (if down then start - e else start + e)
      else if significand ≠ 0 ∧ !down then none
      else some 0.0
  match magnitude with
  | none => .error .malformed
  | some x => .ok (if n.negative then -x else x)

/-- The number that a text stands for: an integer if it is written as one and fits 64 bits. -/
def NumberText.number (n : NumberText) : Except ReadError Number :=
  let whole := Decimal.number n.whole
  match n.fraction, n.power, n.negative with
  | none, none, false =>
    if whole < Word.unsignedEnd then .ok (.int whole) else n.real.map .real
  | none, none, true =>
    if 0 < whole ∧ whole ≤ Word.signedEnd then .ok (.int (-whole)) else n.real.map .real
  | _, _, _ => n.real.map .real

/-- A number without the sign in front of it. -/
def readNumber (negative : Bool) (s : List Char) : Result Number s :=
  match readDigits .cutShort negative s with
  | .error e => .error e
  | .ok (n, r) => n.number.map fun v => (v, r)

/-- Skip a number without the sign in front of it, whatever its size. -/
def skipNumber (s : List Char) : Result Unit s :=
  match readDigits .malformed false s with
  | .error e => .error e
  | .ok (_, r) => .ok ((), r)

/-! ## Texts -/

/-- The value of a hexadecimal digit of either case. -/
def hexValue? (c : Char) : Option Nat :=
  if c.isDigit then some (c.toNat - '0'.toNat)
  else if 'a' ≤ c ∧ c ≤ 'f' then some (c.toNat - 'a'.toNat + 10)
  else if 'A' ≤ c ∧ c ≤ 'F' then some (c.toNat - 'A'.toNat + 10)
  else none

/-- How many bytes a text takes in UTF-8. -/
def byteLength (s : List Char) : Nat := s.foldl (fun n c => n + c.utf8Size) 0

/-- The four hexadecimal digits of an escape. Fewer than four bytes to the end of the text cut it
short. -/
def readHex (s : List Char) : Result Nat s :=
  match s with
  | a :: b :: c :: d :: t =>
    match hexValue? a, hexValue? b, hexValue? c, hexValue? d with
    | some w, some x, some y, some z =>
      .ok (((w * 16 + x) * 16 + y) * 16 + z, ⟨t, by simp only [List.length_cons]; omega⟩)
    | _, _, _, _ => .error .malformed
  | s => .error (if byteLength s < 4 then .cutShort else .malformed)

/-- The character that a letter behind a backslash stands for; `u` stands for none by itself. -/
def unescape? : Char → Option Char
  | '"' => some '"'
  | '\\' => some '\\'
  | '/' => some '/'
  | 'b' => some '\x08'
  | 'f' => some '\x0c'
  | 'n' => some '\n'
  | 'r' => some '\r'
  | 't' => some '\t'
  | _ => none

/-- The character written by escapes of four digits: one for most, a pair for those beyond U+FFFF.
`s` starts behind the first `u`. -/
def readCodePoint (s : List Char) : Result Char s :=
  match readHex s with
  | .error e => .error e
  | .ok (n, r) =>
    if 0xDC00 ≤ n ∧ n ≤ 0xDFFF then .error .malformed
    else if n < 0xD800 ∨ 0xDBFF < n then .ok (Char.ofNat n, r)
    else
      match hr : r.1 with
      | [] => .error .cutShort
      | '\\' :: [] => .error .cutShort
      | '\\' :: 'u' :: t =>
        match readHex t with
        | .error e => .error e
        | .ok (m, r') =>
          if m < 0xDC00 ∨ 0xDFFF < m then .error .malformed
          else .ok (Char.ofNat ((n - 0xD800) * 0x400 + (m - 0xDC00) + 0x10000), r'.widen (by
            have := r.2; rw [hr] at this; simp only [List.length_cons] at this; omega))
      | _ :: _ => .error .malformed

/-- The characters of a text up to its closing quote; `s` starts behind the opening one. -/
def readText (s : List Char) : Result (List Char) s :=
  match s with
  | [] => .error .cutShort
  | c :: t =>
    if c = '"' then .ok ([], ⟨t, by simp⟩)
    else if c = '\\' then
      match t with
      | [] => .error .cutShort
      | e :: u =>
        if e = 'u' then
          match readCodePoint u with
          | .error e => .error e
          | .ok (d, r) =>
            match readText r.1 with
            | .error e => .error e
            | .ok (rest, r') => .ok (d :: rest, r'.widen (by
                have := r.2; simp only [List.length_cons]; omega))
        else
          match unescape? e with
          | none => .error .malformed
          | some d =>
            match readText u with
            | .error e => .error e
            | .ok (rest, r') => .ok (d :: rest, r'.widen (by simp only [List.length_cons]; omega))
    else if c.toNat < 32 then .error .malformed
    else
      match readText t with
      | .error e => .error e
      | .ok (rest, r') => .ok (c :: rest, r'.widen (by simp))
termination_by s.length
decreasing_by
  · have := r.2; simp_all only [List.length_cons]; omega
  · simp_all only [List.length_cons]; omega
  · simp_all only [List.length_cons]; omega

/-- Skip a text up to its closing quote. Escapes of four digits need not make characters. -/
def skipText (s : List Char) : Result Unit s :=
  match s with
  | [] => .error .cutShort
  | c :: t =>
    if c = '"' then .ok ((), ⟨t, by simp⟩)
    else if c = '\\' then
      match t with
      | [] => .error .cutShort
      | e :: u =>
        if e = 'u' then
          match readHex u with
          | .error e => .error e
          | .ok (_, r) => (skipText r.1).widen (by
              have := r.2; simp only [List.length_cons]; omega)
        else
          match unescape? e with
          | none => .error .malformed
          | some _ => (skipText u).widen (by simp only [List.length_cons]; omega)
    else if c.toNat < 32 then .error .malformed
    else (skipText t).widen (by simp)
termination_by s.length
decreasing_by
  · have := r.2; simp_all only [List.length_cons]; omega
  · simp_all only [List.length_cons]; omega
  · simp_all only [List.length_cons]; omega

end DataMart.Json
