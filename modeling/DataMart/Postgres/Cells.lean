import DataMart.Decimal.Reading
import DataMart.Calendar.Timestamp
import DataMart.Text.Blank
import DataMart.Word

/-!
# Cells of PostgreSQL

A cell comes as text, and what it is read as depends on the type of its column. `Decoders` are the
ways to read cells of those types that are not taken over as they are; `Decoders.standard` reads them
as the client of the server does.

Times are scanned part by part (`Scan`): a number may stand behind blanks, the first part that is
wrong is the one that is told, and a part out of range is told before what follows it is looked at.
-/

namespace DataMart.Postgres

/-- What is said about a text that is no boolean. -/
def badBool (s : String) : String := "unexpected value \"" ++ s ++ "\" for boolean"

/-- A boolean. -/
def bool? (s : String) : Except String Bool :=
  if s = "t" then .ok true else if s = "f" then .ok false else .error (badBool s)

/-- A whole number of `bits` bits with a sign. Digits that are too many are told before what follows
them is looked at. -/
def int? (bits : Nat) (s : String) : Except String Int :=
  if s.isEmpty then .error "cannot parse integer from empty string"
  else
    let (negative, body) := Decimal.splitSign s.toList
    let digits := body.takeWhile Char.isDigit
    let n := Decimal.number digits
    let limit := Nat.pow 2 (bits - 1)
    if negative ∧ limit < n then .error "number too small to fit in target type"
    else if ¬ negative ∧ limit ≤ n then .error "number too large to fit in target type"
    else if digits.isEmpty ∨ digits.length < body.length then
      .error "invalid digit found in string"
    else .ok (if negative then -(n : Int) else n)

/-- What is said about a text that is no floating-point number. -/
def badFloat (s : String) : String :=
  if s.isEmpty then "cannot parse float from empty string" else "invalid float literal"

/-- A floating-point number, or what is said about the text. -/
def floatBy (read? : String → Option Float) (s : String) : Except String Float :=
  match read? s with
  | some x => .ok x
  | none => .error (badFloat s)

/-! ## Times -/

/-- What is said about a text that ends too soon. -/
def tooShort : String := "premature end of input"

/-- What is said about a text with something behind its end. -/
def tooLong : String := "trailing input"

/-- What is said about a character in the wrong place. -/
def misplaced : String := "input contains invalid characters"

/-- What is said about a part, or a time, that does not exist. -/
def outOfRange : String := "input is out of range"

/-- Work on a text from its start on: what was read, and what is left. -/
abbrev Scan (α : Type) : Type := StateT (List Char) (Except String) α

namespace Scan

/-- Blanks, if there are any. -/
def blanks : Scan Unit := modify (·.dropWhile Text.isBlank)

/-- A character that has to be there. -/
def literal (c : Char) : Scan Unit := fun s =>
  match s with
  | [] => .error tooShort
  | d :: rest => if c = d then .ok ((), rest) else .error misplaced

/-- Digits, one at least and `most` at most, if there is such a bound; without one their number is one
of 64 bits. -/
def digits (most : Option Nat) : Scan (List Char) := fun s =>
  let run := (match most with | some n => s.take n | none => s).takeWhile Char.isDigit
  if s.isEmpty then .error tooShort
  else if run.isEmpty then .error misplaced
  else if most.isNone ∧ Word.signedEnd ≤ Decimal.number run then .error outOfRange
  else .ok (run, s.drop run.length)

/-- A part of two digits at most, in its range. -/
def part (first last : Nat) : Scan Nat := do
  blanks
  let run ← digits (some 2)
  let n := Decimal.number run
  if first ≤ n ∧ n ≤ last then return n else throw outOfRange

/-- A year: four digits at most, or a sign and any number of them. -/
def year : Scan Int := do
  blanks
  let y ← match ← get with
    | '-' :: rest => do
      set rest
      let run ← digits none
      pure (-(Decimal.number run : Int))
    | '+' :: rest => do
      set rest
      let run ← digits none
      pure (Decimal.number run : Int)
    | _ => do
      let run ← digits (some 4)
      pure (Decimal.number run : Int)
  if -2147483648 ≤ y ∧ y < 2147483648 then return y else throw outOfRange

/-- A year, a month and a day. -/
def day : Scan (Int × Nat × Nat) := do
  let year ← year
  literal '-'
  let month ← part 1 12
  literal '-'
  let day ← part 1 31
  return (year, month, day)

/-- The nanoseconds of a fraction, of which nine digits count. -/
def fraction : Scan Nat := do
  match ← get with
  | '.' :: rest =>
    set rest
    let run ← digits (some 9)
    modify (·.dropWhile Char.isDigit)
    return Decimal.number ((run ++ List.replicate 9 '0').take 9)
  | _ => return 0

/-- An hour, a minute, a second and nanoseconds. -/
def clock : Scan (Nat × Nat × Nat × Nat) := do
  let hour ← part 0 23
  literal ':'
  let minute ← part 0 59
  literal ':'
  let second ← part 0 60
  let nanos ← fraction
  return (hour, minute, second, nanos)

/-- Two bytes at the start of a text, if they are characters of their own. -/
def pair : Scan (Char × Char) := fun s =>
  match s with
  | a :: b :: rest => if a.utf8Size = 1 then .ok ((a, b), rest) else .error misplaced
  | [a] => .error (if a.utf8Size = 1 then tooShort else misplaced)
  | [] => .error tooShort

/-- A distance from the time of Greenwich, of which the minutes may be missing. -/
def offset : Scan Unit := do
  blanks
  match ← get with
  | 'Z' :: rest => set rest
  | 'z' :: rest => set rest
  | sign :: rest =>
    if sign = '+' ∨ sign = '-' ∨ sign = '\u2212' then
      set rest
      let (h, h') ← pair
      if h.isDigit ∧ h'.isDigit then
        modify (·.dropWhile fun c => c = ':' || Text.isBlank c)
        if (← get).isEmpty then return
        let (m, m') ← pair
        if m.isDigit ∧ m'.isDigit then
          if '6' ≤ m then throw outOfRange
        else throw misplaced
      else throw misplaced
    else throw misplaced
  | [] => throw tooShort

/-- What a text reads as, if it is read to its end. -/
def whole {α : Type} (scan : Scan α) (s : String) : Except String α := do
  let (a, rest) ← scan s.toList
  if rest.isEmpty then return a else throw tooLong

end Scan

/-- A date. -/
def date? (s : String) : Except String Calendar.Date := do
  let (year, month, day) ← Scan.day.whole s
  match Calendar.Date.ofParts? year month day with
  | some d => return d
  | none => throw outOfRange

/-- A date and a time of day. Where there is a plus sign in the text it has a zone behind it, which is
not looked at: the server tells times of day in Greenwich. -/
def timestamp? (s : String) : Except String Calendar.Timestamp := do
  let scan : Scan _ := do
    let day ← Scan.day
    Scan.blanks
    let clock ← Scan.clock
    if s.toList.contains '+' then Scan.offset
    return (day, clock)
  let ((year, month, day), hour, minute, second, nanos) ← scan.whole s
  let (second, nanos) :=
    if second = 60 then (59, nanos + Calendar.nanosPerSecond) else (second, nanos)
  match (Calendar.Date.ofParts? year month day).bind fun d =>
      Calendar.Timestamp.ofParts? d hour minute second nanos with
  | some t => return t
  | none => throw outOfRange

/-! ## Identifiers -/

/-- Whether a character is a hexadecimal digit. -/
def isHex (c : Char) : Bool := c.isDigit || ('a' ≤ c.toLower && c.toLower ≤ 'f')

/-- The places of the hyphens in an identifier. -/
def isHyphenPlace (i : Nat) : Bool := i = 8 || i = 13 || i = 18 || i = 23

/-- Whether a text is thirty-two hexadecimal digits in groups of 8, 4, 4, 4 and 12. -/
def isHyphenated (s : List Char) : Bool :=
  s.length = 36 && s.zipIdx.all fun (c, i) => if isHyphenPlace i then c = '-' else isHex c

/-- An identifier, in groups of lower-case digits: bare, in braces, as a name of its own, or without
hyphens. -/
def uuid? (s : String) : Except String String :=
  let chars := s.toList
  let shown (digits : List Char) : String := Text.fold (String.ofList digits)
  let bare := if chars.length = 45 ∧ "urn:uuid:".toList.isPrefixOf chars then chars.drop 9
    else if chars.length = 38 ∧ chars.head? = some '{' ∧ chars.getLast? = some '}' then
      (chars.drop 1).dropLast
    else chars
  if isHyphenated bare then .ok (shown bare)
  else if chars.length = 32 ∧ chars.all isHex then
    .ok (shown ((chars.zipIdx.map fun (c, i) =>
      if i = 8 || i = 12 || i = 16 || i = 20 then ['-', c] else [c]).flatten))
  else .error "invalid UUID"

/-! ## All of them -/

/-- Ways to read the text of a cell, one for each kind of value. -/
structure Decoders where
  bool : String → Except String Bool
  int : (bits : Nat) → String → Except String Int
  single : String → Except String Float
  double : String → Except String Float
  timestamp : String → Except String Calendar.Timestamp
  date : String → Except String Calendar.Date
  uuid : String → Except String String

/-- The client's own. -/
def Decoders.standard : Decoders where
  bool := bool?
  int := int?
  single := floatBy Decimal.single?
  double := floatBy Decimal.float?
  timestamp := timestamp?
  date := date?
  uuid := uuid?

end DataMart.Postgres
