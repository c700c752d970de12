/-!
# Decimal text read as a number

Decimal text is read to the nearest floating-point number. The text is a sign, digits with at most
one point among them, and at most one power of ten; or one of the words for infinity and for what is
not a number, in any letter case.
-/

namespace DataMart.Decimal

/-- A decimal as written: its digits as one whole number, and the power of ten they stand for. -/
structure Written where
  digits : Nat
  exponent : Int
  deriving DecidableEq, Repr

/-- The number that a string of decimal digits stands for. -/
def number (digits : List Char) : Nat := Nat.ofDigitChars 10 digits 0

/-- A whole number with a sign in front, or none. -/
def signedNumber? (s : List Char) : Option Int :=
  let unsigned (t : List Char) : Option Nat :=
    if t.isEmpty || !t.all Char.isDigit then none else some (number t)
  match s with
  | '-' :: t => (unsigned t).map fun n => -(n : Int)
  | '+' :: t => (unsigned t).map Int.ofNat
  | t => (unsigned t).map Int.ofNat

/-- An unsigned decimal: digits, a fraction, a power of ten. At least one digit stands before or
behind the point. -/
def Written.ofChars? (s : List Char) : Option Written :=
  let whole := s.takeWhile Char.isDigit
  let rest := s.dropWhile Char.isDigit
  let (fraction, rest) : List Char × List Char := match rest with
    | '.' :: t => (t.takeWhile Char.isDigit, t.dropWhile Char.isDigit)
    | t => ([], t)
  if whole.isEmpty && fraction.isEmpty then none
  else
    let digits := number (whole ++ fraction)
    let places : Int := fraction.length
    match rest with
    | [] => some ⟨digits, -places⟩
    | c :: t =>
      if c = 'e' ∨ c = 'E' then (signedNumber? t).map fun e => ⟨digits, e - places⟩ else none

/-- The power of ten beyond which every number written in this many digits overflows, and below
minus which every one is zero. -/
def exponentBound (w : Written) : Int := 400 + (Nat.toDigits 10 w.digits).length

/-- The nearest floating-point number to a decimal. -/
def Written.toFloat (w : Written) : Float :=
  if w.digits = 0 then 0.0
  else if exponentBound w < w.exponent then 1.0 / 0.0
  else if w.exponent < -exponentBound w then 0.0
  else if 0 ≤ w.exponent then Float.ofScientific w.digits false w.exponent.toNat
  else Float.ofScientific w.digits true (-w.exponent).toNat

/-- The nearest single-precision number to a decimal, widened. -/
def Written.toSingle (w : Written) : Float :=
  if w.digits = 0 then 0.0
  else if exponentBound w < w.exponent then 1.0 / 0.0
  else if w.exponent < -exponentBound w then 0.0
  else if 0 ≤ w.exponent then (Float32.ofScientific w.digits false w.exponent.toNat).toFloat
  else (Float32.ofScientific w.digits true (-w.exponent).toNat).toFloat

/-- A text without its sign, and whether that was a minus. -/
def splitSign : List Char → Bool × List Char
  | '-' :: t => (true, t)
  | '+' :: t => (false, t)
  | t => (false, t)

/-- Read a number in decimal, `round` taking the decimal to a floating-point number. -/
def read? (round : Written → Float) (text : String) : Option Float :=
  let (negative, body) := splitSign text.toList
  let small := String.ofList (body.map Char.toLower)
  let magnitude :=
    if small = "inf" ∨ small = "infinity" then some (1.0 / 0.0)
    else if small = "nan" then some (0.0 / 0.0)
    else (Written.ofChars? body).map round
  magnitude.map fun x => if negative then -x else x

/-- The double-precision number that a text stands for. -/
def float? (text : String) : Option Float := read? Written.toFloat text

/-- The single-precision number that a text stands for, widened. -/
def single? (text : String) : Option Float := read? Written.toSingle text

end DataMart.Decimal
