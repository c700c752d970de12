import DataMart.Decimal.Shortest
import DataMart.Text.Joined
import DataMart.Word

/-!
# Floating-point numbers as text

Two layouts of the shortest digits are in use. Cells and bindings that are shown to a reader are
written positionally, whatever their size, and a whole number has no point. In JSON a number stays
recognisable as a floating-point one: it keeps `.0` or an exponent, and it is positional from `1e-5`
up to, but without, `1e16`. A third layout, of at most fifteen significant digits, is the one in
which the mart's engine compares a number with text.
-/

namespace DataMart.Decimal

/-- Whether a floating-point number carries a minus sign; zero may. -/
def isNegative (x : Float) : Bool := Word.signedEnd ≤ x.toBits.toNat

/-- The sign in front of a number. -/
def sign (x : Float) : String := if isNegative x then "-" else ""

/-- Digits with the point `place` digits from their left end, filled up with zeros on either side;
nothing follows the point of a whole number, which is then left out. -/
def positional (digits : List Char) (place : Int) : String :=
  if place ≤ 0 then
    "0." ++ String.ofList (List.replicate (-place).toNat '0' ++ digits)
  else
    let before := place.toNat
    let padded := digits ++ List.replicate (before - digits.length) '0'
    let whole := String.ofList (padded.take before)
    let fraction := padded.drop before
    if fraction.isEmpty then whole else whole ++ "." ++ String.ofList fraction

/-- Digits with a point after the first and an exponent behind. -/
def scientific (digits : List Char) (exponent : String) : String :=
  match digits with
  | [] => exponent
  | [d] => String.ofList [d] ++ exponent
  | d :: rest => String.ofList [d, '.'] ++ String.ofList rest ++ exponent

/-- A power of ten behind a mantissa, always with its sign. -/
def exponentText (e : Int) : String :=
  (if e < 0 then "e-" else "e+") ++ toString e.natAbs

/-- A number as a reader sees it: the shortest digits, positional, a tie going away from zero. -/
def shown (x : Float) : String :=
  if x.isNaN then "NaN"
  else if x.isInf then sign x ++ "inf"
  else if x == 0.0 then sign x ++ "0"
  else
    let d := shortest (x.abs).toBits .away
    let digits := Nat.toDigits 10 d.digits
    sign x ++ positional digits (d.exponent + digits.length)

/-- A finite number in JSON: the shortest digits, a tie going to the even digit, positional iff the
power of ten of the first digit lies from -5 to 15. -/
def inJson (x : Float) : String :=
  if x == 0.0 then sign x ++ "0.0"
  else
    let d := shortest (x.abs).toBits .even
    let digits := Nat.toDigits 10 d.digits
    let place := d.exponent + digits.length
    if -5 < place ∧ place ≤ 16 then
      sign x ++ positional digits place ++ (if 0 ≤ d.exponent then ".0" else "")
    else
      sign x ++ scientific digits (exponentText (place - 1))

/-- A positive number rounded to `n` significant digits, a half going up. -/
def rounded (bits : UInt64) (n : Nat) : Digits :=
  let b := Binary.ofBits bits
  let two := b.exponent
  let top := decimalExponent (b.mantissa * Nat.pow 2 two.toNat) (Nat.pow 2 (-two).toNat)
  let k := top - n + 1
  let num := b.mantissa * Nat.pow 2 two.toNat * Nat.pow 10 (-k).toNat
  let den := Nat.pow 2 (-two).toNat * Nat.pow 10 k.toNat
  Digits.strip (n + 1) ⟨(2 * num + den) / (2 * den), k⟩

/-- A finite number as the mart's engine turns it into text: at most fifteen significant digits,
always a point, and an exponent of at least two digits outside `1e-4` to `1e15`. -/
def asText (x : Float) : String :=
  if x.isInf then sign x ++ "Inf"
  else if x == 0.0 then "0.0"
  else
    let d := rounded (x.abs).toBits 15
    let digits := Nat.toDigits 10 d.digits
    let place := d.exponent + digits.length
    if -4 < place ∧ place ≤ 15 then
      sign x ++ positional digits place ++ (if 0 ≤ d.exponent then ".0" else "")
    else
      let mantissa := if digits.length = 1 then digits ++ ['0'] else digits
      let e := place - 1
      sign x ++ scientific mantissa
        ((if e < 0 then "e-" else "e+") ++ Text.zeroPadded 2 e.natAbs)

end DataMart.Decimal
