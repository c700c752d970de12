/-!
# The fewest digits that read back

A finite binary floating-point number is `mantissa · 2 ^ exponent`. Every real closer to it than to
its neighbours reads back as it; among the decimals in that interval the shortest is wanted, and of
the shortest the one nearest to the number. The search looks at grids of 1, 2, … 17 significant
digits: on each the number lies between two neighbouring grid points, and the first grid on which
one of the two lies in the interval gives the answer. All of it is exact arithmetic on natural
numbers.
-/

namespace DataMart.Decimal

/-- A positive number in decimal: `digits · 10 ^ exponent`. -/
structure Digits where
  digits : Nat
  exponent : Int
  deriving DecidableEq, Repr

/-- A positive finite number in binary, `mantissa · 2 ^ exponent`; `low` says that the gap to its
neighbour below is half as wide as the gap above. -/
structure Binary where
  mantissa : Nat
  exponent : Int
  low : Bool
  deriving DecidableEq, Repr

/-- The magnitude of a 64-bit floating-point number, from its bits; the number is finite. -/
def Binary.ofBits (bits : UInt64) : Binary :=
  let fraction : Nat := bits.toNat % Nat.pow 2 52
  let biased : Nat := bits.toNat / Nat.pow 2 52 % Nat.pow 2 11
  if biased = 0 then ⟨fraction, -1074, false⟩
  else ⟨Nat.pow 2 52 + fraction, (biased : Int) - 1075, fraction = 0 && biased > 1⟩

/-- Which of two equally near grid points is taken. -/
inductive Tie where
  /-- The one further from zero. -/
  | away
  /-- The one whose last digit is even. -/
  | even
  deriving DecidableEq, Repr

/-- How many decimal digits a number has; zero has one. -/
def digitCount (n : Nat) : Nat := (Nat.toDigits 10 n).length

/-- The power of ten at or below `num / den`, for positive `num` and `den`. -/
def decimalExponent (num den : Nat) : Int :=
  if den ≤ num then (digitCount (num / den) : Int) - 1
  else
    let d := digitCount (den / num)
    if den ≤ num * Nat.pow 10 (d - 1) then -((d : Int) - 1) else -(d : Int)

/-- The interval of a number on the scale of a grid: with `unit` standing for one grid step, the
number is `value / unit`, and the reals that read back as it lie between `lower / unit` and
`upper / unit`, the ends included iff `closed`. -/
structure Interval where
  lower : Nat
  value : Nat
  upper : Nat
  unit : Nat
  closed : Bool

/-- The interval of `b` measured in steps of `10 ^ k`. -/
def Binary.interval (b : Binary) (k : Int) : Interval :=
  let two := b.exponent - 2
  let up := Nat.pow 2 two.toNat * Nat.pow 10 (-k).toNat
  { lower := (4 * b.mantissa - (if b.low then 1 else 2)) * up
    value := 4 * b.mantissa * up
    upper := (4 * b.mantissa + 2) * up
    unit := Nat.pow 2 (-two).toNat * Nat.pow 10 k.toNat
    closed := b.mantissa % 2 = 0 }

/-- Whether the grid point `c` reads back. -/
def Interval.holds (i : Interval) (c : Nat) : Bool :=
  let p := c * i.unit
  if i.closed then i.lower ≤ p && p ≤ i.upper else i.lower < p && p < i.upper

/-- The nearer of the two grid points around the value that read back, if either does. -/
def Interval.nearest (i : Interval) (tie : Tie) : Option Nat :=
  let c := i.value / i.unit
  let below := i.value - c * i.unit
  let above := (c + 1) * i.unit - i.value
  match i.holds c && c ≠ 0, i.holds (c + 1) with
  | false, false => none
  | true, false => some c
  | false, true => some (c + 1)
  | true, true =>
    if below < above then some c
    else if above < below then some (c + 1)
    else match tie with
      | .away => some (c + 1)
      | .even => some (if c % 2 = 0 then c else c + 1)

/-- Search the grids of `n`, `n + 1`, … significant digits, `tries` of them. -/
def Binary.search (b : Binary) (tie : Tie) (top : Int) : (tries n : Nat) → Option Digits
  | 0, _ => none
  | tries + 1, n =>
    let k := top - n + 1
    match (b.interval k).nearest tie with
    | some c => some ⟨c, k⟩
    | none => b.search tie top tries (n + 1)

/-- The digits with the zeros at their end moved into the exponent. -/
def Digits.strip : (tries : Nat) → Digits → Digits
  | 0, d => d
  | tries + 1, d =>
    if d.digits % 10 = 0 ∧ d.digits ≠ 0 then Digits.strip tries ⟨d.digits / 10, d.exponent + 1⟩
    else d

/-- The shortest decimal that reads back as a positive finite number. Seventeen digits always
suffice, so the search cannot come out empty. -/
def shortest (bits : UInt64) (tie : Tie) : Digits :=
  let b := Binary.ofBits bits
  let two := b.exponent
  let top := decimalExponent (b.mantissa * Nat.pow 2 two.toNat) (Nat.pow 2 (-two).toNat)
  match b.search tie top 17 1 with
  | some d => d.strip 20
  | none => ⟨0, 0⟩

end DataMart.Decimal
