import DataMart.Query.Expression

/-!
# Sums

A `Total` is a sum under way. Whole numbers are added exactly as long as their sum fits 64 bits. From
the first other number on, or the first sum that does not fit, the sum goes on in floating point, and
what every addition rounds off is collected beside it and added at the end.
-/

namespace DataMart

/-- A sum under way. -/
structure Total where
  /-- How many numbers were added. -/
  count : Nat := 0
  /-- The exact sum, while it is kept. -/
  whole : Int := 0
  /-- The sum in floating point, once it is begun. -/
  sum : Float := 0.0
  /-- What the additions rounded off. -/
  lost : Float := 0.0
  approximate : Bool := false
  /-- A sum of whole numbers did not fit, and no other number came after it. -/
  overflow : Bool := false

namespace Total

/-- From here on a whole number is split before it is turned into a floating-point one. -/
def splitFrom : Nat := 4503599627370496

/-- A whole number as two floating-point ones whose sum it is. -/
def split (n : Int) : Float × Float :=
  if n.natAbs < splitFrom then (Float.ofInt n, 0.0)
  else (Float.ofInt (n - Int.tmod n 16384), Float.ofInt (Int.tmod n 16384))

/-- Add in floating point. -/
def addReal (t : Total) (x : Float) : Total :=
  let s := t.sum + x
  let off := if x.abs < t.sum.abs then (t.sum - s) + x else (x - s) + t.sum
  { t with sum := s, lost := t.lost + off }

/-- Add a whole number in floating point. -/
def addSplit (t : Total) (n : Int) : Total :=
  if n.natAbs < splitFrom then t.addReal (Float.ofInt n)
  else
    let (big, small) := split n
    (t.addReal big).addReal small

/-- Go on in floating point. -/
def approximated (t : Total) : Total :=
  if t.approximate then t
  else
    let (big, small) := split t.whole
    { t with sum := big, lost := small, approximate := true }

/-- Add a cell that is not null. -/
def add (t : Total) (c : Cell) : Total :=
  let t := { t with count := t.count + 1 }
  match c.wholeNumber? with
  | some n =>
    if t.approximate then t.addSplit n
    else if Word.fitsSigned (t.whole + n) then { t with whole := t.whole + n }
    else { t.approximated.addSplit n with overflow := true }
  | none => { t.approximated.addReal c.toReal with overflow := false }

/-- The sum of cells that are not null. -/
def ofCells (cells : List Cell) : Total := cells.foldl add {}

/-- The sum as a floating-point number. -/
def value (t : Total) : Float :=
  if t.approximate then (if t.lost.isFinite then t.sum + t.lost else t.sum)
  else Float.ofInt t.whole

/-- The sum as a cell: whole if all numbers were; nothing sums to null. -/
def cell (t : Total) : Except EngineError Cell :=
  if t.count = 0 then .ok .null
  else if t.overflow then .error .integerOverflow
  else if t.approximate then .ok (.ofFloat t.value)
  else .ok (.int t.whole)

/-- The mean, always a floating-point number; of nothing it is null. -/
def mean (t : Total) : Cell :=
  if t.count = 0 then .null else .ofFloat (t.value / Float.ofNat t.count)

end Total

end DataMart
