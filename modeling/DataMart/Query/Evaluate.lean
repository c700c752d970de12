import DataMart.Query.Total

/-!
# Values of expressions

The cell that an expression has on a row of a group. An aggregate ranges over the cells of its
argument on the rows of the group, less the nulls; everything else looks at the one row. Whole numbers
stay whole in arithmetic as long as the result fits 64 bits.
-/

namespace DataMart

/-- A row of a table. -/
abbrev Row := List Cell

namespace Cell

/-! ## Aggregates and arithmetic -/

/-- The first cell that no other precedes under `before`, or null. -/
def extreme (before : Cell → Cell → Bool) : List Cell → Cell
  | [] => .null
  | c :: rest => rest.foldl (fun best d => if before d best then d else best) c

/-- Whether one cell is less than another. -/
def isLess (a b : Cell) : Bool := compare a b == .lt

/-- An aggregate of the cells that are not null. -/
def aggregate (f : Aggregate) (cells : List Cell) : Except EngineError Cell :=
  let present := cells.filter fun c => !c.isNull
  match f with
  | .count => .ok (.int present.length)
  | .sum => (Total.ofCells present).cell
  | .avg => .ok (Total.ofCells present).mean
  | .min => .ok (extreme isLess present)
  | .max => .ok (extreme (fun a b => isLess b a) present)

/-- Arithmetic on floating-point numbers; dividing by zero gives null. -/
def arithReal (op : Arithmetic) (x y : Float) : Cell :=
  match op with
  | .add => ofFloat (x + y)
  | .sub => ofFloat (x - y)
  | .mul => ofFloat (x * y)
  | .div => if y == 0.0 then .null else ofFloat (x / y)

/-- Arithmetic on two cells: whole numbers stay whole as long as they fit, and a division of whole
numbers drops the fraction. -/
def arith (op : Arithmetic) (a b : Cell) : Cell :=
  if a.isNull || b.isNull then .null
  else
    match a.toNumber, b.toNumber with
    | .int m, .int n =>
      let exact := match op with
        | .add => m + n
        | .sub => m - n
        | .mul => m * n
        | .div => Int.tdiv m n
      if op = .div ∧ n = 0 then .null
      else if Word.fitsSigned exact then .int exact
      else arithReal op (Float.ofInt m) (Float.ofInt n)
    | _, _ => arithReal op a.toReal b.toReal

end Cell

namespace Expr

/-- The cell that an expression has on a row of a group; aggregates range over the group. -/
def eval (group : List Row) (row : Row) : Expr Nat → Except EngineError Cell
  | literal c => .ok c
  | ref i => .ok (row.getD i .null)
  | coalesce a b => do
    let c ← a.eval group row
    if c.isNull then b.eval group row else return c
  | arith op a b => do
    let c ← a.eval group row
    let d ← b.eval group row
    return Cell.arith op c d
  | countRows _ => .ok (.int group.length)
  | aggregate f _ a => do
    let cells ← group.mapM fun r => a.eval [r] r
    Cell.aggregate f cells

/-- The affinity of an expression: that of a plain column, and none otherwise. -/
def affinity (columns : List TableColumn) : Expr Nat → Affinity
  | ref i => ((columns[i]?).map fun c => Affinity.ofDeclared c.declared).getD .none
  | _ => .none

/-- Whether an expression is a plain column of a declared boolean type. -/
def isBoolean (columns : List TableColumn) : Expr Nat → Bool
  | ref i => ((columns[i]?).map fun c =>
      Text.sameName c.declared "boolean" || Text.sameName c.declared "bool").getD false
  | _ => false

end Expr

end DataMart
