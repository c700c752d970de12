import DataMart.Fault
import DataMart.Query.Prepared
import DataMart.Query.Statement
import DataMart.Record

/-!
# Answers to queries

What a mart answers to a SELECT tree over one of its tables. Rows are filtered and gathered into
groups, which come in the order of their keys; nulls make one group. Then groups are filtered, ordered
and cut to the limit. Without groups every row is its own.

A `QueryResponse` is an answer as the caller gets it, with the query and what it was bound to.
-/

namespace DataMart

namespace Prepared

/-- The first difference between two lists of cells decides. -/
def compareKeys : List Cell → List Cell → Ordering
  | a :: as, b :: bs => (Cell.compare a b).then (compareKeys as bs)
  | _, _ => .eq

/-- Put a row into the group of its keys; groups stand in the order of their keys. -/
def insertRow (keys : List Cell) (row : Row) :
    List (List Cell × List Row) → List (List Cell × List Row)
  | [] => [(keys, [row])]
  | (k, rows) :: rest =>
    match compareKeys keys k with
    | .lt => (keys, [row]) :: (k, rows) :: rest
    | .eq => (k, row :: rows) :: rest
    | .gt => (k, rows) :: insertRow keys row rest

/-- The rows gathered into groups by the values of some expressions, in order of those. -/
def groups (es : List (Expr Nat)) (rows : List Row) : Except EngineError (List (List Row)) := do
  let keyed ← rows.mapM fun r => do
    let keys ← es.mapM fun e => e.eval [r] r
    return (keys, r)
  let gathered := keyed.foldl (fun acc (keys, r) => insertRow keys r acc) []
  return gathered.map fun g => g.2.reverse

/-- The aggregates of a query that pick one of their rows, each once: those of the SELECT list, of
the ordering and of the conditions on groups. -/
def picks (p : Prepared) : List (Aggregate × Expr Nat) :=
  (p.items.flatMap (fun i => i.expr.picks) ++ p.orderBy.flatMap (fun o => o.1.picks) ++
    p.having.flatMap (fun c => c.expr.picks)).eraseDups

/-- The row that plain columns are taken from in a group. The last aggregate that picks a row decides:
it is the first that holds the extreme, or the last of all if there are only nulls. Without such an
aggregate it is the first; a group without rows has only nulls. -/
def representative (p : Prepared) (group : List Row) : Except EngineError Row :=
  match group with
  | [] => .ok (p.columns.map fun _ => .null)
  | first :: others =>
    match p.picks.getLast? with
    | some (f, e) => do
      let cells ← group.mapM fun r => e.eval [r] r
      let best ← Cell.aggregate f cells
      if best.isNull then return others.getLastD first
      return ((group.zip cells).find? fun rc => Cell.compare rc.2 best == .eq).map Prod.fst
        |>.getD first
    | none => .ok first

/-- What results are made from: groups with the row that stands for each. -/
def units (p : Prepared) (rows : List Row) : Except EngineError (List (List Row × Row)) := do
  if p.grouped then
    let gs ← if p.groupBy.isEmpty then pure [rows] else groups p.groupBy rows
    gs.mapM fun g => do
      let r ← p.representative g
      return (g, r)
  else return rows.map fun r => ([r], r)

/-- Whether one list of ordering keys goes before another or beside it. -/
def ordered (orders : List SortOrder) (a b : List Cell) : Bool :=
  match orders, a, b with
  | o :: os, x :: xs, y :: ys =>
    match Cell.compare x y with
    | .eq => ordered os xs ys
    | .lt => o == .asc
    | .gt => o == .desc
  | _, _, _ => true

/-- The units in the order asked for; those of equal keys stay as they stood. -/
def sorted (p : Prepared) (us : List (List Row × Row)) :
    Except EngineError (List (List Row × Row)) := do
  if p.orderBy.isEmpty then return us
  let keyed ← us.mapM fun u => do
    let keys ← p.orderBy.mapM fun o => o.1.eval u.1 u.2
    return (keys, u)
  let orders := p.orderBy.map Prod.snd
  return (keyed.mergeSort fun a b => ordered orders a.1 b.1).map Prod.snd

/-- The result row of a unit. -/
def output (p : Prepared) (u : List Row × Row) : Except EngineError Record := do
  let fields ← p.items.mapM fun i => do
    let c ← i.expr.eval u.1 u.2
    return (i.name, c.toJson (i.expr.isBoolean p.columns))
  return ⟨fields⟩

/-- The units that meet the conditions on groups. -/
def kept (p : Prepared) (us : List (List Row × Row)) :
    Except EngineError (List (List Row × Row)) :=
  us.filterM fun u => Condition.all p.columns u.1 u.2 p.having

/-- The result of a query. -/
def run (p : Prepared) : Except EngineError (List Record) := do
  let rows ← p.rows.filterM fun r => Condition.all p.columns [r] r p.filter
  let us ← p.units rows
  let us ← p.kept us
  let us ← p.sorted us
  (us.take p.limit).mapM p.output

end Prepared

/-- The result of a SELECT tree on a mart. -/
def Mart.select (m : Mart) (q : Select) : Except EngineError (List Record) := do
  let p ← Prepared.ofSelect m q
  p.run

/-- A row of a table as a result row: every column under its own name. -/
def Table.record (t : Table) (row : Row) : Record :=
  ⟨List.zipWith (fun i c =>
      (c.1, c.2.toJson ((Expr.ref i).isBoolean t.columns)))
    (List.range t.columns.length) (List.zipWith (fun c v => (c.name, v)) t.columns row)⟩

/-- Every row of a table, in stored order. -/
def Mart.dump (m : Mart) (table : String) : Except EngineError (List Record) :=
  match m.table? table with
  | some t => .ok (t.rows.map t.record)
  | none => .error (.noSuchTable table)

/-! ## Responses -/

/-- The answer to a query: the query, what it was bound to, and the rows. -/
structure QueryResponse where
  statement : Statement
  records : List Record

namespace QueryResponse

/-- The bound values in JSON. -/
def params (r : QueryResponse) : Json := .list (r.statement.params.map Value.toBinding)

/-- An answer in JSON. -/
def toJson (r : QueryResponse) : Json :=
  .object [("query_sql", .text r.statement.sql), ("params", r.params),
    ("count", .ofNat r.records.length), ("data", .list (r.records.map Record.toJson))]

end QueryResponse

/-- Answer a query on a mart that was opened for reading; `answer` is what the engine makes of it. -/
def respond (opened : Except EngineError Mart) (statement : Statement)
    (answer : Mart → Except EngineError (List Record)) : Except Fault QueryResponse :=
  match opened.bind answer with
  | .ok records => .ok ⟨statement, records⟩
  | .error e => .error (.execution statement.sql e.message)

end DataMart
