import DataMart.Query.Evaluate
import DataMart.Query.Scope
import DataMart.Query.Select

/-!
# Prepared queries

A SELECT tree with every name looked up in a mart. Names are looked up before anything runs: the
table first, then the SELECT list, the conditions on groups, those on rows, the ordering and the
grouping; the first that fails is reported. Then aggregates out of place and a limit out of range
are refused.
-/

namespace DataMart

/-! ## Conditions -/

/-- A condition with its names looked up. -/
structure Condition where
  expr : Expr Nat
  op : CompareOp
  operand : Operand

namespace Condition

/-- Whether a cell and a bound value compare as wanted; a null never does. -/
def compares (op : CompareOp) (affinity : Affinity) (c : Cell) (v : Value) : Bool :=
  let d := Cell.adapt affinity (Cell.ofValue v)
  if c.isNull || d.isNull then false
  else
    match op, Cell.compare c d with
    | .eq, o => o == .eq
    | .isIn, o => o == .eq
    | .ne, o => o != .eq
    | .gt, o => o == .gt
    | .gte, o => o != .lt
    | .lt, o => o == .lt
    | .lte, o => o != .gt
    | _, _ => false

/-- Whether a cell meets a condition. -/
def accepts (affinity : Affinity) (c : Cell) (p : Condition) : Bool :=
  match p.op with
  | .isNull => c.isNull
  | .notNull => !c.isNull
  | op => p.operand.values.any (compares op affinity c)

/-- Whether a row of a group meets every condition. -/
def all (columns : List TableColumn) (group : List Row) (row : Row) :
    List Condition → Except EngineError Bool
  | [] => .ok true
  | p :: rest => do
    let c ← p.expr.eval group row
    if p.accepts (p.expr.affinity columns) c then all columns group row rest else return false

end Condition

/-! ## Looking names up -/

/-- A SELECT tree with every name looked up. -/
structure Prepared where
  columns : List TableColumn
  rows : List Row
  items : List OutputItem
  /-- Whether rows are gathered into groups. -/
  grouped : Bool
  filter : List Condition
  groupBy : List (Expr Nat)
  having : List Condition
  orderBy : List (Expr Nat × SortOrder)
  limit : Nat

namespace Prepared

/-- The table that the text behind `FROM` names. -/
def tableOf (m : Mart) (text : String) : Except EngineError Table :=
  let name := match Expr.tokens text with
    | .ok [.quoted s] => s
    | _ => text
  match m.table? name with
  | some t => .ok t
  | none => .error (.noSuchTable name)

/-- The text of an entry of the SELECT list. -/
def itemText : SelectItem → String
  | .metric expr => expr
  | .column name => name
  | .derived expr label => expr ++ " AS " ++ label

/-- The name of an entry in the result: its alias, else the spelling of the column that it is, else
its text. -/
def outputName (columns : List TableColumn) (i : ItemExpr) (e : Expr Nat) : String :=
  match i.alias?, e with
  | some a, _ => a
  | none, .ref n => ((columns[n]?).map TableColumn.name).getD i.text
  | none, _ => i.text

/-- An entry of the SELECT list, its names looked up among the columns. -/
def prepareItem (columns : List TableColumn) (item : SelectItem) :
    Except EngineError OutputItem := do
  let i ← ItemExpr.ofText (itemText item)
  let bound ← i.expr.bindRefs (Scope.lookupColumn columns)
  let e ← Scope.refuseAggregates bound.nestedAggregates bound
  return ⟨outputName columns i e, i.alias?, e⟩

/-- A condition, its names looked up; where rows are not gathered it has no aggregate. -/
def prepareCondition (s : Scope) (p : Predicate) : Except EngineError Condition := do
  let bound ← Scope.read s.lookup p.column
  let e ← if s.grouped then pure bound else Scope.refuseAggregates bound.aggregates bound
  return ⟨e, p.op, p.operand⟩

/-- Conditions, their names looked up in order. An unknown name in a comparison is reported at once.
One in a test for null is `pending` until the next comparison, which it precedes, or the end, and
gives way to one in a later test for null. -/
def prepareConditions (s : Scope) (pending : Option EngineError) :
    List Predicate → Except EngineError (List Condition)
  | [] =>
    match pending with
    | some e => .error e
    | none => .ok []
  | p :: rest =>
    if p.op.isUnary then
      match prepareCondition s p with
      | .ok c => (prepareConditions s pending rest).map (c :: ·)
      | .error e => prepareConditions s (some e) rest
    else
      match pending with
      | some e => .error e
      | none => do
        let c ← prepareCondition s p
        let others ← prepareConditions s none rest
        return c :: others

/-- A key of the ordering, its names looked up. -/
def prepareOrder (s : Scope) (o : OrderItem) : Except EngineError (Expr Nat × SortOrder) := do
  let e ← s.readOrder o.column
  return (e, o.order)

/-- The expressions that are taken of single rows: those of the conditions on rows, and where rows
are not gathered those of the ordering. -/
def ofRows (p : Prepared) : List (Expr Nat) :=
  p.filter.map Condition.expr ++ if p.grouped then [] else p.orderBy.map Prod.fst

/-- What a query with every name looked up is refused for: an aggregate among the grouping keys, one
that is taken of single rows, of several the last, or a limit that is no signed word. -/
def refusal? (p : Prepared) : Option EngineError :=
  if p.groupBy.any fun e => !e.aggregates.isEmpty then some .groupedAggregate
  else
    match (p.ofRows.flatMap Expr.aggregates).getLast? with
    | some name => some (.misusedAggregate name)
    | none => if Word.signedEnd ≤ p.limit then some .datatypeMismatch else none

/-- Whether a query gathers rows into groups: it has grouping keys or an aggregate in its list. -/
def gathers (groupBy : List String) (items : List OutputItem) : Bool :=
  !groupBy.isEmpty || items.any fun i => !i.expr.aggregates.isEmpty

/-- Look up every name of a SELECT tree. -/
def ofSelect (m : Mart) (q : Select) : Except EngineError Prepared := do
  let t ← tableOf m q.table
  let items ← q.items.mapM (prepareItem t.columns)
  let scope : Scope := ⟨t.columns, items, gathers q.groupBy items⟩
  let having ← prepareConditions scope none q.having
  let filter ← prepareConditions scope none q.filter
  let orderBy ← q.orderBy.mapM (prepareOrder scope)
  let groupBy ← q.groupBy.mapM (Scope.read scope.lookup)
  let p : Prepared :=
    ⟨t.columns, t.rows, items, scope.grouped, filter, groupBy, having, orderBy, q.limit⟩
  match p.refusal? with
  | some e => throw e
  | none => return p

end Prepared

end DataMart
