import DataMart.Fault
import DataMart.Query.Request
import DataMart.Query.Statement
import DataMart.Text.Blank

/-!
# Requests compiled

Compiling turns a request into a SELECT tree over one table, and the tree into a statement. It is
pure. Values are always bound; expressions and names are taken as written. The checks run in a fixed
order and the first that fails is reported: the limit, the metrics, the dimensions, that there is
anything to select, the conditions on rows, those on groups, that groups exist for them, and the
ordering.
-/

namespace DataMart

/-- The limit of a request that sets none. -/
def defaultLimit : Nat := 100

/-- Compiles requests against one table. -/
structure Compiler where
  table : String
  /-- The limit of a request that sets none. -/
  limit : Nat := defaultLimit
  deriving DecidableEq, Repr

namespace Compiler

/-! ## Dimensions -/

/-- Whether a text starts with a blank, `as` in any case of its letters, and a blank. -/
def startsWithAs : List Char → Bool
  | ' ' :: a :: s :: ' ' :: _ => a.toLower = 'a' && s.toLower = 's'
  | _ => false

/-- A text cut around its last ` as `, if it has one. -/
def splitLastAs : List Char → Option (List Char × List Char)
  | [] => none
  | c :: rest =>
    match splitLastAs rest with
    | some (before, after) => some (c :: before, after)
    | none => if startsWithAs (c :: rest) then some ([], rest.drop 3) else none

/-- The expression and the alias of a dimension written `expr AS alias`; none of the two is blank. -/
def splitAlias? (dimension : String) : Option (String × String) :=
  match splitLastAs dimension.toList with
  | none => none
  | some (before, after) =>
    let expr := Text.trimChars before
    let label := Text.trimChars after
    if expr.isEmpty || label.isEmpty then none
    else some (String.ofList expr, String.ofList label)

/-- The entry of the SELECT list for a dimension. -/
def dimensionItem (dimension : String) : SelectItem :=
  match splitAlias? dimension with
  | some (expr, label) => .derived expr label
  | none => .column dimension

/-- What a dimension is grouped by. -/
def dimensionKey (dimension : String) : String :=
  match splitAlias? dimension with
  | some (_, label) => label
  | none => dimension

/-! ## Conditions -/

/-- The values of a list operand. -/
def listValues (items : List Json) : Option (List Value) := items.mapM Value.ofJson?

/-- What is wrong with the operand of a condition. -/
def badOperand (f : Filter) (reason : String) : Fault :=
  .invalidRequest ("filter on '" ++ f.field ++ "': " ++ reason)

/-- The operand of a condition, of the shape that its operator takes: nothing, a list of scalars
with at least one, or a scalar. -/
def operand (op : CompareOp) (f : Filter) : Except Fault Operand :=
  if op.isUnary then
    match f.value with
    | .null => .ok .absent
    | _ => .error (badOperand f "operator takes no value")
  else if op.takesList then
    match f.value with
    | .list [] => .error (badOperand f "list value is empty")
    | .list items =>
      match listValues items with
      | some vs => .ok (.list vs)
      | none => .error (badOperand f "list items must be scalars")
    | _ => .error (badOperand f "operator 'in' needs a list value")
  else
    match Value.ofJson? f.value with
    | some v => .ok (.param v)
    | none => .error (badOperand f "operator needs a scalar value")

/-- The condition that a filter asks for. -/
def predicate (f : Filter) : Except Fault Predicate :=
  match CompareOp.ofName? f.operator with
  | none => .error (.unsupportedOperator f.operator)
  | some op =>
    if Text.isBlankText f.field then .error (.invalidRequest "filter field is empty")
    else (operand op f).map fun rhs => ⟨f.field, op, rhs⟩

/-! ## Orderings -/

/-- The key of an ordering that a request asks for. -/
def orderItem (o : OrderBy) : Except Fault OrderItem :=
  match SortOrder.ofName? o.direction with
  | some order => .ok ⟨o.column, order⟩
  | none => .error (.invalidDirection o.column o.direction)

/-! ## Plans -/

/-- The place of the first blank metric, counted from `i`. -/
def blankMetric? (i : Nat) : List String → Option Nat
  | [] => none
  | m :: rest => if Text.isBlankText m then some i else blankMetric? (i + 1) rest

/-- Stop with a fault if a condition holds. -/
def refuseIf (bad : Bool) (reason : String) : Except Fault Unit :=
  if bad then .error (.invalidRequest reason) else .ok ()

/-- The SELECT tree of a request. -/
def plan (c : Compiler) (r : Request) : Except Fault Select := do
  let limit := r.limit.getD c.limit
  refuseIf (limit = 0) "limit must be a positive integer"
  match blankMetric? 0 r.metrics with
  | some i => throw (.invalidRequest ("metric " ++ toString i ++ " is empty"))
  | none =>
    refuseIf (r.dimensions.any Text.isBlankText) "dimension name is empty"
    refuseIf (r.metrics.isEmpty && r.dimensions.isEmpty)
      "request needs at least one metric or dimension"
    let filter ← r.filters.mapM predicate
    let having ← r.having.mapM predicate
    refuseIf (!having.isEmpty && r.dimensions.isEmpty) "having needs at least one dimension"
    let orderBy ← r.orderBy.mapM orderItem
    return {
      items := r.metrics.map .metric ++ r.dimensions.map dimensionItem
      table := c.table
      filter := filter
      groupBy := r.dimensions.map dimensionKey
      having := having
      orderBy := orderBy
      limit := limit }

/-- The statement of a request. -/
def compile (c : Compiler) (r : Request) : Except Fault Statement :=
  (c.plan r).map Select.render

end Compiler

end DataMart
