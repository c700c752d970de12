import DataMart.Value

/-!
# SELECT trees

A `Select` is an aggregate query over one mart table, taken apart. Names and values live in different
kinds of node: a value can reach the text of a query only as a placeholder.
-/

namespace DataMart

/-- An entry of the SELECT list. -/
inductive SelectItem where
  /-- An aggregate expression, rendered as given. -/
  | metric (expr : String)
  /-- A column. -/
  | column (name : String)
  /-- A computed grouping key, grouped by its alias. -/
  | derived (expr label : String)
  deriving DecidableEq, Repr

/-- A comparison. -/
inductive CompareOp where
  | eq
  | ne
  | gt
  | gte
  | lt
  | lte
  | isIn
  | isNull
  | notNull
  deriving DecidableEq, Repr

namespace CompareOp

/-- The comparison that a request names; the vocabulary is closed. -/
def ofName? : String → Option CompareOp
  | "eq" => some eq
  | "ne" => some ne
  | "neq" => some ne
  | "gt" => some gt
  | "gte" => some gte
  | "lt" => some lt
  | "lte" => some lte
  | "in" => some isIn
  | "is_null" => some isNull
  | "not_null" => some notNull
  | _ => none

/-- A comparison in the text of a query. -/
def symbol : CompareOp → String
  | eq => "="
  | ne => "!="
  | gt => ">"
  | gte => ">="
  | lt => "<"
  | lte => "<="
  | isIn => "IN"
  | isNull => "IS NULL"
  | notNull => "IS NOT NULL"

/-- Whether the operand is a list. -/
def takesList : CompareOp → Bool
  | isIn => true
  | _ => false

/-- Whether there is no operand. -/
def isUnary : CompareOp → Bool
  | isNull => true
  | notNull => true
  | _ => false

end CompareOp

/-- The right-hand side of a condition; its values are always bound. -/
inductive Operand where
  | absent
  | param (v : Value)
  | list (vs : List Value)

/-- The values that an operand binds, in order. -/
def Operand.values : Operand → List Value
  | .absent => []
  | .param v => [v]
  | .list vs => vs

/-- A condition on a column. -/
structure Predicate where
  column : String
  op : CompareOp
  operand : Operand

/-- A sort direction. -/
inductive SortOrder where
  | asc
  | desc
  deriving DecidableEq, Repr

namespace SortOrder

/-- The direction that a request names, in any case of its letters. -/
def ofName? (name : String) : Option SortOrder :=
  if Text.fold name = "asc" then some asc
  else if Text.fold name = "desc" then some desc
  else none

/-- A direction in the text of a query. -/
def sql : SortOrder → String
  | asc => "ASC"
  | desc => "DESC"

end SortOrder

/-- A key of an ordering. -/
structure OrderItem where
  column : String
  order : SortOrder
  deriving DecidableEq, Repr

/-- An aggregate query over one mart table. -/
structure Select where
  items : List SelectItem
  table : String
  /-- Conditions that a row meets, all of them. -/
  filter : List Predicate
  groupBy : List String
  /-- Conditions that a group meets, all of them. -/
  having : List Predicate
  orderBy : List OrderItem
  limit : Nat

end DataMart
