import DataMart.Query.Select

/-!
# Statements

A `Statement` is the text of a query with the values for its placeholders. Text and values grow side
by side: `bind` is the only operation that writes a placeholder, and it takes the value for it. So a
rendered tree carries its operands in the order in which their placeholders stand.
-/

namespace DataMart

/-- Query text and the values of its placeholders, in order. -/
structure Statement where
  sql : String := ""
  params : List Value := []

namespace Statement

/-- The number of question marks in the text. -/
def placeholders (s : Statement) : Nat := s.sql.toList.count '?'

/-- Text alone. -/
def push (text : String) : Statement := { sql := text }

/-- A placeholder for a value. -/
def bind (v : Value) : Statement := { sql := "?", params := [v] }

/-- One statement behind another. -/
def append (a b : Statement) : Statement := { sql := a.sql ++ b.sql, params := a.params ++ b.params }

instance : Append Statement := ⟨append⟩

/-- Statements in order with `sep` between neighbours. -/
def join (sep : String) : List Statement → Statement
  | [] => {}
  | [a] => a
  | a :: b :: rest => a ++ push sep ++ join sep (b :: rest)

/-- A clause behind a keyword, left out when it has no parts. -/
def clause (keyword sep : String) : List Statement → Statement
  | [] => {}
  | parts => push keyword ++ join sep parts

end Statement

open Statement (push bind join clause)

/-- An entry of the SELECT list in text. -/
def SelectItem.render : SelectItem → Statement
  | .metric expr => push expr
  | .column name => push name
  | .derived expr label => push (expr ++ " AS " ++ label)

/-- The right-hand side of a condition in text, with the blank in front of it. -/
def Operand.render : Operand → Statement
  | .absent => {}
  | .param v => push " " ++ bind v
  | .list vs => push " (" ++ join ", " (vs.map bind) ++ push ")"

/-- A condition in text. -/
def Predicate.render (p : Predicate) : Statement :=
  push (p.column ++ " " ++ p.op.symbol) ++ p.operand.render

/-- A key of an ordering in text. -/
def OrderItem.render (o : OrderItem) : Statement := push (o.column ++ " " ++ o.order.sql)

/-- A query in text. -/
def Select.render (q : Select) : Statement :=
  push "SELECT " ++ join ", " (q.items.map SelectItem.render) ++ push (" FROM " ++ q.table) ++
    clause " WHERE " " AND " (q.filter.map Predicate.render) ++
    clause " GROUP BY " ", " (q.groupBy.map push) ++
    clause " HAVING " " AND " (q.having.map Predicate.render) ++
    clause " ORDER BY " ", " (q.orderBy.map OrderItem.render) ++
    push (" LIMIT " ++ toString q.limit)

end DataMart
