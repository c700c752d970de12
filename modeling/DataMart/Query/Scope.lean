import DataMart.Query.Expression

/-!
# Names in queries

What a name in the text of a query means. In the SELECT list it is a column of the table. In a
condition or a grouping it is a column, else the entry of the SELECT list with that alias; in an
ordering the alias goes first. A name between double quotes that means nothing is a text.
-/

namespace DataMart

/-- An entry of the SELECT list with its names looked up. -/
structure OutputItem where
  name : String
  alias? : Option String
  expr : Expr Nat

/-- The table and SELECT list that names are looked up in. -/
structure Scope where
  columns : List TableColumn
  items : List OutputItem
  /-- Whether rows are gathered into groups. -/
  grouped : Bool

namespace Scope

/-- The place of the column of a given name. -/
def column? (columns : List TableColumn) (name : String) : Option Nat :=
  columns.findIdx? fun c => Text.sameName c.name name

/-- The expression of the entry with a given alias. -/
def alias? (items : List OutputItem) (name : String) : Option (Expr Nat) :=
  (items.find? fun i => (i.alias?.map (Text.sameName name)).getD false).map OutputItem.expr

/-- What is made of a name that was not found: between double quotes it is a text. -/
def unknown (n : Name) : Except EngineError (Expr Nat) :=
  if n.quoted then .ok (.literal (.text n.text)) else .error (.noSuchColumn n.text)

/-- A name of the SELECT list. -/
def lookupColumn (columns : List TableColumn) (n : Name) : Except EngineError (Expr Nat) :=
  match column? columns n.text with
  | some i => .ok (.ref i)
  | none => unknown n

/-- A name of a condition or a grouping. -/
def lookup (s : Scope) (n : Name) : Except EngineError (Expr Nat) :=
  match column? s.columns n.text with
  | some i => .ok (.ref i)
  | none =>
    match alias? s.items n.text with
    | some e => .ok e
    | none => unknown n

/-- An expression without aggregates of the given names, none of which has a place in it. -/
def refuseAggregates (names : List String) (e : Expr Nat) : Except EngineError (Expr Nat) :=
  match names with
  | [] => .ok e
  | name :: _ => .error (.misplacedAggregate name)

/-- The expression that a text stands for, its names looked up by `find`. -/
def read (find : Name → Except EngineError (Expr Nat)) (text : String) :
    Except EngineError (Expr Nat) := do
  let ts ← Expr.tokens text
  let (e, after) ← Expr.ofTokens ts
  if after.isEmpty then
    let bound ← e.bindRefs find
    refuseAggregates bound.nestedAggregates bound
  else .error (Expr.refuse after)

/-- The expression that an ordering goes by: an entry whose alias it names, else as in a condition. -/
def readOrder (s : Scope) (text : String) : Except EngineError (Expr Nat) := do
  let ts ← Expr.tokens text
  match ts with
  | [.word n] => orElse n
  | [.quoted n] => orElse n
  | _ => read s.lookup text
where
  /-- An alias, or what else the text stands for. -/
  orElse (n : String) : Except EngineError (Expr Nat) :=
    match alias? s.items n with
    | some e => .ok e
    | none => read s.lookup text

end Scope

end DataMart
