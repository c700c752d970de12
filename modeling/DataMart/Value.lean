import DataMart.Calendar.Timestamp
import DataMart.Json.Basic
import DataMart.Decimal.Layout

/-!
# Cells

A `Value` is what stands in one cell of a row and what is bound to one placeholder of a query. Every
JSON scalar is a value, an integer beyond the signed 64-bit range as a floating-point number; a
container is none.
-/

namespace DataMart

open Calendar (Date Timestamp)

/-- A cell or a bound parameter. -/
inductive Value where
  | null
  | bool (b : Bool)
  /-- A whole number of 64 bits with a sign. -/
  | int (n : Int)
  | float (x : Float)
  | text (s : String)
  | timestamp (t : Timestamp)
  | date (d : Date)

namespace Value

instance : Inhabited Value := ⟨.null⟩

/-- The value of a JSON scalar. -/
def ofJson? : Json → Option Value
  | .null => some .null
  | .bool b => some (.bool b)
  | .number (.int n) =>
    if Word.fitsSigned n then some (.int n) else some (.float (Float.ofInt n))
  | .number (.real x) => some (.float x)
  | .text s => some (.text s)
  | .list _ => none
  | .object _ => none

/-- The JSON of a value in a result row: times as the mart stores them. -/
def toJson : Value → Json
  | .null => .null
  | .bool b => .bool b
  | .int n => .ofInt n
  | .float x => .ofFloat x
  | .text s => .text s
  | .timestamp t => .text t.text
  | .date d => .text d.text

/-- The JSON of a value in a list of bindings: a `T` stands between the date and the time. -/
def toBinding : Value → Json
  | .timestamp t => .text (t.textWith "T")
  | v => v.toJson

/-- A value as it is shown to a reader: texts and times between single quotes. -/
def shown : Value → String
  | .null => "NULL"
  | .bool true => "true"
  | .bool false => "false"
  | .int n => toString n
  | .float x => Decimal.shown x
  | .text s => "'" ++ s ++ "'"
  | .timestamp t => "'" ++ t.text ++ "'"
  | .date d => "'" ++ d.text ++ "'"

/-- Whether a value is null. -/
def isNull : Value → Bool
  | .null => true
  | _ => false

/-- Every JSON scalar has a value, and no container has one. -/
theorem ofJson?_isSome (j : Json) :
    (ofJson? j).isSome = match j with
      | .list _ => false
      | .object _ => false
      | _ => true := by
  cases j with
  | number n =>
    cases n with
    | int n => simp only [ofJson?]; split <;> rfl
    | real x => rfl
  | _ => rfl

end Value

end DataMart
