import DataMart.Json.Printer

/-!
# Result rows

A `Record` is one row of a result: named fields in the order of the SELECT list. Names may repeat; a
later field hides an earlier one of its name from `get?`, while both are written.
-/

namespace DataMart

/-- One row of a result. -/
structure Record where
  fields : List (String × Json) := []

namespace Record

/-- Append a field. -/
def push (r : Record) (name : String) (value : Json) : Record :=
  ⟨r.fields ++ [(name, value)]⟩

/-- The last field of a name. -/
def get? (r : Record) (name : String) : Option Json := r.fields.reverse.lookup name

/-- The names of the fields. -/
def columns (r : Record) : List String := r.fields.map Prod.fst

/-- The number of fields. -/
def size (r : Record) : Nat := r.fields.length

/-- Whether there are no fields. -/
def isEmpty (r : Record) : Bool := r.fields.isEmpty

/-- A row in JSON: every field, in order. -/
def toJson (r : Record) : Json := .object r.fields

end Record

end DataMart
