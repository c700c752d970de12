/-!
# Quoted identifiers

A name stands in the text of a statement between double quotes, and a double quote inside it is
written twice. `identifier` writes a name that way; any name may be written, the empty one included.
-/

namespace DataMart.Text.Quoted

/-- The inside of a quoted name: a double quote is written twice, all else once. -/
def encode : List Char → List Char
  | [] => []
  | c :: rest => if c = '"' then '"' :: '"' :: encode rest else c :: encode rest

/-- A name between double quotes, as characters. -/
def enclose (name : List Char) : List Char := '"' :: (encode name ++ ['"'])

/-- A name as a quoted identifier. -/
def identifier (name : String) : String := String.ofList (enclose name.toList)

end DataMart.Text.Quoted
