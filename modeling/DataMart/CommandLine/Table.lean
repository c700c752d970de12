import DataMart.Record

/-!
# Result tables

A result as a table of text: a line of names, a line below it, and a line for each row, with columns
of one width each. A column is as wide as its longest cell, in characters, and as its name, in bytes.
-/

namespace DataMart.CommandLine

namespace ResultTable

/-- A cell: texts as they are, anything else in JSON, and null spelt out. -/
def cellText : Json → String
  | .null => "NULL"
  | .text s => s
  | v => v.compact

/-- The number of characters of a text. -/
def measure (s : String) : Nat := s.toList.length

/-- The cells of a row. -/
def cells (r : Record) : List String := r.fields.map fun f => cellText f.2

/-- The widths after one more row; a row may not add columns. -/
def widen : (widths : List Nat) → (cells : List String) → List Nat
  | [], _ => []
  | ws, [] => ws
  | w :: ws, c :: cs => max w (measure c) :: widen ws cs

/-- The widths of the columns. -/
def widths (names : List String) (records : List Record) : List Nat :=
  records.foldl (fun ws r => widen ws (cells r)) (names.map String.utf8ByteSize)

/-- Cells in a line, each filled up to the width of its column. -/
def line (widths : List Nat) (cells : List String) : String :=
  Text.joinWith " │ " (List.zipWith (fun c w => Text.padTo w c) cells widths)

/-- The line between the names and the rows. -/
def separator (widths : List Nat) : String :=
  Text.joinWith "─┼─" (widths.map fun w => Text.repeated w "─")

/-- A result in lines; the columns are those of its first row. -/
def lines : List Record → List String
  | [] => ["(no results)"]
  | first :: rest =>
    let names := first.columns
    let ws := widths names (first :: rest)
    [line ws names, separator ws] ++
      (first :: rest).map (fun r => line ws (cells r)) ++
      ["", toString (first :: rest).length ++ " row(s) returned"]

end ResultTable

end DataMart.CommandLine
