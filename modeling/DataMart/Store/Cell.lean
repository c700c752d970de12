import DataMart.Batch
import DataMart.Decimal.Reading
import DataMart.Text.Blank

/-!
# Stored cells

The mart's engine keeps a cell in one of five forms, whatever its column is declared as. A column's
declared name decides its `Affinity`, by which a number and a text that meet are brought to one form.
Cells are ordered: nulls first, then numbers by value, texts by their characters, and blobs.
-/

namespace DataMart

/-- A cell as the engine keeps it. -/
inductive Cell where
  | null
  | int (n : Int)
  | real (x : Float)
  | text (s : String)
  /-- Bytes, of which only the number is ever looked at. -/
  | blob (size : Nat)
  deriving BEq

/-- What a column's declared name makes of the values it is compared with. -/
inductive Affinity where
  | none
  | text
  | numeric
  deriving DecidableEq, Repr

namespace Affinity

/-- Whether `part` stands somewhere in `s`. -/
def occursIn (part : List Char) : List Char → Bool
  | [] => part.isEmpty
  | c :: rest => part.isPrefixOf (c :: rest) || occursIn part rest

/-- The affinity of a declared name: the first rule whose word stands in it decides. -/
def ofDeclared (declared : String) : Affinity :=
  let name := declared.toList.map Char.toUpper
  let has (word : String) : Bool := occursIn word.toList name
  if has "INT" then numeric
  else if has "CHAR" || has "CLOB" || has "TEXT" then text
  else if has "BLOB" || name.isEmpty then none
  else numeric

end Affinity

namespace Cell

instance : Inhabited Cell := ⟨.null⟩

/-- Whether a cell is null. -/
def isNull : Cell → Bool
  | .null => true
  | _ => false

/-- A value as it reaches the engine: what is not a number is null, booleans are 0 and 1, and times
are texts. -/
def ofValue : Value → Cell
  | .null => .null
  | .bool b => .int (if b then 1 else 0)
  | .int n => .int n
  | .float x => if x.isNaN then .null else .real x
  | .text s => .text s
  | .timestamp t => .text t.text
  | .date d => .text d.text

/-- A value as a column of the given type keeps it: a floating-point column keeps whole numbers as
floating-point ones, and zero without its sign. -/
def store (type : ColumnType) (v : Value) : Cell :=
  match type, ofValue v with
  | .float, .int n => .real (Float.ofInt n)
  | _, .real x => .real (x + 0.0)
  | _, c => c

/-- A row as a table with the given columns keeps it. -/
def storeRow (columns : List Column) (row : List Value) : List Cell :=
  List.zipWith (fun c v => store c.type v) columns row

/-- A cell in a result row. A whole number of a boolean column shows as true or false. -/
def toJson (boolean : Bool) : Cell → Json
  | .null => .null
  | .int n => if boolean then .bool (n ≠ 0) else .ofInt n
  | .real x => .ofFloat x
  | .text s => .text s
  | .blob size => .text ("<" ++ toString size ++ " bytes>")

/-! ## Order -/

/-- A whole number against a floating-point one, exactly. -/
def compareIntReal (n : Int) (x : Float) : Ordering :=
  if x < -9223372036854775808.0 then .gt
  else if 9223372036854775808.0 ≤ x then .lt
  else
    let whole := x.toInt64.toInt
    if n < whole then .lt
    else if whole < n then .gt
    else
      let y := Float.ofInt whole
      if y < x then .lt else if x < y then .gt else .eq

/-- Two floating-point numbers. -/
def compareReal (x y : Float) : Ordering :=
  if x < y then .lt else if y < x then .gt else .eq

/-- Where a cell stands among the forms. -/
def rank : Cell → Nat
  | .null => 0
  | .int _ => 1
  | .real _ => 1
  | .text _ => 2
  | .blob _ => 3

/-- The order of cells. -/
def compare : Cell → Cell → Ordering
  | .int a, .int b => Ord.compare a b
  | .int a, .real x => compareIntReal a x
  | .real x, .int a => (compareIntReal a x).swap
  | .real x, .real y => compareReal x y
  | .text s, .text t => if s < t then .lt else if t < s then .gt else .eq
  | a, b => Ord.compare a.rank b.rank

/-! ## Numbers and texts -/

/-- The blanks that may stand around a number in a text. -/
def isSpace (c : Char) : Bool :=
  c = ' ' || c = '\t' || c = '\n' || c = '\x0b' || c = '\x0c' || c = '\r'

/-- The number that a whole text looks like, if it does. -/
def numberOfText? (s : String) : Option Cell :=
  let body := Text.dropEndWhile isSpace (s.toList.dropWhile isSpace)
  let (negative, digits) := Decimal.splitSign body
  let real : Option Cell := (Decimal.Written.ofChars? digits).map fun w =>
    .real (if negative then -w.toFloat else w.toFloat)
  match Decimal.signedNumber? body with
  | some n => if Word.fitsSigned n then some (.int n) else real
  | none => real

/-- A cell brought to the form that a column of the given affinity compares with. -/
def adapt (affinity : Affinity) (c : Cell) : Cell :=
  match affinity, c with
  | .numeric, .text s => (numberOfText? s).getD c
  | .text, .int n => .text (toString n)
  | .text, .real x => .text (Decimal.asText x)
  | _, _ => c

/-- The number that a text starts with, zero if it starts with none. -/
def numberAtStart (s : String) : Cell :=
  let body := s.toList.dropWhile isSpace
  let (negative, digits) := Decimal.splitSign body
  let whole := digits.takeWhile Char.isDigit
  let rest := digits.dropWhile Char.isDigit
  let fraction := match rest with
    | '.' :: t => '.' :: t.takeWhile Char.isDigit
    | _ => []
  let rest := rest.drop fraction.length
  let power := match rest with
    | c :: t =>
      let sign := t.takeWhile fun c => c = '+' || c = '-'
      let ds := (t.drop sign.length).takeWhile Char.isDigit
      if (c = 'e' || c = 'E') && sign.length ≤ 1 && !ds.isEmpty then c :: sign ++ ds else []
    | [] => []
  let sign := if negative then ['-'] else []
  (numberOfText? (String.ofList (sign ++ whole ++ fraction ++ power))).getD (.int 0)

/-- A cell as a number for arithmetic; of a text its start counts. -/
def toNumber : Cell → Cell
  | .text s => numberAtStart s
  | .blob _ => .int 0
  | c => c

/-- A cell as a floating-point number. -/
def toReal (c : Cell) : Float :=
  match c.toNumber with
  | .int n => Float.ofInt n
  | .real x => x
  | _ => 0.0

/-- The whole number that a cell is, or that all of a text is. -/
def wholeNumber? : Cell → Option Int
  | .int n => some n
  | .text s =>
    match numberOfText? s with
    | some (.int n) => some n
    | _ => none
  | _ => none

/-- A floating-point number as a cell; what is not a number is null. -/
def ofFloat (x : Float) : Cell := if x.isNaN then .null else .real x

end Cell

end DataMart
