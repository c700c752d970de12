import DataMart.Batch
import DataMart.Postgres.Cells

/-!
# Column types of PostgreSQL

A result column of PostgreSQL carries the name of its type, and a cell comes as text or as null. Two
tables are kept here: which mart column a type is taken into, and how a cell of a type is read. They
agree whatever the ways to read cells are: a cell that can be read fits the column
(`accepts_of_decode`).
-/

namespace DataMart.Postgres

/-- The mart column that a type is taken into, if it is supported. -/
def columnType? : String → Option ColumnType
  | "BOOL" => some .boolean
  | "INT2" => some .integer
  | "INT4" => some .integer
  | "INT8" => some .integer
  | "FLOAT4" => some .float
  | "FLOAT8" => some .float
  | "NUMERIC" => some .float
  | "TEXT" => some .text
  | "VARCHAR" => some .text
  | "BPCHAR" => some .text
  | "NAME" => some .text
  | "CHAR" => some .text
  | "UUID" => some .text
  | "TIMESTAMP" => some .timestamp
  | "TIMESTAMPTZ" => some .timestamp
  | "DATE" => some .date
  | _ => none

/-! ## Cells -/

/-- A cell of column `i` that is not null, read as its type says. -/
def decodeTextWith (decoders : Decoders) (i : Nat) (type s : String) : Except Fault Value :=
  let decoded {α : Type} (f : α → Value) (r : Except String α) : Except Fault Value :=
    match r with
    | .ok a => .ok (f a)
    | .error e =>
      .error (.sourceQuery ("error occurred while decoding column " ++ toString i ++ ": " ++ e))
  match type with
  | "BOOL" => decoded Value.bool (decoders.bool s)
  | "INT2" => decoded Value.int (decoders.int 16 s)
  | "INT4" => decoded Value.int (decoders.int 32 s)
  | "INT8" => decoded Value.int (decoders.int 64 s)
  | "FLOAT4" => decoded Value.float (decoders.single s)
  | "FLOAT8" => decoded Value.float (decoders.double s)
  | "NUMERIC" =>
    match floatBy Decimal.float? s with
    | .ok x => .ok (.float x)
    | .error e =>
      .error (.sourceQuery ("numeric '" ++ s ++ "' in column " ++ toString i ++ ": " ++ e))
  | "TIMESTAMP" => decoded Value.timestamp (decoders.timestamp s)
  | "TIMESTAMPTZ" => decoded Value.timestamp (decoders.timestamp s)
  | "DATE" => decoded Value.date (decoders.date s)
  | "UUID" => decoded Value.text (decoders.uuid s)
  | _ => .ok (.text s)

/-- A cell of column `i`. -/
def decodeWith (decoders : Decoders) (i : Nat) (type : String) : Option String → Except Fault Value
  | none => .ok .null
  | some s => decodeTextWith decoders i type s

/-! ## Rows -/

/-- A result column: its name and the name of its type. -/
structure ResultColumn where
  name : String
  type : String
  deriving DecidableEq, Repr

/-- The mart column that a result column is taken into. -/
def columnOf (c : ResultColumn) : Except Fault Column :=
  match columnType? c.type with
  | some type => .ok ⟨c.name, type⟩
  | none =>
    .error (.sourceQuery ("column '" ++ c.name ++ "' has unsupported type " ++ c.type))

/-- The cells of a row, the first of them standing in column `i`. -/
def decodeRowWith (decoders : Decoders) (i : Nat) :
    List ResultColumn → List (Option String) → Except Fault (List Value)
  | c :: columns, cell :: cells => do
    let v ← decodeWith decoders i c.type cell
    let vs ← decodeRowWith decoders (i + 1) columns cells
    return v :: vs
  | _, _ => .ok []

/-- Result rows as a batch, with given ways to read cells. Without rows there is nothing that the
columns could be told from. -/
def batchOfRowsWith (decoders : Decoders) (columns : List ResultColumn)
    (rows : List (List (Option String))) : Except Fault Batch :=
  if rows.isEmpty then .ok .empty
  else do
    let cs ← columns.mapM columnOf
    let values ← rows.mapM (decodeRowWith decoders 0 columns)
    Batch.ofRows cs values

/-- Result rows as a batch. -/
def batchOfRows (columns : List ResultColumn) (rows : List (List (Option String))) :
    Except Fault Batch :=
  batchOfRowsWith .standard columns rows

/-! ## Queries -/

/-- A query without the blanks around it and the semicolons at its end, so that it can stand behind
the declaration of a cursor. -/
def stripTerminator (query : String) : String :=
  String.ofList <|
    Text.dropEndWhile Text.isBlank <|
      Text.dropEndWhile (· = ';') (Text.trimChars query.toList)

end DataMart.Postgres
