import DataMart.Store.Connection
import DataMart.Text.Quoted

/-!
# Writing tables

A batch is written in one transaction: its rows are staged by statements that bind a bounded number
of values each, the target is created anew or checked, and the staged rows are copied over.

`Session.createUnder`, `Session.appendUnder` and `Session.dropTableUnder` write under some trouble;
`Session.create`, `Session.append` and `Session.dropTable` are the same where nothing goes wrong.
-/

namespace DataMart

/-- The name of the staging relation. -/
def stagingName : String := "__salesmart_batch"

/-- How many values one statement may bind, unless a single row has more. -/
def maxBound : Nat := 999

/-! ## Statements that stage a batch -/

/-- A list cut into pieces of `n`, the last one shorter if need be; `n` is positive. -/
def cut {α : Type} (n : Nat) (xs : List α) : List (List α) :=
  if _h : n = 0 ∨ xs = [] then []
  else xs.take n :: cut n (xs.drop n)
termination_by xs.length
decreasing_by
  have : xs.length ≠ 0 := by simp_all
  simp only [List.length_drop]
  omega

/-- How many rows of a given width go into one statement. -/
def rowsPerStatement (width : Nat) : Nat := max 1 (maxBound / width)

/-- The statement that stages some rows of a given width. -/
def insertStatement (width : Nat) (rows : List (List Value)) : Statement where
  sql :=
    let row := "(" ++ Text.joinWith ", " (List.replicate width "?") ++ ")"
    "INSERT INTO temp." ++ Text.Quoted.identifier stagingName ++ " VALUES " ++
      Text.joinWith ", " (List.replicate rows.length row)
  params := rows.flatten

/-- The statements that stage a batch. -/
def stagingStatements (b : Batch) : List Statement :=
  let width := b.columns.length
  (cut (rowsPerStatement width) b.rows).map (insertStatement width)

/-- The columns of a table in the text that creates it. -/
def columnDefs (columns : List Column) : String :=
  Text.joinWith ", " (columns.map fun c => Text.Quoted.identifier c.name ++ " " ++ c.type.sqlName)

/-- The text that creates a table in the mart, or a temporary one beside it. -/
def createText (temporary : Bool) (table : String) (columns : List Column) : String :=
  (if temporary then "CREATE TEMP TABLE " else "CREATE TABLE ") ++ Text.Quoted.identifier table ++
    " (" ++ columnDefs columns ++ ")"

/-- The staging relation in the texts that mean no other table. -/
def stagingText : String := "temp." ++ Text.Quoted.identifier stagingName

/-- The statement that clears the staging relation away if it is there. -/
def clearStatement : Statement := ⟨"DROP TABLE IF EXISTS " ++ stagingText, []⟩

/-- The statement that makes the staging relation. -/
def relationStatement (columns : List Column) : Statement :=
  ⟨createText true stagingName columns, []⟩

/-- The statement that drops a table if it is there. -/
def dropStatement (table : String) : Statement :=
  ⟨"DROP TABLE IF EXISTS " ++ Text.Quoted.identifier table, []⟩

/-- The statement that creates a table. -/
def createStatement (table : String) (columns : List Column) : Statement :=
  ⟨createText false table columns, []⟩

/-- The statement that copies the staged rows to a table. -/
def copyStatement (table : String) : Statement :=
  ⟨"INSERT INTO " ++ Text.Quoted.identifier table ++ " SELECT * FROM " ++ stagingText, []⟩

/-- The statement that drops the staging relation once its rows are copied. -/
def dischargeStatement : Statement := ⟨"DROP TABLE " ++ stagingText, []⟩

/-- The statement that asks for the columns of a table. -/
def schemaStatement (table : String) : Statement :=
  ⟨"PRAGMA table_info(" ++ Text.Quoted.identifier table ++ ")", []⟩

/-! ## What the engine does -/

namespace Session

/-- Drop what an unqualified name means, if anything. -/
def dropIfExists (s : Session) (name : String) : Session :=
  match s.staging with
  | some t =>
    if Text.sameName t.name name then { s with staging := none }
    else { s with mart := s.mart.drop name }
  | none => { s with mart := s.mart.drop name }

/-- Whether a name belongs to the engine. -/
def isReserved (name : String) : Bool :=
  "sqlite_".toList.isPrefixOf (Text.fold name).toList

/-- Clear the staging relation away, if there is one. -/
def clearStaging (s : Session) : Session := { s with staging := none }

/-- Create an empty staging relation. -/
def createStaging (s : Session) (columns : List Column) : Except EngineError Session :=
  if s.staging.isSome then .error (.tableExists stagingName)
  else (newTable stagingName columns).map fun t => { s with staging := some t }

/-- Create an empty table in the mart. -/
def createTable (s : Session) (name : String) (columns : List Column) :
    Except EngineError Session :=
  if isReserved name then .error (.reservedName name)
  else if (s.mart.table? name).isSome then .error (.tableExists name)
  else (newTable name columns).map fun t => { s with mart := s.mart.put t }

/-- Insert the rows of a statement into the staging relation. -/
def insertStaged (s : Session) (columns : List Column) (insert : Statement) :
    Except EngineError Session :=
  match s.staging with
  | some t =>
    let rows := (cut columns.length insert.params).map (Cell.storeRow columns)
    .ok { s with staging := some { t with rows := t.rows ++ rows } }
  | none => .error (.noSuchTable ("temp." ++ stagingName))

/-- Copy the staged rows to the end of a table. Gives the number of rows copied. -/
def insertSelected (s : Session) (name : String) : Except EngineError (Nat × Session) :=
  match s.resolve? name, s.staging with
  | none, _ => .error (.noSuchTable name)
  | some _, none => .error (.noSuchTable ("temp." ++ stagingName))
  | some target, some staged =>
    let filled := { target with rows := target.rows ++ staged.rows }
    if Text.sameName staged.name name then
      .ok (staged.rows.length, { s with staging := some filled })
    else .ok (staged.rows.length, { s with mart := s.mart.put filled })

/-- Drop the staging relation. -/
def dropStaging (s : Session) : Except EngineError Session :=
  match s.staging with
  | some _ => .ok s.clearStaging
  | none => .error (.noSuchTable ("temp." ++ stagingName))

/-- The columns of the first list up to one whose type is not ours; that one is reported. -/
def readColumns (table : String) : List TableColumn → Except Fault (List Column)
  | [] => .ok []
  | c :: rest =>
    match c.column? with
    | none =>
      .error (.load table ("column '" ++ c.name ++ "' has foreign type '" ++ c.declared ++ "'"))
    | some column => (readColumns table rest).map (column :: ·)

/-- The columns of a table; none if it is not there. -/
def tableSchema (s : Session) (table : String) : Except Fault (List Column) :=
  readColumns table ((s.resolve? table).map Table.columns |>.getD [])

/-- The number of rows of a table. -/
def countRows (s : Session) (table : String) : Except Fault Nat :=
  match s.resolve? table with
  | some t => .ok t.rows.length
  | none => .error (.load table (EngineError.noSuchTable table).message)

end Session

/-! ## What the writer does -/

namespace Work

variable (trouble : Trouble) (table : String)

/-- Make a fresh staging relation in place of any. -/
def renewStaging (columns : List Column) : Work Unit := do
  perform trouble table clearStatement fun s => .ok s.clearStaging
  perform trouble table (relationStatement columns) (·.createStaging columns)

/-- Stage a batch: a fresh staging relation, then its rows statement by statement. -/
def stage (b : Batch) : Work Unit := do
  renewStaging trouble table b.columns
  (stagingStatements b).forM fun insert =>
    perform trouble table insert (·.insertStaged b.columns insert)

/-- Copy the staged rows over and drop the staging relation. Gives the number of rows copied. -/
def copyStaged : Work Nat := do
  let count ← execute trouble table (copyStatement table) (·.insertSelected table)
  perform trouble table dischargeStatement (·.dropStaging)
  return count

/-- The columns of a table; none if it is not there. -/
def tableSchema : Work (List Column) := do
  issue trouble table (schemaStatement table)
  let c ← get
  MonadExcept.ofExcept (c.session.tableSchema table)

/-- Create a table from a batch, in place of any table of that name, with a given way of staging.
Gives the number of rows. -/
def createWith (stage : Batch → Work Unit) (b : Batch) : Work Nat :=
  if b.columns.isEmpty then
    throw (.load table "cannot create a table from a batch with no columns")
  else
    transact trouble table do
      stage b
      perform trouble table (dropStatement table) fun s => .ok (s.dropIfExists table)
      perform trouble table (createStatement table b.columns) (·.createTable table b.columns)
      copyStaged trouble table

/-- Append a batch to a table with exactly its columns, with a given way of staging. Gives the number
of rows. -/
def appendWith (stage : Batch → Work Unit) (b : Batch) : Work Nat := do
  let existing ← tableSchema trouble table
  if existing.isEmpty then throw (.missingTable table)
  else if !b.sameSchema existing then
    throw (.schemaMismatch table (Column.describe existing) (Column.describe b.columns))
  else
    transact trouble table do
      stage b
      copyStaged trouble table

/-- Create a table from a batch. -/
def create (b : Batch) : Work Nat := createWith trouble table (stage trouble table) b

/-- Append a batch to a table. -/
def append (b : Batch) : Work Nat := appendWith trouble table (stage trouble table) b

/-- Drop a table if it is there. -/
def dropTable : Work Unit :=
  perform trouble table (dropStatement table) fun s => .ok (s.dropIfExists table)

end Work

namespace Session

/-- Create a table from a batch under some trouble. Gives the number of rows. -/
def createUnder (trouble : Trouble) (s : Session) (table : String) (b : Batch) :
    Except Fault Nat × Session :=
  (Work.create trouble table b).on s

/-- Append a batch to a table under some trouble. Gives the number of rows. -/
def appendUnder (trouble : Trouble) (s : Session) (table : String) (b : Batch) :
    Except Fault Nat × Session :=
  (Work.append trouble table b).on s

/-- Drop a table under some trouble. -/
def dropTableUnder (trouble : Trouble) (s : Session) (table : String) :
    Except Fault Unit × Session :=
  (Work.dropTable trouble table).on s

/-- Create a table from a batch, in place of any table of that name. Gives the number of rows. -/
def create (s : Session) (table : String) (b : Batch) : Except Fault Nat × Session :=
  s.createUnder .never table b

/-- Append a batch to a table with exactly its columns. Gives the number of rows. -/
def append (s : Session) (table : String) (b : Batch) : Except Fault Nat × Session :=
  s.appendUnder .never table b

/-- Write a batch: create the table from the first one, append the others. -/
def write (s : Session) (table : String) (b : Batch) (first : Bool) : Except Fault Nat × Session :=
  if first then s.create table b else s.append table b

/-- Drop a table if it is there. -/
def dropTable (s : Session) (table : String) : Session := (s.dropTableUnder .never table).2

end Session

/-! ## Loads -/

/-- How far the load of a table has come. -/
inductive LoadState where
  | notStarted
  | loaded (rows batches : Nat)
  deriving DecidableEq, Repr

/-- The load of one table: it is created once, by the first batch, and appended to afterwards. -/
structure TableLoad where
  table : String
  state : LoadState := .notStarted
  deriving DecidableEq, Repr

namespace TableLoad

/-- The rows written so far. -/
def rows (l : TableLoad) : Nat :=
  match l.state with
  | .notStarted => 0
  | .loaded rows _ => rows

/-- The batches written so far. -/
def batches (l : TableLoad) : Nat :=
  match l.state with
  | .notStarted => 0
  | .loaded _ batches => batches

/-- What writing gave, the load after it, and the session after it. -/
structure Outcome where
  result : Except Fault Nat
  load : TableLoad
  session : Session

/-- Create the table from the first batch. -/
def create (l : TableLoad) (s : Session) (b : Batch) : Outcome :=
  match l.state with
  | .loaded _ _ => ⟨.error (.loadOrder l.table "table already created in this run"), l, s⟩
  | .notStarted =>
    match s.create l.table b with
    | (.ok n, s') => ⟨.ok n, { l with state := .loaded n 1 }, s'⟩
    | (.error e, s') => ⟨.error e, l, s'⟩

/-- Append a later batch. -/
def append (l : TableLoad) (s : Session) (b : Batch) : Outcome :=
  match l.state with
  | .notStarted => ⟨.error (.loadOrder l.table "append before create"), l, s⟩
  | .loaded rows batches =>
    match s.append l.table b with
    | (.ok n, s') => ⟨.ok n, { l with state := .loaded (rows + n) (batches + 1) }, s'⟩
    | (.error e, s') => ⟨.error e, l, s'⟩

/-- Create from the first batch, append afterwards. -/
def write (l : TableLoad) (s : Session) (b : Batch) : Outcome :=
  match l.state with
  | .notStarted => l.create s b
  | .loaded _ _ => l.append s b

end TableLoad

end DataMart
