import DataMart.Fault
import DataMart.Value

/-!
# Columns and batches

A `Batch` is the unit that moves from a source into the mart: columns, and rows that fit them. Rows
are checked when a batch is built, so whoever holds a batch need not look again: `Batch.rows_fit`.
-/

namespace DataMart

/-- The type of a column. -/
inductive ColumnType where
  | boolean
  | integer
  | float
  | text
  | timestamp
  | date
  deriving DecidableEq, Repr

namespace ColumnType

/-- The name under which the mart's engine declares a column. -/
def sqlName : ColumnType → String
  | boolean => "BOOLEAN"
  | integer => "BIGINT"
  | float => "DOUBLE"
  | text => "TEXT"
  | timestamp => "TIMESTAMP"
  | date => "DATE"

/-- The type that a declared name stands for, in any case of its letters. -/
def ofSqlName? (name : String) : Option ColumnType :=
  [boolean, integer, float, text, timestamp, date].find? fun t => Text.sameName t.sqlName name

/-- Whether a value may stand in a column: null may everywhere, and a whole number among
floating-point ones. -/
def accepts : ColumnType → Value → Bool
  | _, .null => true
  | boolean, .bool _ => true
  | integer, .int _ => true
  | float, .float _ => true
  | float, .int _ => true
  | text, .text _ => true
  | timestamp, .timestamp _ => true
  | date, .date _ => true
  | _, _ => false

/-- A declared name is read back as the type it was written for. -/
theorem ofSqlName?_sqlName (t : ColumnType) : ofSqlName? t.sqlName = some t := by
  cases t <;> decide +kernel

end ColumnType

/-- A named column. -/
structure Column where
  name : String
  type : ColumnType
  deriving DecidableEq, Repr

namespace Column

/-- A column in a message: its name and its declared type. -/
def shown (c : Column) : String := c.name ++ " " ++ c.type.sqlName

/-- A list of columns in a message. -/
def describe (columns : List Column) : String := Text.joinWith ", " (columns.map shown)

end Column

/-- Whether a row has a value for each column, one that the column accepts. -/
def fits : List Column → List Value → Bool
  | [], [] => true
  | c :: columns, v :: row => c.type.accepts v && fits columns row
  | _, _ => false

/-- Columns, and rows that fit them. -/
structure Batch where
  columns : List Column
  rows : List (List Value)
  rows_fit : ∀ row ∈ rows, fits columns row = true := by simp

namespace Batch

/-- The batch without rows and without columns. -/
def empty : Batch where
  columns := []
  rows := []

/-- The first column of `columns` that does not accept its value of `row`. -/
def misfit? (columns : List Column) (row : List Value) : Option (Column × Value) :=
  (columns.zip row).find? fun p => !p.1.type.accepts p.2

/-- What is wrong with a row at a given place, if anything: its width, else its first value that
does not fit. -/
def rowFault? (columns : List Column) (i : Nat) (row : List Value) : Option Fault :=
  if row.length ≠ columns.length then
    some (.sourceQuery ("row " ++ toString i ++ " has " ++ toString row.length ++
      " values, expected " ++ toString columns.length))
  else
    (misfit? columns row).map fun p =>
      .sourceQuery ("row " ++ toString i ++ ": value " ++ p.2.shown ++ " does not fit column " ++
        p.1.shown)

/-- The first fault of the rows, counted from `i`. -/
def firstFault? (columns : List Column) (i : Nat) : List (List Value) → Option Fault
  | [] => none
  | row :: rest =>
    match rowFault? columns i row with
    | some fault => some fault
    | none => firstFault? columns (i + 1) rest

/-- A row fits exactly if nothing is wrong with it. -/
theorem fits_iff_rowFault?_eq_none (columns : List Column) (i : Nat) (row : List Value) :
    fits columns row = true ↔ rowFault? columns i row = none := by
  induction columns generalizing row with
  | nil => cases row <;> simp [fits, rowFault?, misfit?]
  | cons c columns ih =>
    cases row with
    | nil => simp [fits, rowFault?]
    | cons v row =>
      have h := ih row
      simp only [fits, Bool.and_eq_true, rowFault?, misfit?, List.length_cons, List.zip_cons_cons]
        at h ⊢
      rw [h]
      by_cases hl : row.length = columns.length <;> by_cases ha : c.type.accepts v <;>
        simp [hl, ha, List.find?]

/-- No fault is found exactly if every row fits. -/
theorem firstFault?_eq_none_iff (columns : List Column) (i : Nat) (rows : List (List Value)) :
    firstFault? columns i rows = none ↔ ∀ row ∈ rows, fits columns row = true := by
  induction rows generalizing i with
  | nil => simp [firstFault?]
  | cons row rest ih =>
    simp only [firstFault?, List.mem_cons, forall_eq_or_imp,
      fits_iff_rowFault?_eq_none columns i row]
    cases rowFault? columns i row with
    | some fault => simp
    | none => simp [ih]

/-- The batch of the given columns and rows; the first row that does not fit is reported. -/
def ofRows (columns : List Column) (rows : List (List Value)) : Except Fault Batch :=
  match h : firstFault? columns 0 rows with
  | some fault => .error fault
  | none => .ok ⟨columns, rows, (firstFault?_eq_none_iff columns 0 rows).1 h⟩

/-- The number of rows. -/
def size (b : Batch) : Nat := b.rows.length

/-- Whether there are no rows. -/
def isEmpty (b : Batch) : Bool := b.rows.isEmpty

/-- Whether the columns have exactly the given names and types, in the given order. -/
def sameSchema (b : Batch) (columns : List Column) : Bool := b.columns == columns

end Batch

end DataMart
