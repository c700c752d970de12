import DataMart.Store.Cell

/-!
# Marts

A `Mart` is a set of named tables. Names of tables and columns are compared without regard to the
case of ASCII letters; a table keeps the spelling it was created with. The view of a mart is
`table?`: what stands under a name. The laws say what writing and dropping do to it.

`EngineError` lists the ways in which the engine refuses something, with its codes and wordings.
-/

namespace DataMart

/-- A refusal by the mart's engine. -/
inductive EngineError where
  | noSuchTable (name : String)
  | noSuchColumn (name : String)
  | duplicateColumn (name : String)
  /-- Names that start with `sqlite_` belong to the engine. -/
  | reservedName (name : String)
  | tableExists (name : String)
  | integerOverflow
  | noSuchFunction (name : String)
  /-- An aggregate in a place that has none by its form. -/
  | misplacedAggregate (name : String)
  /-- An aggregate in an expression that is taken of single rows. -/
  | misusedAggregate (name : String)
  | groupedAggregate
  | nearToken (token : String)
  | cannotOpen
  | datatypeMismatch
  | notADatabase
  | diskError
  deriving DecidableEq, Repr

namespace EngineError

/-- The engine's number for a refusal. -/
def code : EngineError → Nat
  | cannotOpen => 14
  | datatypeMismatch => 20
  | notADatabase => 26
  | diskError => 266
  | _ => 1

/-- The engine's wording. -/
def text : EngineError → String
  | noSuchTable name => "no such table: " ++ name
  | noSuchColumn name => "no such column: " ++ name
  | duplicateColumn name => "duplicate column name: " ++ name
  | reservedName name => "object name reserved for internal use: " ++ name
  | tableExists name => "table \"" ++ name ++ "\" already exists"
  | integerOverflow => "integer overflow"
  | noSuchFunction name => "no such function: " ++ name
  | misplacedAggregate name => "misuse of aggregate function " ++ name ++ "()"
  | misusedAggregate name => "misuse of aggregate: " ++ name ++ "()"
  | groupedAggregate => "aggregate functions are not allowed in the GROUP BY clause"
  | nearToken token => "near \"" ++ token ++ "\": syntax error"
  | cannotOpen => "unable to open database file"
  | datatypeMismatch => "datatype mismatch"
  | notADatabase => "file is not a database"
  | diskError => "disk I/O error"

/-- A refusal as it reaches the caller. -/
def message (e : EngineError) : String :=
  "error returned from database: (code: " ++ toString e.code ++ ") " ++ e.text

end EngineError

/-- A column of a table: its name and the name of its type as declared. -/
structure TableColumn where
  name : String
  declared : String
  deriving DecidableEq, Repr

/-- Names of which no two are the same apart from the case of ASCII letters. -/
def DistinctNames (names : List String) : Prop :=
  names.Pairwise fun a b => Text.sameName a b = false

instance (names : List String) : Decidable (DistinctNames names) :=
  inferInstanceAs (Decidable (List.Pairwise _ _))

/-- A table of the mart: it has a column, and no two columns of one name. -/
structure Table where
  name : String
  columns : List TableColumn
  rows : List (List Cell)
  columns_ne : columns ≠ []
  names_distinct : DistinctNames (columns.map TableColumn.name)

/-- The tables of a mart. -/
structure Mart where
  tables : List Table := []

namespace TableColumn

/-- A column as it is declared. -/
def ofColumn (c : Column) : TableColumn := ⟨c.name, c.type.sqlName⟩

/-- The column that a declared one was written for, if its type is one of ours. -/
def column? (c : TableColumn) : Option Column :=
  (ColumnType.ofSqlName? c.declared).map fun type => ⟨c.name, type⟩

/-- A declared column is read back as the column it was written for. -/
theorem column?_ofColumn (c : Column) : (ofColumn c).column? = some c := by
  simp [column?, ofColumn, ColumnType.ofSqlName?_sqlName]

end TableColumn

/-- The first name that stands twice in a list, in its second spelling. -/
def duplicateName? : (seen names : List String) → Option String
  | _, [] => none
  | seen, n :: rest =>
    if seen.any (Text.sameName n) then some n else duplicateName? (n :: seen) rest

/-- No name is found twice exactly if the names are distinct and none was seen before. -/
theorem duplicateName?_eq_none_iff (seen names : List String) :
    duplicateName? seen names = none ↔
      (∀ n ∈ names, ∀ a ∈ seen, Text.sameName n a = false) ∧ DistinctNames names := by
  induction names generalizing seen with
  | nil => simp [duplicateName?, DistinctNames]
  | cons n rest ih =>
    by_cases h : seen.any (Text.sameName n)
    · obtain ⟨a, ha, hna⟩ := List.any_eq_true.1 h
      have hd : duplicateName? seen (n :: rest) = some n := by simp only [duplicateName?, h, if_true]
      rw [hd]
      constructor
      · intro e
        cases e
      · rintro ⟨hseen, -⟩
        rw [hseen n List.mem_cons_self a ha] at hna
        cases hna
    · have hseen : ∀ a ∈ seen, Text.sameName n a = false := by simpa using h
      have hd : duplicateName? seen (n :: rest) = duplicateName? (n :: seen) rest := by
        simp [duplicateName?, h]
      rw [hd, ih]
      simp only [DistinctNames, List.pairwise_cons, List.forall_mem_cons]
      constructor
      · rintro ⟨hrest, hdist⟩
        exact ⟨⟨hseen, fun r hr => (hrest r hr).2⟩,
          fun r hr => (Text.sameName_comm n r).trans (hrest r hr).1, hdist⟩
      · rintro ⟨⟨-, hrest⟩, hn, hdist⟩
        exact ⟨fun r hr => ⟨(Text.sameName_comm r n).trans (hn r hr), hrest r hr⟩, hdist⟩

/-- An empty table with the given columns: there has to be one, and no two may have one name. -/
def newTable (name : String) (columns : List Column) : Except EngineError Table :=
  if hne : columns = [] then .error (.nearToken ")")
  else
    match hd : duplicateName? [] (columns.map Column.name) with
    | some twice => .error (.duplicateColumn twice)
    | none => .ok {
        name := name
        columns := columns.map TableColumn.ofColumn
        rows := []
        columns_ne := by simpa using hne
        names_distinct := by
          rw [List.map_map]
          exact ((duplicateName?_eq_none_iff [] _).1 hd).2 }

namespace Mart

/-- The table under a name. -/
def table? (m : Mart) (name : String) : Option Table :=
  m.tables.find? fun t => Text.sameName t.name name

/-- The mart without the table under a name. -/
def drop (m : Mart) (name : String) : Mart :=
  ⟨m.tables.filter fun t => !Text.sameName t.name name⟩

/-- The mart with a table, in place of the one under its name. -/
def put (m : Mart) (t : Table) : Mart := ⟨t :: (m.drop t.name).tables⟩

/-- A dropped table is gone. -/
theorem table?_drop_self (m : Mart) (name : String) : (m.drop name).table? name = none := by
  simp [table?, drop]

/-- Dropping a table leaves the others as they are. -/
theorem table?_drop_of_ne (m : Mart) {name other : String}
    (h : Text.sameName name other = false) : (m.drop name).table? other = m.table? other := by
  simp only [table?, drop, List.find?_filter]
  congr 1
  funext t
  by_cases ho : Text.sameName t.name other
  · have hn : Text.sameName t.name name = false := by
      simp only [Text.sameName, beq_eq_false_iff_ne, beq_iff_eq] at h ho ⊢
      exact fun e => h (e.symm.trans ho)
    simp [ho, hn]
  · simp [ho]

/-- A table that was put stands under its name. -/
theorem table?_put_self (m : Mart) (t : Table) : (m.put t).table? t.name = some t := by
  simp [table?, put, Text.sameName]

/-- Putting a table leaves the others as they are. -/
theorem table?_put_of_ne (m : Mart) (t : Table) {other : String}
    (h : Text.sameName t.name other = false) : (m.put t).table? other = m.table? other := by
  rw [← table?_drop_of_ne m h]
  simp [table?, put, h]

end Mart

end DataMart
