import DataMart.Proofs.Store.Frame

/-!
# Writing a batch

What creating a table from a batch and appending a batch to a table do, for any mart.

* `createFault?` is what stands against creating a table; if nothing does, the table holds exactly
  the batch afterwards (`create_of_fault`, `exists_create`).
* `Table.schema?` reads the columns of a table back. A batch is appended exactly to a table with its
  columns (`exists_append`); the other cases are `append_of_absent`, `append_of_foreign` and
  `append_of_ne`.
-/

namespace DataMart

/-- The columns of a table, if the types of all of them are ours. -/
def Table.schema? (t : Table) : Option (List Column) := t.columns.mapM TableColumn.column?

namespace Mart

/-- Under a name stands a table of exactly the given columns and rows, each cell as the engine
stores it. -/
def Holds (m : Mart) (table : String) (columns : List Column) (rows : List (List Value)) : Prop :=
  ∃ t, m.table? table = some t ∧ t.columns = columns.map TableColumn.ofColumn ∧
    t.rows = rows.map (Cell.storeRow columns)

/-- The columns and the rows of the table under a name. -/
def contents? (m : Mart) (table : String) : Option (List TableColumn × List (List Cell)) :=
  (m.table? table).map fun t => (t.columns, t.rows)

/-- What a table holds is all of its contents. -/
theorem Holds.contents?_eq {m : Mart} {table : String} {columns : List Column}
    {rows : List (List Value)} (h : m.Holds table columns rows) :
    m.contents? table =
      some (columns.map TableColumn.ofColumn, rows.map (Cell.storeRow columns)) := by
  obtain ⟨t, ht, hcolumns, hrows⟩ := h
  rw [contents?, ht, Option.map_some, hcolumns, hrows]

/-- A table is found under every spelling of its name. -/
theorem table?_congr (m : Mart) {a b : String} (h : Text.sameName a b = true) :
    m.table? a = m.table? b := by
  have hsame : (fun t : Table => Text.sameName t.name a) = fun t => Text.sameName t.name b := by
    funext t
    rw [Text.sameName_comm t.name a, Text.sameName_comm t.name b, Text.sameName_congr h]
  rw [table?, table?, hsame]

/-- A table whose rows are exchanged is found with its new rows. -/
theorem table?_put_rows {m : Mart} {table : String} {t : Table} (h : m.table? table = some t)
    (m' : Mart) (rows : List (List Cell)) :
    (m'.put { t with rows := rows }).table? table = some { t with rows := rows } := by
  have hname : Text.sameName t.name table = true := sameName_of_table? h
  rw [← table?_congr _ hname]
  exact table?_put_self m' { t with rows := rows }

end Mart

/-! ## Reading columns back -/

namespace Table

/-- Columns that were written by us are read back. -/
theorem schema?_of_ofColumn {t : Table} {columns : List Column}
    (h : t.columns = columns.map TableColumn.ofColumn) : t.schema? = some columns := by
  have hall : ∀ cs : List Column,
      (cs.map TableColumn.ofColumn).mapM TableColumn.column? = some cs := by
    intro cs
    induction cs with
    | nil => rfl
    | cons c cs ih =>
        rw [List.map_cons, List.mapM_cons, TableColumn.column?_ofColumn, ih]
        rfl
  unfold schema?
  rw [h, hall]

/-- Reading columns keeps their names. -/
theorem map_name_of_mapM_column? {cs : List TableColumn} {columns : List Column}
    (h : cs.mapM TableColumn.column? = some columns) :
    columns.map Column.name = cs.map TableColumn.name := by
  induction cs generalizing columns with
  | nil =>
      simp at h
      subst h
      rfl
  | cons c cs ih =>
      rw [List.mapM_cons] at h
      obtain ⟨column, hc, h⟩ := Option.bind_eq_some_iff.1 h
      obtain ⟨rest, hrest, h⟩ := Option.bind_eq_some_iff.1 h
      cases h
      obtain ⟨type, -, rfl⟩ := Option.map_eq_some_iff.1 hc
      simp [ih hrest]

/-- Columns that were read back are ones the engine takes. -/
theorem columnsFault?_of_schema? {t : Table} {columns : List Column}
    (h : t.schema? = some columns) : columnsFault? columns = none := by
  have hnames := map_name_of_mapM_column? h
  rw [columnsFault?_eq_none_iff, hnames]
  refine ⟨?_, t.names_distinct⟩
  rintro rfl
  exact t.columns_ne (List.map_eq_nil_iff.1 hnames.symm)

end Table

namespace Session

variable {table : String} {b : Batch} {m : Mart} {t : Table}

/-- Columns with known types are read as they are. -/
theorem readColumns_eq_ok (table : String) {cs : List TableColumn} {columns : List Column}
    (h : cs.mapM TableColumn.column? = some columns) : readColumns table cs = .ok columns := by
  induction cs generalizing columns with
  | nil =>
      simp at h
      subst h
      rfl
  | cons c cs ih =>
      rw [List.mapM_cons] at h
      obtain ⟨column, hc, h⟩ := Option.bind_eq_some_iff.1 h
      obtain ⟨rest, hrest, h⟩ := Option.bind_eq_some_iff.1 h
      cases h
      simp only [readColumns, hc, ih hrest, Except.map]

/-- A column of an unknown type is reported. -/
theorem readColumns_eq_error (table : String) {cs : List TableColumn}
    (h : cs.mapM TableColumn.column? = none) :
    ∃ c ∈ cs, readColumns table cs = .error
      (.load table ("column '" ++ c.name ++ "' has foreign type '" ++ c.declared ++ "'")) := by
  induction cs with
  | nil => simp at h
  | cons c cs ih =>
      cases hc : c.column? with
      | none =>
          refine ⟨c, List.mem_cons_self, ?_⟩
          simp only [readColumns, hc]
      | some column =>
          have hrest : cs.mapM TableColumn.column? = none := by
            cases hr : cs.mapM TableColumn.column? with
            | none => rfl
            | some rest => simp [List.mapM_cons, hc, hr] at h
          obtain ⟨d, hd, he⟩ := ih hrest
          refine ⟨d, List.mem_cons_of_mem c hd, ?_⟩
          simp only [readColumns, hc, he, Except.map]

/-- Without a staging relation the columns of a table are those of the mart's table. -/
theorem tableSchema_of_table? (h : m.table? table = some t) :
    tableSchema { mart := m } table = readColumns table t.columns := by
  simp only [tableSchema, resolve?, h, Option.map_some, Option.getD_some]

/-! ## Statements beside a staging relation of another name -/

variable {staged : Table}

/-- The drop means the mart's table. -/
theorem dropIfExists_beside (h : Text.sameName staged.name table = false) (m : Mart) :
    dropIfExists { mart := m, staging := some staged } table =
      { mart := m.drop table, staging := some staged } := by
  simp only [dropIfExists, h, Bool.false_eq_true, if_false]

/-- The staged rows go to the end of the mart's table, and the staging relation goes. -/
theorem copyStaged_beside (h : Text.sameName staged.name table = false)
    (ht : m.table? table = some t) :
    copyStaged { mart := m, staging := some staged } table =
      .ok (staged.rows.length, { mart := m.put { t with rows := t.rows ++ staged.rows } }) := by
  simp only [copyStaged_eq, resolve?, h, Bool.false_eq_true, if_false, ht]

/-! ## Creating -/

/-- What stands against creating a table of the given columns, if anything. -/
def createFault? (table : String) (columns : List Column) : Option Fault :=
  if columns.isEmpty then some (.load table "cannot create a table from a batch with no columns")
  else
    match columnsFault? columns with
    | some e => some (.load table e.message)
    | none =>
      if isReserved table then some (.load table (EngineError.reservedName table).message) else none

/-- Nothing stands against a table under a free name with distinct columns, at least one. -/
theorem createFault?_eq_none_iff (table : String) (columns : List Column) :
    createFault? table columns = none ↔
      columns ≠ [] ∧ DistinctNames (columns.map Column.name) ∧ isReserved table = false := by
  unfold createFault?
  by_cases hne : columns = []
  · simp [hne]
  · rw [if_neg (by simpa using hne)]
    cases hf : columnsFault? columns with
    | some e =>
        have : ¬ (columns ≠ [] ∧ DistinctNames (columns.map Column.name)) := by
          rw [← columnsFault?_eq_none_iff, hf]
          exact nofun
        refine ⟨nofun, fun h => ?_⟩
        exact absurd ⟨h.1, h.2.1⟩ this
    | none =>
        have hd := (columnsFault?_eq_none_iff columns).1 hf
        simp [hne, hd.2]

/-- A table that must not be created is not: the session is as it was, also where the old table was
dropped on the way. -/
theorem create_of_fault {e : Fault} (h : createFault? table b.columns = some e) (s : Session) :
    s.create table b = (.error e, s) := by
  unfold createFault? at h
  rw [create_eq]
  by_cases hne : b.columns.isEmpty
  · rw [if_pos hne] at h ⊢
    cases h
    rfl
  · rw [if_neg hne] at h ⊢
    cases hf : columnsFault? b.columns with
    | some engine =>
        simp only [hf, Option.some.injEq] at h
        subst h
        rw [created, stage_eq_error hf, error_bind, settle_error]
    | none =>
        simp only [hf, Option.ite_none_right_eq_some, Option.some.injEq] at h
        obtain ⟨hr, rfl⟩ := h
        obtain ⟨staged, hs, -, -⟩ := stage_eq_ok hf s
        rw [created, hs, ok_bind, createTable, if_pos hr, error_bind, settle_error]

/-- A table that may be created is the same one afterwards whatever stood there before: it has the
columns and the rows of the batch. -/
theorem exists_created (hname : Text.sameName stagingName table = false)
    (h : createFault? table b.columns = none) :
    ∃ t : Table, t.columns = b.columns.map TableColumn.ofColumn ∧ t.rows = b.stored ∧
      ∀ s : Session, ∃ m', s.create table b = (.ok b.size, { mart := m' }) ∧
        m'.table? table = some t := by
  obtain ⟨hne, hd, hr⟩ := (createFault?_eq_none_iff table b.columns).1 h
  have hf := (columnsFault?_eq_none_iff b.columns).2 ⟨hne, hd⟩
  obtain ⟨t, ht, htname, htcols, htrows⟩ := exists_newTable hf table
  refine ⟨{ t with rows := t.rows ++ b.stored }, htcols, by rw [htrows, List.nil_append], ?_⟩
  intro s
  obtain ⟨staged, hs, hsname, hsrows⟩ := stage_eq_ok hf s
  have hother : Text.sameName staged.name table = false := by rw [hsname]; exact hname
  have hmade : createTable { mart := s.mart.drop table, staging := some staged } table b.columns =
      .ok { mart := (s.mart.drop table).put t, staging := some staged } := by
    have habsent := s.mart.table?_drop_self table
    simp only [createTable, hr, Bool.false_eq_true, if_false, habsent, Option.isSome_none, ht,
      Except.map]
  have hfound : ((s.mart.drop table).put t).table? table = some t := by
    rw [← htname]
    exact Mart.table?_put_self _ t
  refine ⟨((s.mart.drop table).put t).put { t with rows := t.rows ++ b.stored }, ?_,
    Mart.table?_put_rows hfound _ _⟩
  rw [create_eq, if_neg (by simpa using hne), created, hs, ok_bind, dropIfExists_beside hother, hmade,
    ok_bind, copyStaged_beside hother hfound, settle_ok, hsrows, length_stored]

/-- A table that may be created holds exactly the batch afterwards, whatever stood there before. -/
theorem exists_create (hname : Text.sameName stagingName table = false)
    (h : createFault? table b.columns = none) (s : Session) :
    ∃ m', s.create table b = (.ok b.size, { mart := m' }) ∧ m'.Holds table b.columns b.rows := by
  obtain ⟨t, htcols, htrows, hcreated⟩ := exists_created hname h
  obtain ⟨m', hm', ht⟩ := hcreated s
  exact ⟨m', hm', t, ht, htcols, htrows⟩

/-! ## Appending -/

/-- Nothing is appended to a table that is not there. -/
theorem append_of_absent (h : m.table? table = none) (b : Batch) :
    append { mart := m } table b = (.error (.missingTable table), { mart := m }) := by
  have hs : tableSchema { mart := m } table = .ok [] := by
    simp only [tableSchema, resolve?, h, Option.map_none, Option.getD_none, readColumns]
  simp only [append_eq, hs, List.isEmpty_nil, if_true]

/-- Nothing is appended to a table with a column whose type is not ours. -/
theorem append_of_foreign (ht : m.table? table = some t) (hs : t.schema? = none) (b : Batch) :
    ∃ c ∈ t.columns, append { mart := m } table b =
      (.error (.load table ("column '" ++ c.name ++ "' has foreign type '" ++ c.declared ++ "'")),
        { mart := m }) := by
  obtain ⟨c, hc, he⟩ := readColumns_eq_error table hs
  rw [← tableSchema_of_table? ht] at he
  refine ⟨c, hc, ?_⟩
  simp only [append_eq, he]

/-- Nothing is appended to a table with other columns. -/
theorem append_of_ne {existing : List Column} (ht : m.table? table = some t)
    (hs : t.schema? = some existing) (hne : b.columns ≠ existing) :
    append { mart := m } table b =
      (.error (.schemaMismatch table (Column.describe existing) (Column.describe b.columns)),
        { mart := m }) := by
  have he := readColumns_eq_ok table hs
  rw [← tableSchema_of_table? ht] at he
  have hnil : existing.isEmpty = false := by
    rw [List.isEmpty_eq_false_iff]
    exact ((columnsFault?_eq_none_iff existing).1 (Table.columnsFault?_of_schema? hs)).1
  have hsame : b.sameSchema existing = false := by simpa [Batch.sameSchema] using hne
  simp only [append_eq, he, hnil, hsame, Bool.not_false, Bool.false_eq_true, if_false, if_true]

/-- The rows of a batch go to the end of a table with its columns. -/
theorem exists_append (hname : Text.sameName stagingName table = false)
    (ht : m.table? table = some t) (hs : t.schema? = some b.columns) :
    ∃ m', append { mart := m } table b = (.ok b.size, { mart := m' }) ∧
      m'.table? table = some { t with rows := t.rows ++ b.stored } := by
  have he := readColumns_eq_ok table hs
  rw [← tableSchema_of_table? ht] at he
  have hf := Table.columnsFault?_of_schema? hs
  have hnil : b.columns.isEmpty = false := by
    rw [List.isEmpty_eq_false_iff]
    exact ((columnsFault?_eq_none_iff b.columns).1 hf).1
  have hsame : b.sameSchema b.columns = true := by simp [Batch.sameSchema]
  obtain ⟨staged, hst, hsname, hsrows⟩ := stage_eq_ok hf { mart := m }
  have hother : Text.sameName staged.name table = false := by rw [hsname]; exact hname
  refine ⟨m.put { t with rows := t.rows ++ b.stored }, ?_, Mart.table?_put_rows ht m _⟩
  simp only [append_eq, he, hnil, hsame, Bool.not_true, Bool.false_eq_true, if_false]
  rw [appended, hst, ok_bind, copyStaged_beside hother ht, settle_ok, hsrows, length_stored]

/-- The four ways in which appending a batch can come out. -/
theorem append_cases (hname : Text.sameName stagingName table = false) (m : Mart) (b : Batch) :
    (m.table? table = none ∧
      append { mart := m } table b = (.error (.missingTable table), { mart := m })) ∨
    (∃ t, m.table? table = some t ∧ t.schema? = none ∧
      ∃ reason, append { mart := m } table b = (.error (.load table reason), { mart := m })) ∨
    (∃ t existing, m.table? table = some t ∧ t.schema? = some existing ∧ b.columns ≠ existing ∧
      append { mart := m } table b =
        (.error (.schemaMismatch table (Column.describe existing) (Column.describe b.columns)),
          { mart := m })) ∨
    (∃ t m', m.table? table = some t ∧ t.schema? = some b.columns ∧
      append { mart := m } table b = (.ok b.size, { mart := m' }) ∧
      m'.table? table = some { t with rows := t.rows ++ b.stored }) := by
  cases ht : m.table? table with
  | none => exact Or.inl ⟨rfl, append_of_absent ht b⟩
  | some t =>
      right
      cases hs : t.schema? with
      | none =>
          obtain ⟨c, -, he⟩ := append_of_foreign ht hs b
          exact Or.inl ⟨t, rfl, hs, _, he⟩
      | some existing =>
          right
          by_cases hne : b.columns = existing
          · subst hne
            obtain ⟨m', ha, hm'⟩ := exists_append hname ht hs
            exact Or.inr ⟨t, m', rfl, hs, ha, hm'⟩
          · exact Or.inl ⟨t, existing, rfl, hs, hne, append_of_ne ht hs hne⟩

/-- A batch with the columns of a table goes to the end of its rows. -/
theorem exists_append_of_holds (hname : Text.sameName stagingName table = false)
    {rows : List (List Value)} (h : m.Holds table b.columns rows) :
    ∃ m', append { mart := m } table b = (.ok b.size, { mart := m' }) ∧
      m'.Holds table b.columns (rows ++ b.rows) := by
  obtain ⟨t, ht, hcols, hrows⟩ := h
  obtain ⟨m', ha, hm'⟩ := exists_append hname ht (Table.schema?_of_ofColumn hcols)
  refine ⟨m', ha, _, hm', hcols, ?_⟩
  show t.rows ++ b.stored = _
  rw [hrows, List.map_append]
  rfl

/-- A batch with other columns than a table is refused. -/
theorem append_of_holds_ne {columns : List Column} {rows : List (List Value)}
    (h : m.Holds table columns rows) (hne : b.columns ≠ columns) :
    append { mart := m } table b =
      (.error (.schemaMismatch table (Column.describe columns) (Column.describe b.columns)),
        { mart := m }) := by
  obtain ⟨t, ht, hcols, -⟩ := h
  exact append_of_ne ht (Table.schema?_of_ofColumn hcols) hne

/-- A table that holds rows holds so many. -/
theorem countRows_of_holds {columns : List Column} {rows : List (List Value)}
    (h : m.Holds table columns rows) : countRows { mart := m } table = .ok rows.length := by
  obtain ⟨t, ht, -, hrows⟩ := h
  simp only [countRows, resolve?, ht, hrows, List.length_map]

/-- A table that holds rows has the columns that it holds them under. -/
theorem tableSchema_of_holds {columns : List Column} {rows : List (List Value)}
    (h : m.Holds table columns rows) : tableSchema { mart := m } table = .ok columns := by
  obtain ⟨t, ht, hcols, -⟩ := h
  rw [tableSchema_of_table? ht, readColumns_eq_ok table (Table.schema?_of_ofColumn hcols)]

end Session

end DataMart
