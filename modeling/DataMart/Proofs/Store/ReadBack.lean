import DataMart.Proofs.Query.Columns
import DataMart.Proofs.Store.Cells
import DataMart.Proofs.Store.Locality

/-!
# What is loaded is what is read

A table that is created from a batch, and to which further batches of the same columns are appended,
has a record for each of their rows, in order, and each cell reads as `readBack` says.

* `readRecord` is the record of a row that was written; `record_storeRow`: a stored row gives it.
* `Mart.Holds.reads`: what is read of a table that holds written rows.
* `Session.fill` creates a table and appends to it; `exists_fill`: nothing fails, and the table
  holds all rows.
* `fill_reads_back`: so all that was written is read.
-/

namespace DataMart

/-- What a row that was written reads as: the names of the columns, and the values under them. -/
def readRecord (columns : List Column) (row : List Value) : Record :=
  ⟨List.zipWith (fun c v => (c.name, readBack c.type v)) columns row⟩

/-! ## Rows -/

/-- The names of a record are those of the columns. -/
theorem columns_readRecord {columns : List Column} {row : List Value}
    (h : fits columns row = true) : (readRecord columns row).columns = columns.map Column.name := by
  have hforall := forall₂_of_fits h
  clear h
  induction hforall with
  | nil => rfl
  | cons _ _ ih => exact congrArg (_ :: ·) ih

/-- Only a boolean column is declared as one. -/
theorem isBoolean_ofColumn {columns : List Column} {i : Nat} (hi : i < columns.length) :
    (Expr.ref i).isBoolean (columns.map TableColumn.ofColumn) =
      (columns[i].type == .boolean) := by
  have htype : ∀ type : ColumnType, (Text.sameName type.sqlName "boolean" ||
      Text.sameName type.sqlName "bool") = (type == .boolean) := by
    intro type
    cases type <;> decide +kernel
  rw [Expr.isBoolean, List.getElem?_map, List.getElem?_eq_getElem hi]
  exact htype columns[i].type

/-- A stored row gives the record of the row that was written. -/
theorem Table.record_storeRow {t : Table} {columns : List Column}
    (hcolumns : t.columns = columns.map TableColumn.ofColumn) {row : List Value}
    (hfits : fits columns row = true) :
    t.record (Cell.storeRow columns row) = readRecord columns row := by
  obtain ⟨hlen, haccepts⟩ := List.forall₂_iff_get.1 (forall₂_of_fits hfits)
  unfold record readRecord
  rw [hcolumns]
  congr 1
  apply List.ext_getElem
  · simp [Cell.storeRow, hlen]
  · intro i hi hi'
    rw [List.length_zipWith, hlen, Nat.min_self, ← hlen] at hi'
    have hcolumn : i < columns.length := hi'
    have hvalue : i < row.length := hlen ▸ hcolumn
    have hcell := toJson_store (haccepts i hcolumn hvalue)
    simp only [List.getElem_zipWith, List.getElem_range, List.getElem_map, Cell.storeRow,
      isBoolean_ofColumn hcolumn]
    exact congrArg (columns[i].name, ·) hcell

/-- What is read of a table that holds written rows, as a whole or column by column. -/
theorem Mart.Holds.reads {m : Mart} {table : String} {columns : List Column}
    {rows : List (List Value)} (h : m.Holds table columns rows)
    (hfits : ∀ row ∈ rows, fits columns row = true) :
    let records := rows.map (readRecord columns)
    m.dump table = .ok records ∧ ∀ limit, limit < Word.signedEnd →
      m.select (.ofColumns table (columns.map Column.name) limit) = .ok (records.take limit) := by
  intro records
  obtain ⟨t, ht, htcolumns, htrows⟩ := h
  have hrecords : t.rows.map t.record = records := by
    rw [htrows, List.map_map]
    exact List.map_congr_left fun row hrow => Table.record_storeRow htcolumns (hfits row hrow)
  have hwidth : ∀ row ∈ t.rows, row.length = t.columns.length := by
    rw [htrows, htcolumns, List.forall_mem_map, List.length_map]
    intro row hrow
    rw [Cell.storeRow, List.length_zipWith, length_of_fits (hfits row hrow), Nat.min_self]
  constructor
  · rw [dump, ht]
    exact congrArg Except.ok hrecords
  · intro limit hlimit
    have hselect := select_ofColumns ht hwidth hlimit
    rw [hrecords, htcolumns, List.map_map] at hselect
    exact hselect

/-! ## Loading and reading -/

namespace Session

variable {table : String} {b : Batch} {m : Mart}

/-- Append batches to a table, one after another. -/
def appendAll (s : Session) (table : String) (later : List Batch) : Session :=
  later.foldl (fun s c => (s.append table c).2) s

/-- Create a table from a batch, and append further batches to it. -/
def fill (s : Session) (table : String) (b : Batch) (later : List Batch) : Session :=
  (s.create table b).2.appendAll table later

/-- Batches with the columns of a table go to the end of its rows, one after another. -/
theorem exists_appendAll (hname : Text.sameName stagingName table = false) {columns : List Column}
    {rows : List (List Value)} (h : m.Holds table columns rows) {later : List Batch}
    (hcolumns : ∀ c ∈ later, c.columns = columns) :
    ∃ m', appendAll { mart := m } table later = { mart := m' } ∧
      m'.Holds table columns (rows ++ later.flatMap Batch.rows) := by
  induction later generalizing m rows with
  | nil =>
      refine ⟨m, rfl, ?_⟩
      rwa [List.flatMap_nil, List.append_nil]
  | cons c later ih =>
      obtain ⟨rfl, hlater⟩ := List.forall_mem_cons.1 hcolumns
      obtain ⟨m₁, happend, hholds⟩ := exists_append_of_holds hname h
      obtain ⟨m', hfold, hall⟩ := ih hholds hlater
      refine ⟨m', ?_, ?_⟩
      · rw [appendAll, List.foldl_cons, happend]
        exact hfold
      · rwa [List.append_assoc] at hall

/-- A table is not created under the name of the staging relation. -/
theorem unstaged_of_create {n : Nat} (h : (create { mart := m } table b).1 = .ok n) :
    Text.sameName stagingName table = false ∧ createFault? table b.columns = none := by
  have hfree : createFault? table b.columns = none := by
    cases hfault : createFault? table b.columns with
    | none => rfl
    | some e =>
        rw [create_of_fault hfault] at h
        cases h
  refine ⟨?_, hfree⟩
  cases hname : Text.sameName stagingName table with
  | false => rfl
  | true =>
      rw [create_of_staged hname hfree] at h
      cases h

/-- Once the table is created, nothing fails, and the table holds all rows. -/
theorem exists_fill {n : Nat} (hcreate : (create { mart := m } table b).1 = .ok n)
    {later : List Batch} (hcolumns : ∀ c ∈ later, c.columns = b.columns) :
    ∃ m', fill { mart := m } table b later = { mart := m' } ∧
      m'.Holds table b.columns ((b :: later).flatMap Batch.rows) := by
  obtain ⟨hname, hfree⟩ := unstaged_of_create hcreate
  obtain ⟨m₁, hcreated, hholds⟩ := exists_create hname hfree { mart := m }
  rw [fill, hcreated]
  exact exists_appendAll hname hholds hcolumns

/-- **What is loaded is what is read.** Once a table is created from a batch, every batch of the same
columns can be appended to it. Reading all of its columns, at once or by name and up to a limit, gives
a record for each row that was written, in the order of writing, under the names of the columns in
their order. The affinity of a column changes no value on the way, and each reads as its own JSON,
apart from whole numbers in floating-point columns, which read as the same number in floating point,
and negative zero. -/
theorem fill_reads_back {n : Nat} (hcreate : (create { mart := m } table b).1 = .ok n)
    {later : List Batch} (hcolumns : ∀ c ∈ later, c.columns = b.columns) :
    let rows := (b :: later).flatMap Batch.rows
    let records := rows.map (readRecord b.columns)
    (∀ before c after, later = before ++ c :: after →
      ((fill { mart := m } table b before).append table c).1 = .ok c.size) ∧
    (∃ m', fill { mart := m } table b later = { mart := m' } ∧
      m'.dump table = .ok records ∧
      ∀ limit, limit < Word.signedEnd →
        let q := Select.ofColumns table (b.columns.map Column.name) limit
        respond (.ok m') q.render (fun m => m.select q) = .ok ⟨q.render, records.take limit⟩) ∧
    (∀ row ∈ rows, (readRecord b.columns row).columns = b.columns.map Column.name) ∧
    (∀ type v, type.accepts v = true →
      Cell.adapt (Affinity.ofDeclared type.sqlName) (Cell.store type v) = Cell.store type v) ∧
    (∀ k, readBack .float (.int k) = .ofFloat (Float.ofInt k)) ∧
    (∀ type v, (type = .float → ∀ k, v ≠ .int k) → v ≠ .float (-0.0) →
      readBack type v = v.toJson) := by
  intro rows records
  have hfits : ∀ row ∈ rows, fits b.columns row = true := by
    intro row hrow
    obtain ⟨c, hc, hrow⟩ := List.mem_flatMap.1 hrow
    rw [← (List.forall_mem_cons.2 ⟨rfl, hcolumns⟩ : ∀ c ∈ b :: later, c.columns = b.columns) c hc]
    exact c.rows_fit row hrow
  refine ⟨?_, ?_, fun row hrow => columns_readRecord (hfits row hrow), fun type v => adapt_store,
    fun _ => rfl, fun type v => readBack_eq_toJson⟩
  · rintro before c after rfl
    obtain ⟨hbefore, hc⟩ := List.forall_mem_append.1 hcolumns
    obtain ⟨m₁, hfill, hholds⟩ := exists_fill hcreate hbefore
    rw [← (List.forall_mem_cons.1 hc).1] at hholds
    obtain ⟨m₂, happend, -⟩ := exists_append_of_holds (unstaged_of_create hcreate).1 hholds
    rw [hfill, happend]
  · obtain ⟨m', hfill, hholds⟩ := exists_fill hcreate hcolumns
    obtain ⟨hdump, hselect⟩ := hholds.reads hfits
    refine ⟨m', hfill, hdump, ?_⟩
    intro limit hlimit q
    have hanswer : m'.select q = .ok (records.take limit) := hselect limit hlimit
    rw [respond, Except.bind, hanswer]

/-- A few entries of a ledger. -/
def ledger : Batch where
  columns := [⟨"paid", .boolean⟩, ⟨"the \"net\"", .float⟩, ⟨"day", .date⟩]
  rows := [[.bool true, .int 2, .date ⟨2025, 1, 2, by decide⟩], [.null, .float (-0.0), .null]]
  rows_fit := by decide

/-- One more, without a number. -/
def laterLedger : Batch where
  columns := ledger.columns
  rows := [[.bool false, .float (0.0 / 0.0), .null]]
  rows_fit := by decide

/-- All entries are read, the two as a floating-point number, zero without its sign, and what is not a
number as null. -/
theorem ledger_read_back :
    (create { mart := {} } "ledger" ledger).1 = .ok 2 ∧
    (∀ c ∈ [laterLedger], c.columns = ledger.columns) ∧
    ∃ m', fill { mart := {} } "ledger" ledger [laterLedger] = { mart := m' } ∧
      m'.dump "ledger" = .ok [
        ⟨[("paid", .bool true), ("the \"net\"", .number (.real 2.0)), ("day", .text "2025-01-02")]⟩,
        ⟨[("paid", .null), ("the \"net\"", .number (.real 0.0)), ("day", .null)]⟩,
        ⟨[("paid", .bool false), ("the \"net\"", .null), ("day", .null)]⟩] := by
  have hfree : createFault? "ledger" ledger.columns = none := by
    rw [createFault?_eq_none_iff]
    decide +kernel
  obtain ⟨m₁, hcreated, -⟩ := exists_create (by decide +kernel) hfree { mart := {} }
  have hcreate : (create { mart := {} } "ledger" ledger).1 = .ok 2 := by
    rw [hcreated]
    rfl
  have hcolumns : ∀ c ∈ [laterLedger], c.columns = ledger.columns := List.forall_mem_singleton.2 rfl
  obtain ⟨-, ⟨m', hfill, hdump, -⟩, -⟩ := fill_reads_back hcreate hcolumns
  refine ⟨hcreate, hcolumns, m', hfill, hdump.trans ?_⟩
  rfl

end Session

end DataMart
