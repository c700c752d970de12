import DataMart.Proofs.Store.Effects
import Mathlib.Algebra.Order.Floor.Div
import Mathlib.Data.List.Forall2

/-!
# Staging a batch

A batch reaches its table by way of the staging relation: its rows are cut into statements, each
statement binds the values of its rows one after another, and the engine cuts the bound values back
into rows.

* `cut` loses nothing (`flatten_cut`), its pieces are as few as their size allows (`length_cut`,
  `ne_nil_of_mem_cut`, `length_le_of_mem_cut`), and it undoes the flattening of rows of one width
  (`cut_flatten`).
* `columnsFault?` is the engine's objection to the columns of a new table; `exists_newTable` and
  `newTable_of_fault` say that it is the only one.
* `stage_eq_ok`: staging a batch leaves exactly its rows in the staging relation, each cell as the
  engine stores it (`Batch.stored`), whatever the relation held before. The mart is not touched.
-/

namespace DataMart

/-! ## Cutting a list into pieces -/

/-- Nothing is cut from the empty list. -/
@[simp] theorem cut_nil {α : Type} (n : Nat) : cut n ([] : List α) = [] := by
  rw [cut]
  simp

/-- The first piece, and the pieces of the rest. -/
theorem cut_of_ne_nil {α : Type} {n : Nat} (hn : 0 < n) {xs : List α} (hxs : xs ≠ []) :
    cut n xs = xs.take n :: cut n (xs.drop n) := by
  have hgo : ¬ (n = 0 ∨ xs = []) := by
    rintro (h | h)
    · omega
    · exact hxs h
  rw [cut, dif_neg hgo]

/-- The pieces in a row are the list. -/
theorem flatten_cut {α : Type} {n : Nat} (hn : 0 < n) (xs : List α) : (cut n xs).flatten = xs := by
  induction xs using cut.induct (n := n) with
  | case1 xs h =>
      obtain rfl : xs = [] := h.resolve_left (by omega)
      simp
  | case2 xs h ih =>
      rw [cut_of_ne_nil hn (fun e => h (Or.inr e)), List.flatten_cons, ih, List.take_append_drop]

/-- There are as many pieces as are needed to hold the list. -/
theorem length_cut {α : Type} {n : Nat} (hn : 0 < n) (xs : List α) :
    (cut n xs).length = xs.length ⌈/⌉ n := by
  induction xs using cut.induct (n := n) with
  | case1 xs h =>
      obtain rfl : xs = [] := h.resolve_left (by omega)
      rw [cut_nil]
      exact (zero_ceilDiv n).symm
  | case2 xs h ih =>
      have hne : xs ≠ [] := fun e => h (Or.inr e)
      have hpos : 0 < xs.length := List.length_pos_iff.2 hne
      rw [cut_of_ne_nil hn hne, List.length_cons, ih, List.length_drop,
        Nat.ceilDiv_eq_add_pred_div, Nat.ceilDiv_eq_add_pred_div]
      -- the first piece is full, or it is all there is
      by_cases hle : n ≤ xs.length
      · have hfull : xs.length + n - 1 = (xs.length - n + n - 1) + n := by omega
        rw [hfull, Nat.add_div_right _ hn]
      · have hrest : (xs.length - n + n - 1) / n = 0 := Nat.div_eq_of_lt (by omega)
        have hall : (xs.length + n - 1) / n = 1 := Nat.div_eq_of_lt_le (by omega) (by omega)
        rw [hrest, hall]

/-- What holds of the first pieces of all lists that are not empty holds of every piece. -/
theorem forall_mem_cut {α : Type} {n : Nat} {p : List α → Prop}
    (h : 0 < n → ∀ xs, xs ≠ [] → p (xs.take n)) (xs : List α) : ∀ piece ∈ cut n xs, p piece := by
  induction xs using cut.induct (n := n) with
  | case1 xs h' =>
      rw [cut, dif_pos h']
      exact nofun
  | case2 xs h' ih =>
      rw [cut, dif_neg h', List.forall_mem_cons]
      exact ⟨h (by omega) xs fun e => h' (Or.inr e), ih⟩

/-- No piece is empty. -/
theorem ne_nil_of_mem_cut {α : Type} {n : Nat} {xs piece : List α} (h : piece ∈ cut n xs) :
    piece ≠ [] := by
  refine forall_mem_cut (p := (· ≠ [])) (fun hn ys hys => ?_) xs piece h
  rw [Ne, List.take_eq_nil_iff, not_or]
  exact ⟨Nat.ne_of_gt hn, hys⟩

/-- No piece is longer than asked for. -/
theorem length_le_of_mem_cut {α : Type} {n : Nat} {xs piece : List α} (h : piece ∈ cut n xs) :
    piece.length ≤ n :=
  forall_mem_cut (p := (·.length ≤ n)) (fun _ ys _ => List.length_take_le n ys) xs piece h

/-- Rows of one width, written one after another, are cut back into the rows. -/
theorem cut_flatten {α : Type} {n : Nat} (hn : 0 < n) {rows : List (List α)}
    (h : ∀ row ∈ rows, row.length = n) : cut n rows.flatten = rows := by
  induction rows with
  | nil => simp
  | cons row rest ih =>
      have hrow : row.length = n := h row List.mem_cons_self
      have hne : (row :: rest).flatten ≠ [] := by
        rw [List.flatten_cons]
        intro e
        have : row.length = 0 := by simp [(List.append_eq_nil_iff.1 e).1]
        omega
      rw [cut_of_ne_nil hn hne, List.flatten_cons, List.take_left' hrow, List.drop_left' hrow,
        ih fun r hr => h r (List.mem_cons_of_mem row hr)]

/-! ## Columns of a new table -/

/-- What the engine has against a new table with the given columns, if anything. -/
def columnsFault? (columns : List Column) : Option EngineError :=
  if columns = [] then some (.nearToken ")")
  else (duplicateName? [] (columns.map Column.name)).map .duplicateColumn

/-- The engine takes any columns of distinct names, and at least one. -/
theorem columnsFault?_eq_none_iff (columns : List Column) :
    columnsFault? columns = none ↔
      columns ≠ [] ∧ DistinctNames (columns.map Column.name) := by
  unfold columnsFault?
  split
  · rename_i h
    simp [h]
  · rename_i h
    rw [Option.map_eq_none_iff, duplicateName?_eq_none_iff]
    simp [h]

/-- Columns that the engine objects to make no table. -/
theorem newTable_of_fault {columns : List Column} {e : EngineError}
    (h : columnsFault? columns = some e) (name : String) : newTable name columns = .error e := by
  unfold columnsFault? at h
  unfold newTable
  by_cases hne : columns = []
  · rw [if_pos hne] at h
    rw [dif_pos hne]
    cases h
    rfl
  · rw [if_neg hne] at h
    rw [dif_neg hne]
    obtain ⟨twice, hd, rfl⟩ := Option.map_eq_some_iff.1 h
    split
    · rename_i other ho
      rw [hd] at ho
      cases ho
      rfl
    · rename_i ho
      rw [hd] at ho
      cases ho

/-- Columns that the engine takes make an empty table. -/
theorem exists_newTable {columns : List Column} (h : columnsFault? columns = none)
    (name : String) :
    ∃ t, newTable name columns = .ok t ∧ t.name = name ∧
      t.columns = columns.map TableColumn.ofColumn ∧ t.rows = [] := by
  obtain ⟨hne, hd⟩ := (columnsFault?_eq_none_iff columns).1 h
  have hnone := (duplicateName?_eq_none_iff [] _).2 ⟨by simp, hd⟩
  unfold newTable
  rw [dif_neg hne]
  split
  · rename_i other ho
    rw [hnone] at ho
    cases ho
  · exact ⟨_, rfl, rfl, rfl, rfl⟩

/-! ## The staged rows -/

/-- The rows of a batch as the engine stores them. -/
def Batch.stored (b : Batch) : List (List Cell) := b.rows.map (Cell.storeRow b.columns)

/-- A batch is stored row by row. -/
theorem length_stored (b : Batch) : b.stored.length = b.size := by simp [Batch.stored, Batch.size]

/-- A row that fits has a value for each column, which the column accepts. -/
theorem forall₂_of_fits {columns : List Column} {row : List Value} (h : fits columns row = true) :
    List.Forall₂ (fun c v => c.type.accepts v = true) columns row := by
  induction columns generalizing row with
  | nil =>
      cases row with
      | nil => exact .nil
      | cons v row => cases h
  | cons c columns ih =>
      cases row with
      | nil => cases h
      | cons v row =>
          rw [fits, Bool.and_eq_true] at h
          exact .cons h.1 (ih h.2)

/-- A row that fits is as long as the columns are. -/
theorem length_of_fits {columns : List Column} {row : List Value} (h : fits columns row = true) :
    row.length = columns.length :=
  (forall₂_of_fits h).length_eq.symm

/-- A statement has room for a row. -/
theorem rowsPerStatement_pos (width : Nat) : 0 < rowsPerStatement width := by
  unfold rowsPerStatement
  omega

/-- The rows that a batch is cut into are rows of the batch: each is as long as the columns are. -/
theorem Batch.length_of_mem_cut {b : Batch} {n : Nat} (hn : 0 < n) {rows : List (List Value)}
    (h : rows ∈ cut n b.rows) : ∀ row ∈ rows, row.length = b.columns.length := by
  intro row hrow
  have hmem : row ∈ (cut n b.rows).flatten := List.mem_flatten.2 ⟨rows, h, hrow⟩
  rw [flatten_cut hn] at hmem
  exact length_of_fits (b.rows_fit row hmem)

namespace Session

variable {s : Session} {columns : List Column}

/-- One statement appends its rows to the staging relation. -/
theorem insertStaged_insertStatement {t : Table} (hs : s.staging = some t) (hc : columns ≠ [])
    {rows : List (List Value)} (hrows : ∀ row ∈ rows, row.length = columns.length) :
    s.insertStaged columns (insertStatement columns.length rows) =
      .ok { s with staging := some { t with rows := t.rows ++ rows.map (Cell.storeRow columns) } }
    := by
  have hcut : cut columns.length (insertStatement columns.length rows).params = rows :=
    cut_flatten (List.length_pos_iff.2 hc) hrows
  unfold insertStaged
  rw [hs]
  dsimp only
  rw [hcut]

/-- Statement by statement, the rows of all pieces end up in the staging relation in order. -/
theorem foldlM_insertStaged {t : Table} (hs : s.staging = some t) (hc : columns ≠ [])
    {pieces : List (List (List Value))}
    (hp : ∀ rows ∈ pieces, ∀ row ∈ rows, row.length = columns.length) :
    (pieces.map (insertStatement columns.length)).foldlM
        (fun acc insert => acc.insertStaged columns insert) s =
      .ok { s with
        staging := some
          { t with rows := t.rows ++ pieces.flatten.map (Cell.storeRow columns) } } := by
  induction pieces generalizing s t with
  | nil =>
      rw [List.map_nil, List.foldlM_nil, List.flatten_nil, List.map_nil, List.append_nil, ← hs]
      rfl
  | cons rows rest ih =>
      rw [List.map_cons, List.foldlM_cons,
        insertStaged_insertStatement hs hc (hp rows List.mem_cons_self), ok_bind,
        ih rfl fun r hr => hp r (List.mem_cons_of_mem rows hr)]
      simp

/-- A fresh staging relation is made in place of any. -/
theorem createStaging_clearStaging (s : Session) (columns : List Column) :
    s.clearStaging.createStaging columns =
      (newTable stagingName columns).map fun t => { s with staging := some t } := rfl

/-- A batch whose columns the engine takes is staged whole, and nothing else changes. -/
theorem stage_eq_ok {b : Batch} (h : columnsFault? b.columns = none) (s : Session) :
    ∃ t, s.stage b = .ok { s with staging := some t } ∧ t.name = stagingName ∧
      t.rows = b.stored := by
  obtain ⟨t, ht, hname, -, hrows⟩ := exists_newTable h stagingName
  have hc : b.columns ≠ [] := ((columnsFault?_eq_none_iff b.columns).1 h).1
  refine ⟨{ t with rows := b.stored }, ?_, hname, rfl⟩
  rw [stage, createStaging_clearStaging, ht]
  simp only [Except.map, stagingStatements]
  rw [ok_bind,
    foldlM_insertStaged rfl hc fun _ hr => Batch.length_of_mem_cut (rowsPerStatement_pos _) hr,
    flatten_cut (rowsPerStatement_pos _), hrows]
  rfl

/-- A batch whose columns the engine objects to is not staged. -/
theorem stage_eq_error {b : Batch} {e : EngineError} (h : columnsFault? b.columns = some e)
    (s : Session) : s.stage b = .error e := by
  rw [stage, createStaging_clearStaging, newTable_of_fault h]
  rfl

/-- Staging does not touch the mart. -/
theorem mart_of_stage {b : Batch} {s s' : Session} (h : s.stage b = .ok s') : s'.mart = s.mart := by
  cases hf : columnsFault? b.columns with
  | some e =>
      rw [stage_eq_error hf] at h
      cases h
  | none =>
      obtain ⟨t, ht, -, -⟩ := stage_eq_ok hf s
      rw [ht] at h
      cases h
      rfl

end Session

end DataMart
