import DataMart.Postgres.Types
import DataMart.Proofs.Steps

/-!
# Results taken over

The two tables of types agree: a cell that can be read fits the column that its type is taken into
(`accepts_of_decode`). So the check of rows never objects to rows that were read
(`firstFault?_of_reads`), and a result is taken over exactly if its types are supported and its cells
can be read (`batchOfRows_verdict`).

`Reads` is what reading a row comes to, cell by cell. The rows of a result have a cell for each of its
columns.
-/

namespace DataMart.Postgres

variable {decoders : Decoders} {columns : List ResultColumn} {cs : List Column}
  {cells : List (Option String)} {vs : List Value} {rows : List (List (Option String))}
  {values : List (List Value)}

/-! ## One cell -/

/-- A cell that can be read fits the column that its type is taken into. -/
theorem accepts_of_decode {type : String} {t : ColumnType} (ht : columnType? type = some t)
    {i : Nat} {cell : Option String} {v : Value} (hv : decodeWith decoders i type cell = .ok v) :
    t.accepts v = true := by
  cases cell with
  | none =>
      cases hv
      cases t <;> rfl
  | some s =>
      -- one case for each supported type; its name decides how the cell is read
      unfold columnType? at ht
      split at ht <;> cases ht
      all_goals
        simp only [decodeWith, decodeTextWith] at hv
        first
          | (cases hv; rfl)
          | (split at hv <;> cases hv; rfl)

/-! ## Columns -/

/-- A result column that is taken into a mart column of its own name. -/
def IsTaken (c : ResultColumn) (col : Column) : Prop :=
  col.name = c.name ∧ columnType? c.type = some col.type

/-- What a result column is taken into. -/
theorem columnOf_eq_ok_iff (c : ResultColumn) (col : Column) :
    columnOf c = .ok col ↔ IsTaken c col := by
  unfold columnOf IsTaken
  cases columnType? c.type with
  | none => simp
  | some t =>
      obtain ⟨name, type⟩ := col
      simp [eq_comm]

/-- A column cannot be taken over exactly if its type is not supported. -/
theorem columnOf_eq_error_iff (c : ResultColumn) :
    (∃ e, columnOf c = .error e) ↔ columnType? c.type = none := by
  unfold columnOf
  cases columnType? c.type <;> simp

/-! ## Rows -/

/-- The cells of a row, the first of them standing in column `i`, are read as the given values. -/
inductive Reads (decoders : Decoders) :
    Nat → List ResultColumn → List (Option String) → List Value → Prop
  | nil {i : Nat} : Reads decoders i [] [] []
  | cons {i : Nat} {c : ResultColumn} {columns : List ResultColumn} {cell : Option String}
      {cells : List (Option String)} {v : Value} {vs : List Value}
      (first : decodeWith decoders i c.type cell = .ok v)
      (further : Reads decoders (i + 1) columns cells vs) :
      Reads decoders i (c :: columns) (cell :: cells) (v :: vs)

/-- Reading a row that has a cell for each column. -/
theorem decodeRow_eq_ok_iff (hw : cells.length = columns.length) (i : Nat) :
    decodeRowWith decoders i columns cells = .ok vs ↔ Reads decoders i columns cells vs := by
  induction columns generalizing i cells vs with
  | nil =>
      obtain rfl := List.eq_nil_of_length_eq_zero hw
      exact ⟨fun h => by cases h; exact .nil, fun h => by cases h; rfl⟩
  | cons c columns ih =>
      obtain ⟨cell, cells, rfl⟩ := List.exists_cons_of_length_eq_add_one hw
      have hw := Nat.succ.inj hw
      constructor
      · intro h
        obtain ⟨v, hv, h⟩ := bind_eq_ok h
        obtain ⟨ws, hws, h⟩ := bind_eq_ok h
        cases h
        exact .cons hv ((ih hw (i + 1)).1 hws)
      · intro h
        cases h with
        | cons hv hvs =>
            rw [decodeRowWith, hv, ok_bind, (ih hw (i + 1)).2 hvs]
            rfl

/-- A row cannot be read exactly if one of its cells cannot. -/
theorem decodeRow_eq_error_iff (hw : cells.length = columns.length) (i : Nat) :
    (∃ e, decodeRowWith decoders i columns cells = .error e) ↔
      ∃ j c cell e, columns[j]? = some c ∧ cells[j]? = some cell ∧
        decodeWith decoders (i + j) c.type cell = .error e := by
  induction columns generalizing i cells with
  | nil =>
      obtain rfl := List.eq_nil_of_length_eq_zero hw
      simp [decodeRowWith]
  | cons c columns ih =>
      obtain ⟨cell, cells, rfl⟩ := List.exists_cons_of_length_eq_add_one hw
      have ih := ih (Nat.succ.inj hw) (i + 1)
      rw [decodeRowWith]
      cases hv : decodeWith decoders i c.type cell with
      | error e => exact ⟨fun _ => ⟨0, c, cell, e, rfl, rfl, hv⟩, fun _ => ⟨e, rfl⟩⟩
      | ok v =>
          rw [ok_bind]
          constructor
          · rintro ⟨e, he⟩
            cases hvs : decodeRowWith decoders (i + 1) columns cells with
            | ok vs =>
                rw [hvs] at he
                cases he
            | error e' =>
                obtain ⟨j, c', cell', e', hc, hcell, he'⟩ := ih.1 ⟨e', hvs⟩
                exact ⟨j + 1, c', cell', e', hc, hcell, by rwa [Nat.add_right_comm] at he'⟩
          · rintro ⟨j, c', cell', e', hc, hcell, he'⟩
            cases j with
            | zero =>
                cases hc
                cases hcell
                rw [Nat.add_zero, hv] at he'
                cases he'
            | succ j =>
                rw [← Nat.add_assoc, Nat.add_right_comm] at he'
                obtain ⟨e, he⟩ := ih.2 ⟨j, c', cell', e', hc, hcell, he'⟩
                exact ⟨e, by rw [he]; rfl⟩

/-- A row that was read fits the columns taken over. -/
theorem fits_of_reads (hcs : List.Forall₂ IsTaken columns cs) {i : Nat}
    (hvs : Reads decoders i columns cells vs) : fits cs vs = true := by
  induction hvs generalizing cs with
  | nil =>
      cases hcs
      rfl
  | cons hv _ ih =>
      cases hcs with
      | cons hc hcs =>
          rw [fits, Bool.and_eq_true]
          exact ⟨accepts_of_decode hc.2 hv, ih hcs⟩

/-! ## Results -/

/-- A column of the result has a type that is not supported. -/
def Unsupported (columns : List ResultColumn) : Prop := ∃ c ∈ columns, columnType? c.type = none

/-- A cell of the result cannot be read as the type of its column says. -/
def Unreadable (decoders : Decoders) (columns : List ResultColumn)
    (rows : List (List (Option String))) : Prop :=
  ∃ row ∈ rows, ∃ (i : Nat) (c : ResultColumn) (cell : Option String) (e : Fault),
    columns[i]? = some c ∧ row[i]? = some cell ∧ decodeWith decoders i c.type cell = .error e

/-- The columns are taken over exactly as their types say. -/
theorem columns_mapM_eq_ok_iff :
    columns.mapM columnOf = .ok cs ↔ List.Forall₂ IsTaken columns cs := by
  simp only [mapM_eq_ok_iff, columnOf_eq_ok_iff]

/-- The columns cannot be taken over exactly if the type of one of them is not supported. -/
theorem columns_mapM_eq_error_iff :
    (∃ e, columns.mapM columnOf = .error e) ↔ Unsupported columns := by
  simp only [mapM_eq_error_iff, columnOf_eq_error_iff, Unsupported]

/-- The rows are read one by one. -/
theorem rows_mapM_eq_ok_iff (hw : ∀ row ∈ rows, row.length = columns.length) :
    rows.mapM (decodeRowWith decoders 0 columns) = .ok values ↔
      List.Forall₂ (Reads decoders 0 columns) rows values := by
  rw [mapM_eq_ok_iff]
  induction rows generalizing values with
  | nil => simp only [List.forall₂_nil_left_iff]
  | cons row rows ih =>
      obtain ⟨hrow, hrows⟩ := List.forall_mem_cons.1 hw
      simp only [List.forall₂_cons_left_iff, decodeRow_eq_ok_iff hrow, ih hrows]

/-- The rows cannot be read exactly if one of their cells cannot. -/
theorem rows_mapM_eq_error_iff (hw : ∀ row ∈ rows, row.length = columns.length) :
    (∃ e, rows.mapM (decodeRowWith decoders 0 columns) = .error e) ↔
      Unreadable decoders columns rows := by
  rw [mapM_eq_error_iff, Unreadable]
  refine exists_congr fun row => and_congr_right fun hrow => ?_
  simp only [decodeRow_eq_error_iff (hw row hrow), Nat.zero_add]

/-- The check of rows finds nothing wrong with rows that were read. -/
theorem firstFault?_of_reads (hcs : List.Forall₂ IsTaken columns cs)
    (hvalues : List.Forall₂ (Reads decoders 0 columns) rows values) (i : Nat) :
    Batch.firstFault? cs i values = none := by
  rw [Batch.firstFault?_eq_none_iff]
  induction hvalues with
  | nil => exact List.forall_mem_nil _
  | cons hvs _ ih => exact List.forall_mem_cons.2 ⟨fits_of_reads hcs hvs, ih⟩

/-- Rows that were read make a batch. -/
theorem exists_ofRows_of_reads (hcs : List.Forall₂ IsTaken columns cs)
    (hvalues : List.Forall₂ (Reads decoders 0 columns) rows values) :
    ∃ b, Batch.ofRows cs values = .ok b ∧ b.columns = cs ∧ b.rows = values := by
  unfold Batch.ofRows
  split
  · rename_i fault h
    rw [firstFault?_of_reads hcs hvalues] at h
    cases h
  · exact ⟨_, rfl, rfl, rfl⟩

/-- **The verdict on a result.** Whatever the ways to read cells are, a result with rows is refused
exactly if the type of a column is not supported or a cell cannot be read. Otherwise it becomes a batch
with one column for each column of the result and all of its rows in order. A cell that can be read
fits the column that its type is taken into, and so the check of rows never objects to rows that were
read. `batchOfRows` is the case of the client's own ways. -/
theorem batchOfRows_verdict (decoders : Decoders) (columns : List ResultColumn)
    (rows : List (List (Option String))) (hne : rows ≠ [])
    (hw : ∀ row ∈ rows, row.length = columns.length) :
    ((∃ e, batchOfRowsWith decoders columns rows = .error e) ↔
      Unsupported columns ∨ Unreadable decoders columns rows) ∧
    (¬ (Unsupported columns ∨ Unreadable decoders columns rows) →
      ∃ b, batchOfRowsWith decoders columns rows = .ok b ∧ List.Forall₂ IsTaken columns b.columns ∧
        List.Forall₂ (Reads decoders 0 columns) rows b.rows) ∧
    (∀ type t, columnType? type = some t →
      ∀ i cell v, decodeWith decoders i type cell = .ok v → t.accepts v = true) ∧
    (∀ cs values, columns.mapM columnOf = .ok cs →
      rows.mapM (decodeRowWith decoders 0 columns) = .ok values →
        Batch.firstFault? cs 0 values = none) ∧
    batchOfRows columns rows = batchOfRowsWith .standard columns rows := by
  refine and_assoc.1 ⟨?_, fun type t ht i cell v hv => accepts_of_decode ht hv,
    fun cs values hcs hvalues => firstFault?_of_reads (columns_mapM_eq_ok_iff.1 hcs)
      ((rows_mapM_eq_ok_iff hw).1 hvalues) 0, rfl⟩
  rw [← columns_mapM_eq_error_iff, ← rows_mapM_eq_error_iff hw, batchOfRowsWith,
    if_neg (by rwa [List.isEmpty_iff])]
  cases hcs : columns.mapM columnOf with
  | error e => exact ⟨⟨fun _ => .inl ⟨e, rfl⟩, fun _ => ⟨e, rfl⟩⟩, fun h => absurd (.inl ⟨e, rfl⟩) h⟩
  | ok cs =>
      rw [ok_bind]
      cases hvalues : rows.mapM (decodeRowWith decoders 0 columns) with
      | error e =>
          exact ⟨⟨fun _ => .inr ⟨e, rfl⟩, fun _ => ⟨e, rfl⟩⟩, fun h => absurd (.inr ⟨e, rfl⟩) h⟩
      | ok values =>
          have htaken := columns_mapM_eq_ok_iff.1 hcs
          have hread := (rows_mapM_eq_ok_iff hw).1 hvalues
          obtain ⟨b, hb, rfl, rfl⟩ := exists_ofRows_of_reads htaken hread
          rw [ok_bind, hb]
          exact ⟨⟨nofun, by rintro (⟨e, he⟩ | ⟨e, he⟩) <;> cases he⟩,
            fun _ => ⟨b, rfl, htaken, hread⟩⟩

/-- A result of two columns. -/
def openOrders : List ResultColumn := [⟨"id", "INT4"⟩, ⟨"open", "BOOL"⟩]

/-- A text that is no number is found out behind a row that can be read; with a null in its place
the rows become a batch. -/
theorem openOrders_verdict :
    (∃ e, batchOfRows openOrders [[some "-7", some "t"], [some "x", none]] = .error e) ∧
    ∃ b, batchOfRows openOrders [[some "-7", some "t"], [none, none]] = .ok b ∧
      List.Forall₂ IsTaken openOrders b.columns ∧
      List.Forall₂ (Reads .standard 0 openOrders) [[some "-7", some "t"], [none, none]] b.rows := by
  constructor
  · have h := batchOfRows_verdict .standard openOrders [[some "-7", some "t"], [some "x", none]]
      (by decide) (by decide)
    refine h.1.2 (.inr ?_)
    exact ⟨[some "x", none], by decide, 0, ⟨"id", "INT4"⟩, some "x", _, rfl, rfl, rfl⟩
  · have h := batchOfRows_verdict .standard openOrders [[some "-7", some "t"], [none, none]]
      (by decide) (by decide)
    refine h.2.1 fun hbad => ?_
    obtain ⟨e, he⟩ := h.1.2 hbad
    cases he

end DataMart.Postgres
