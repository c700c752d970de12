import DataMart.Proofs.Steps
import DataMart.Query.Answer

/-!
# Reading the columns of a table

A name between double quotes is read as just that name, whatever characters are in it
(`takeQuoted_encode`, `tokens_identifier`). So the query that names all columns of a table, in order
and quoted (`Select.ofColumns`), gives what reading the whole table gives (`select_ofColumns`).
-/

namespace DataMart

open Text (Quoted.encode Quoted.enclose Quoted.identifier)

/-- The query for some columns of a table, all of its names quoted. -/
def Select.ofColumns (table : String) (names : List String) (limit : Nat) : Select where
  items := names.map fun name => .column (Quoted.identifier name)
  table := Quoted.identifier table
  filter := []
  groupBy := []
  having := []
  orderBy := []
  limit := limit

/-! ## Quoted names -/

namespace QueryToken

/-- The inside of a quoted name is read back, up to the closing mark. -/
theorem takeQuoted_encode (name rest : List Char) (h : rest.head? ≠ some '"') :
    takeQuoted '"' (Quoted.encode name ++ '"' :: rest) = some (name, rest) := by
  induction name with
  | nil =>
      cases rest with
      | nil => rfl
      | cons d rest =>
          have hd : d ≠ '"' := fun e => h (congrArg some e)
          simp [Quoted.encode, takeQuoted, hd]
  | cons c name ih =>
      by_cases hc : c = '"'
      · subst hc
        simp [Quoted.encode, takeQuoted, ih]
      · -- the reader looks two characters ahead, and the closing mark makes sure that there are two
        obtain ⟨d, tail, htail⟩ : ∃ d tail, Quoted.encode name ++ '"' :: rest = d :: tail :=
          List.exists_cons_of_ne_nil (by simp)
        rw [htail] at ih
        simp [Quoted.encode, takeQuoted, hc, htail, ih]

end QueryToken

/-- A quoted name is one token. -/
theorem Expr.tokens_identifier (name : String) :
    Expr.tokens (Quoted.identifier name) = .ok [.quoted name] := by
  have hchars : (Quoted.identifier name).toList = '"' :: (Quoted.encode name.toList ++ ['"']) :=
    String.toList_ofList
  have hblank : Text.isBlank '"' = false := by decide
  have hquoted := QueryToken.takeQuoted_encode name.toList [] nofun
  have hend : ∀ n, QueryToken.scan n [] = some [] := by
    intro n
    cases n <;> rfl
  rw [tokens, hchars, List.length_cons, QueryToken.scan, hblank, hquoted]
  simp [hend]

/-- A quoted name is a name. -/
theorem Expr.ofTokens_quoted (name : String) :
    Expr.ofTokens [.quoted name] = .ok (.ref ⟨name, true⟩, []) := rfl

/-- As an entry of a SELECT list it is a name without an alias. -/
theorem ItemExpr.ofText_identifier (name : String) :
    ItemExpr.ofText (Quoted.identifier name) =
      .ok ⟨.ref ⟨name, true⟩, none, Text.trim (Quoted.identifier name)⟩ := by
  rw [ofText, Expr.tokens_identifier, ok_bind, Expr.ofTokens_quoted]
  rfl

namespace Prepared

/-- Behind `FROM` it is the table of that name. -/
theorem tableOf_identifier {m : Mart} {table : String} {t : Table} (h : m.table? table = some t) :
    tableOf m (Quoted.identifier table) = .ok t := by
  simp only [tableOf, Expr.tokens_identifier, h]

/-- Among distinct names a column is found under its own. -/
theorem column?_getElem {columns : List TableColumn}
    (hdistinct : DistinctNames (columns.map TableColumn.name)) {i : Nat} (hi : i < columns.length) :
    Scope.column? columns columns[i].name = some i := by
  rw [Scope.column?, List.findIdx?_eq_some_iff_getElem]
  refine ⟨hi, by simp [Text.sameName], ?_⟩
  -- no column before it has the same name
  intro j hj
  rw [DistinctNames, List.pairwise_map, List.pairwise_iff_getElem] at hdistinct
  rw [hdistinct j i (Nat.lt_trans hj hi) hi hj]
  exact Bool.false_ne_true

/-- Among the columns of a table it is the column of that name. -/
theorem prepareItem_identifier {columns : List TableColumn}
    (hdistinct : DistinctNames (columns.map TableColumn.name)) {i : Nat} (hi : i < columns.length) :
    prepareItem columns (.column (Quoted.identifier columns[i].name)) =
      .ok ⟨columns[i].name, none, .ref i⟩ := by
  have hlookup : Scope.lookupColumn columns ⟨columns[i].name, true⟩ = .ok (.ref i) := by
    rw [Scope.lookupColumn, column?_getElem hdistinct hi]
  have hname (text : String) : outputName columns ⟨.ref ⟨columns[i].name, true⟩, none, text⟩
      (.ref i) = columns[i].name := by
    simp [outputName, List.getElem?_eq_getElem hi]
  rw [prepareItem, itemText, ItemExpr.ofText_identifier, ok_bind, Expr.bindRefs, hlookup, ok_bind,
    Expr.nestedAggregates, Scope.refuseAggregates, ok_bind, hname]
  rfl

/-- The columns of a table as entries of a SELECT list. -/
def columnItems (columns : List TableColumn) : List OutputItem :=
  columns.mapIdx fun i c => ⟨c.name, none, .ref i⟩

/-- The quoted names of all columns are read as those. -/
theorem mapM_prepareItem {columns : List TableColumn}
    (hdistinct : DistinctNames (columns.map TableColumn.name)) :
    ((columns.map TableColumn.name).map fun name =>
      SelectItem.column (Quoted.identifier name)).mapM (prepareItem columns) =
        .ok (columnItems columns) := by
  rw [mapM_eq_ok_iff, List.forall₂_iff_get]
  refine ⟨by simp [columnItems], ?_⟩
  intro i hi hi'
  have hlt : i < columns.length := by simpa using hi
  simp only [columnItems, List.get_eq_getElem, List.getElem_map, List.getElem_mapIdx]
  exact prepareItem_identifier hdistinct hlt

/-- What the query for all columns of a table is prepared as. -/
def ofColumns (t : Table) (limit : Nat) : Prepared where
  columns := t.columns
  rows := t.rows
  items := columnItems t.columns
  grouped := false
  filter := []
  groupBy := []
  having := []
  orderBy := []
  limit := limit

/-- The query for all columns of a table is prepared so, if the engine takes its limit. -/
theorem ofSelect_ofColumns {m : Mart} {table : String} {t : Table} (h : m.table? table = some t)
    {limit : Nat} (hlimit : limit < Word.signedEnd) :
    ofSelect m (.ofColumns table (t.columns.map TableColumn.name) limit) =
      .ok (ofColumns t limit) := by
  have hplain : gathers [] (columnItems t.columns) = false := by
    simp only [gathers, columnItems, List.isEmpty_nil, Bool.not_true, Bool.false_or,
      List.any_eq_false, List.mem_mapIdx]
    rintro x ⟨i, hi, rfl⟩
    exact Bool.false_ne_true
  have hrefusal : (ofColumns t limit).refusal? = none := by
    have hle : ¬ Word.signedEnd ≤ limit := Nat.not_le_of_lt hlimit
    simp [refusal?, ofRows, ofColumns, hle]
  rw [ofColumns] at hrefusal
  unfold ofSelect
  rw [Select.ofColumns, tableOf_identifier h, ok_bind, mapM_prepareItem t.names_distinct, ok_bind]
  simp only [hplain, prepareConditions, List.mapM_nil, pure_bind, ok_bind, hrefusal]
  rfl

/-! ## Results -/

/-- A row of a table gives its record. -/
theorem output_ofColumns {t : Table} {row : Row} (hwidth : row.length = t.columns.length)
    (limit : Nat) : (ofColumns t limit).output ([row], row) = .ok (t.record row) := by
  have hfields : (columnItems t.columns).mapM (fun i => do
      let c ← i.expr.eval [row] row
      return (i.name, c.toJson (i.expr.isBoolean t.columns))) =
        (.ok (t.record row).fields : Except EngineError _) := by
    rw [mapM_eq_ok_iff, List.forall₂_iff_get]
    refine ⟨by simp [columnItems, Table.record, hwidth], ?_⟩
    intro i hi hi'
    have hcolumn : i < t.columns.length := by simpa [columnItems] using hi
    have hrow : i < row.length := by rwa [hwidth]
    have hcell : row.getD i .null = row[i] := by
      rw [List.getD_eq_getElem?_getD, List.getElem?_eq_getElem hrow, Option.getD_some]
    simp only [columnItems, Table.record, List.get_eq_getElem, List.getElem_mapIdx,
      List.getElem_zipWith, List.getElem_range, Expr.eval, ok_bind, hcell]
    rfl
  unfold output
  show ((columnItems t.columns).mapM (fun i => do
      let c ← i.expr.eval [row] row
      return (i.name, c.toJson (i.expr.isBoolean t.columns))) >>= fun fields =>
        return (⟨fields⟩ : Record)) = _
  rw [hfields]
  rfl

/-- The query for all columns of a table gives the records of its first rows. -/
theorem run_ofColumns {t : Table} (hwidth : ∀ row ∈ t.rows, row.length = t.columns.length)
    (limit : Nat) : (ofColumns t limit).run = .ok ((t.rows.map t.record).take limit) := by
  have hrows : t.rows.filterM (fun r => Condition.all t.columns [r] r []) = .ok t.rows :=
    filterM_eq_ok_self fun _ _ => rfl
  have hunits : (ofColumns t limit).units t.rows = .ok (t.rows.map fun r => ([r], r)) := rfl
  have hkept : ∀ us, (ofColumns t limit).kept us = .ok us := fun us =>
    filterM_eq_ok_self fun _ _ => rfl
  have hsorted : ∀ us, (ofColumns t limit).sorted us = .ok us := fun _ => rfl
  have houtput : ((t.rows.map fun r => ([r], r)).take limit).mapM (ofColumns t limit).output =
      .ok ((t.rows.map t.record).take limit) := by
    rw [← List.map_take, ← List.map_take, mapM_eq_ok_iff, List.forall₂_map_left_iff,
      List.forall₂_map_right_iff, List.forall₂_same]
    intro row hrow
    exact output_ofColumns (hwidth row (List.mem_of_mem_take hrow)) limit
  unfold run
  show (t.rows.filterM (fun r => Condition.all t.columns [r] r []) >>= fun rows => _) = _
  rw [hrows, ok_bind, hunits, ok_bind, hkept, ok_bind, hsorted, ok_bind]
  exact houtput

end Prepared

/-- **Reading all columns of a table by name is reading the table**, up to the limit. -/
theorem Mart.select_ofColumns {m : Mart} {table : String} {t : Table} (h : m.table? table = some t)
    (hwidth : ∀ row ∈ t.rows, row.length = t.columns.length) {limit : Nat}
    (hlimit : limit < Word.signedEnd) :
    m.select (.ofColumns table (t.columns.map TableColumn.name) limit) =
      .ok ((t.rows.map t.record).take limit) := by
  rw [Mart.select, Prepared.ofSelect_ofColumns h hlimit, ok_bind, Prepared.run_ofColumns hwidth]

end DataMart
