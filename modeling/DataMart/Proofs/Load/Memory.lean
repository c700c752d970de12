import DataMart.Proofs.Extract.Memory
import DataMart.Proofs.Load.Run

/-!
# Loading rows from memory

Rows in memory are loaded in chunks, all of them full but perhaps the last. Rows that fit are loaded
whatever the size of a chunk; a row that does not fit takes down the chunk that it is in, and the
chunks before it stay.

* `exists_full_chunks`: as many full chunks as fit are written one after another.
* `exists_fills_of_fits`, `exists_fills_of_misfit`: how such a load goes on and ends.
* `run_ofTables`: what a run reports of such rows and leaves of them.
-/

namespace DataMart

/-- Batches of the columns of a table that can be created can be written one after another. -/
theorem refusal?_of_columns {table : String} {columns : List Column} {written : List Batch}
    {b : Batch} (hfree : Session.createFault? table columns = none)
    (hwritten : ∀ w ∈ written, w.columns = columns) (hb : b.columns = columns) :
    refusal? table written b = none := by
  cases written with
  | nil =>
      rw [refusal?, hb]
      exact hfree
  | cons first rest =>
      have hfirst := hwritten first List.mem_cons_self
      rw [refusal?, if_pos (hb.trans hfirst.symm)]

/-! ## Chunk by chunk -/

section chunks

variable {table : String} {n q : Nat} {columns : List Column} {rows : List (List Value)}
  {row : List Value} {written : List Batch}

/-- Without rows the source is drained. -/
theorem fills_nil (table : String) (n : Nat) (columns : List Column) (written : List Batch) :
    Fills MemoryRows.source n table written ⟨columns, []⟩ [] .drained
      (MemoryRows.source.fetch n ⟨columns, []⟩).2 :=
  .empty (congrArg Prod.fst (MemoryRows.fetch_nil n columns)) rfl

/-- Fewer rows than a chunk are the last, in one batch or in none. -/
theorem exists_fills_of_short (hfree : Session.createFault? table columns = none)
    (hlen : rows.length < n) (hfits : ∀ row ∈ rows, fits columns row = true)
    (hwritten : ∀ w ∈ written, w.columns = columns) :
    ∃ tail s', Fills MemoryRows.source n table written ⟨columns, rows⟩ tail .drained s' ∧
      (∀ b ∈ tail, b.columns = columns) ∧ tail.flatMap Batch.rows = rows ∧
      tail.length = if rows.length = 0 then 0 else 1 := by
  by_cases hne : rows = []
  · subst hne
    exact ⟨[], _, fills_nil table n columns written, nofun, rfl, rfl⟩
  · have hn : 0 < n := Nat.zero_lt_of_lt hlen
    have htake : rows.take n = rows := List.take_of_length_le (Nat.le_of_lt hlen)
    have hfits' : ∀ row ∈ rows.take n, fits columns row = true := by rwa [htake]
    have hsize : (rows.take n).length < n := by rwa [htake]
    refine ⟨[⟨columns, rows.take n, hfits'⟩], _,
      .short (congrArg Prod.fst (MemoryRows.fetch_of_fits hn hne hfits'))
        (MemoryRows.isEmpty_take hn hne) hsize (refusal?_of_columns hfree hwritten rfl),
      by simp, ?_, ?_⟩
    · rw [List.flatMap_singleton]
      exact htake
    · rw [if_neg (by simpa using hne), List.length_singleton]

/-- A row that does not fit breaks the load off. -/
theorem exists_fills_of_firstMisfit_lt (table : String) (written : List Batch)
    (h : FirstMisfit columns rows q row) (hqn : q < n) :
    ∃ e, Batch.rowFault? columns q row = some e ∧
      Fills MemoryRows.source n table written ⟨columns, rows⟩ [] (.broken e)
        (MemoryRows.source.fetch n ⟨columns, rows⟩).2 := by
  obtain ⟨e, he, hfetch⟩ := MemoryRows.exists_fetch_of_firstMisfit h hqn
  exact ⟨e, he, .fault (congrArg Prod.fst hfetch)⟩

/-- A full chunk is written, and the rest of the rows follows. -/
theorem fills_of_full (hn : 0 < n) (hfree : Session.createFault? table columns = none)
    (hlen : n ≤ rows.length) (hfits : ∀ row ∈ rows.take n, fits columns row = true)
    (hwritten : ∀ w ∈ written, w.columns = columns) {tail : List Batch} {ending : Ending}
    {s' : MemoryRows}
    (hrest : Fills MemoryRows.source n table (written ++ [⟨columns, rows.take n, hfits⟩])
      ⟨columns, rows.drop n⟩ tail ending s') :
    Fills MemoryRows.source n table written ⟨columns, rows⟩
      (⟨columns, rows.take n, hfits⟩ :: tail) ending s' := by
  have htake : (rows.take n).length = n := List.length_take_of_le hlen
  have hne : rows ≠ [] := List.ne_nil_of_length_pos (by omega)
  have hfetch := MemoryRows.fetch_of_fits hn hne hfits
  have hstate : (MemoryRows.source.fetch n ⟨columns, rows⟩).2 = ⟨columns, rows.drop n⟩ :=
    congrArg Prod.snd hfetch
  refine .full (congrArg Prod.fst hfetch) (MemoryRows.isEmpty_take hn hne) htake
    (refusal?_of_columns hfree hwritten rfl) ?_
  rw [hstate]
  exact hrest

/-- As long as full chunks of rows fit, they are written one after another, and then what is left
of the rows decides. -/
theorem exists_full_chunks (hn : 0 < n) (hfree : Session.createFault? table columns = none)
    (k : Nat) (hk : n * k ≤ rows.length)
    (hfits : ∀ row ∈ rows.take (n * k), fits columns row = true) (written : List Batch)
    (hwritten : ∀ w ∈ written, w.columns = columns) :
    ∃ bs : List Batch, bs.length = k ∧ (∀ b ∈ bs, b.columns = columns) ∧
      bs.flatMap Batch.rows = rows.take (n * k) ∧
      ∀ tail ending s', Fills MemoryRows.source n table (written ++ bs)
          ⟨columns, rows.drop (n * k)⟩ tail ending s' →
        Fills MemoryRows.source n table written ⟨columns, rows⟩ (bs ++ tail) ending s' := by
  induction k generalizing rows written with
  | zero => exact ⟨[], rfl, nofun, by simp, fun tail ending s' h => by simpa using h⟩
  | succ k ih =>
      have hsucc : n * (k + 1) = n + n * k := by rw [Nat.mul_succ, Nat.add_comm]
      rw [hsucc] at hk hfits ⊢
      rw [List.take_add] at hfits ⊢
      obtain ⟨hchunk, hrest⟩ := List.forall_mem_append.1 hfits
      have hwritten' : ∀ w ∈ written ++ [⟨columns, rows.take n, hchunk⟩], w.columns = columns := by
        rw [List.forall_mem_append]
        exact ⟨hwritten, by simp⟩
      have hk' : n * k ≤ (rows.drop n).length := by
        rw [List.length_drop]
        omega
      obtain ⟨bs, hlen, hcolumns, hrows, hfills⟩ := ih hk' hrest _ hwritten'
      refine ⟨⟨columns, rows.take n, hchunk⟩ :: bs, ?_, ?_, ?_, fun tail ending s' h => ?_⟩
      · rw [List.length_cons, hlen]
      · exact List.forall_mem_cons.2 ⟨rfl, hcolumns⟩
      · rw [List.flatMap_cons, hrows]
      · refine fills_of_full hn hfree (by omega) hchunk hwritten (hfills tail ending s' ?_)
        rw [List.drop_drop, List.append_assoc]
        exact h

/-- Rows that fit are loaded in order, in as few chunks as possible. -/
theorem exists_fills_of_fits (hn : 0 < n) (hfree : Session.createFault? table columns = none)
    (hfits : ∀ row ∈ rows, fits columns row = true) :
    ∃ bs s', Fills MemoryRows.source n table [] ⟨columns, rows⟩ bs .drained s' ∧
      (∀ b ∈ bs, b.columns = columns) ∧ bs.flatMap Batch.rows = rows ∧
      bs.length = (rows.length + n - 1) / n := by
  have hdiv := Nat.mod_add_div rows.length n
  have hrest : (rows.drop (n * (rows.length / n))).length = rows.length % n := by
    rw [List.length_drop]
    omega
  obtain ⟨bs, hlen, hcolumns, hrows, hfills⟩ := exists_full_chunks hn hfree (rows.length / n)
    (Nat.mul_div_le rows.length n) (fun row hrow => hfits row (List.mem_of_mem_take hrow))
    [] nofun
  obtain ⟨tail, s', htail, hcolumns', hrows', hlen'⟩ := exists_fills_of_short hfree
    (by rw [hrest]; exact Nat.mod_lt rows.length hn)
    (fun row hrow => hfits row (List.mem_of_mem_drop hrow)) hcolumns
  refine ⟨bs ++ tail, s', hfills tail .drained s' htail,
    List.forall_mem_append.2 ⟨hcolumns, hcolumns'⟩, ?_, ?_⟩
  · rw [List.flatMap_append, hrows, hrows', List.take_append_drop]
  · rw [List.length_append, hlen, hlen', hrest, ceilDiv_eq hn]

/-- A row that does not fit breaks the load off after the full chunks before it. -/
theorem exists_fills_of_firstMisfit (hn : 0 < n)
    (hfree : Session.createFault? table columns = none) (h : FirstMisfit columns rows q row) :
    ∃ bs e s', Batch.rowFault? columns (q % n) row = some e ∧
      Fills MemoryRows.source n table [] ⟨columns, rows⟩ bs (.broken e) s' ∧
      (∀ b ∈ bs, b.columns = columns) ∧ bs.flatMap Batch.rows = rows.take (n * (q / n)) := by
  have hdiv : n * (q / n) + q % n = q := Nat.div_add_mod q n
  have hlt := h.lt_length
  rw [← hdiv] at h
  have hfits : ∀ r ∈ rows.take (n * (q / n)), fits columns r = true := by
    have hbefore := h.before
    rw [List.take_add] at hbefore
    exact (List.forall_mem_append.1 hbefore).1
  obtain ⟨bs, -, hcolumns, hrows, hfills⟩ :=
    exists_full_chunks hn hfree (q / n) (by omega) hfits [] nofun
  obtain ⟨e, he, hfault⟩ :=
    exists_fills_of_firstMisfit_lt table ([] ++ bs) h.drop (Nat.mod_lt q hn)
  have hall := hfills _ _ _ hfault
  rw [List.append_nil] at hall
  exact ⟨bs, e, _, he, hall, hcolumns, hrows⟩

end chunks

/-! ## A run over tables in memory -/

/-- What is asked of a spec that is loaded from memory between others: its query is that of some
rows, the engine accepts their columns and the name of the table, and no other spec uses the
name. -/
structure LoneLoad (m : MemoryTables) (before : List TableSpec) (spec : TableSpec)
    (after : List TableSpec) (columns : List Column) (rows : List (List Value)) : Prop where
  registered : m.rowsOf spec.query = .ok ⟨columns, rows⟩
  columns_ne : columns ≠ []
  names_distinct : DistinctNames (columns.map Column.name)
  unreserved : Session.isReserved spec.table = false
  unstaged : Text.sameName stagingName spec.table = false
  lone : ∀ other ∈ before ++ after, Text.sameName other.table spec.table = false

namespace LoneLoad

variable {m : MemoryTables} {before after : List TableSpec} {spec : TableSpec}
  {columns : List Column} {rows : List (List Value)}

/-- Nothing stands against creating the table. -/
theorem createFault?_eq_none (h : LoneLoad m before spec after columns rows) :
    Session.createFault? spec.table columns = none :=
  (Session.createFault?_eq_none_iff spec.table columns).2
    ⟨h.columns_ne, h.names_distinct, h.unreserved⟩

/-- The load of the spec goes as the filling of its table from the rows does. -/
theorem course_of_fills (h : LoneLoad m before spec after columns rows) {n : Nat} {bs : List Batch}
    {ending : Ending} {s' : MemoryRows}
    (hfills : Fills MemoryRows.source n spec.table [] ⟨columns, rows⟩ bs ending s')
    (o : MemoryRows) : Course m.connect MemoryRows.source n spec o bs ending s' := by
  have hconnect : m.connect spec.query o = (.ok (), ⟨columns, rows⟩) := by
    simp only [MemoryTables.connect, h.registered]
  have hopened : Course m.connect MemoryRows.source n spec o bs ending
      (MemoryRows.source.close s').2 :=
    .opened (congrArg Prod.fst hconnect) (by rw [hconnect]; exact hfills)
  exact hopened

/-- What a run tells of the spec and leaves under its name. -/
theorem run_of_fills (h : LoneLoad m before spec after columns rows) (p : Pipeline)
    {bs : List Batch} {ending : Ending} {s' : MemoryRows}
    (hfills : Fills MemoryRows.source p.chunk spec.table [] ⟨columns, rows⟩ bs ending s')
    (hcolumns : ∀ b ∈ bs, b.columns = columns) (scene : Scene MemoryRows) :
    let r := p.run (Connector.ofTables m) (before ++ spec :: after) scene
    r.1.tables[before.length]? = some ⟨spec.table, outcomeOf bs ending⟩ ∧
    (bs ≠ [] → r.2.mart.Holds spec.table columns (bs.flatMap Batch.rows)) ∧
    (bs = [] → ending = .drained → r.2.mart.table? spec.table = none) ∧
    (∀ e, bs = [] → ending = .broken e →
      r.2.mart.table? spec.table = scene.mart.table? spec.table) := by
  intro r
  obtain ⟨start, hstart, hentry, hend⟩ := Pipeline.exists_run_of_lone
    (Connector.leavesMart_ofSource m.connect MemoryRows.source) p h.lone scene
  obtain ⟨m', hload, hleaves⟩ :=
    loadTable_of_course p (h.course_of_fills hfills start.outside) h.unstaged start.mart
  rw [hload] at hentry hend
  refine ⟨hentry, ?_, ?_, ?_⟩
  · intro hne
    obtain ⟨b, rest, rfl⟩ := List.exists_cons_of_ne_nil hne
    have hholds := hleaves.filled b rest rfl
    rw [hcolumns b List.mem_cons_self] at hholds
    obtain ⟨t, ht, hrest⟩ := hholds
    exact ⟨t, hend.trans ht, hrest⟩
  · intro hnil hdrained
    exact hend.trans (hleaves.absent hnil hdrained)
  · intro e hnil hbroken
    have hkept := hleaves.kept e hnil hbroken
    rw [← hstart, ← hkept]
    exact hend

/-- No rows: that is told, and there is no table. -/
theorem run_of_nil (h : LoneLoad m before spec after columns []) (p : Pipeline)
    (scene : Scene MemoryRows) :
    let r := p.run (Connector.ofTables m) (before ++ spec :: after) scene
    r.1.tables[before.length]? = some ⟨spec.table, .noData⟩ ∧
    r.2.mart.table? spec.table = none := by
  obtain ⟨hentry, -, habsent, -⟩ :=
    h.run_of_fills p (fills_nil spec.table p.chunk columns []) nofun scene
  exact ⟨hentry, habsent rfl rfl⟩

/-- Rows that fit: they are counted, and the table holds exactly them. -/
theorem run_of_fits (h : LoneLoad m before spec after columns rows) (p : Pipeline)
    (hne : rows ≠ []) (hfits : ∀ row ∈ rows, fits columns row = true)
    (scene : Scene MemoryRows) :
    let r := p.run (Connector.ofTables m) (before ++ spec :: after) scene
    r.1.tables[before.length]? =
      some ⟨spec.table, .loaded rows.length ((rows.length + p.chunk - 1) / p.chunk)⟩ ∧
    r.2.mart.Holds spec.table columns rows := by
  obtain ⟨bs, s', hfills, hcolumns, hrows, hlen⟩ :=
    exists_fills_of_fits p.chunk_pos h.createFault?_eq_none hfits
  obtain ⟨hentry, hholds, -, -⟩ := h.run_of_fills p hfills hcolumns scene
  have hsome : bs ≠ [] := by
    rintro rfl
    exact hne hrows.symm
  have hholds' := hholds hsome
  rw [hrows] at hholds'
  refine ⟨?_, hholds'⟩
  obtain ⟨b, rest, rfl⟩ := List.exists_cons_of_ne_nil hsome
  rw [← hlen, ← hrows, length_flatMap_rows]
  exact hentry

/-- Rows that fit are loaded alike in chunks of any size. -/
theorem run_congr_chunk (h : LoneLoad m before spec after columns rows)
    (hfits : ∀ row ∈ rows, fits columns row = true) (p p' : Pipeline) (scene : Scene MemoryRows) :
    (p'.run (Connector.ofTables m) (before ++ spec :: after) scene).2.mart.contents? spec.table =
      (p.run (Connector.ofTables m) (before ++ spec :: after) scene).2.mart.contents? spec.table ∧
    (p'.run (Connector.ofTables m) (before ++ spec :: after) scene).1.tables[before.length]?.map
        (fun t => t.outcome.rows) =
      (p.run (Connector.ofTables m) (before ++ spec :: after) scene).1.tables[before.length]?.map
        fun t => t.outcome.rows := by
  by_cases hne : rows = []
  · subst hne
    obtain ⟨hentry, habsent⟩ := h.run_of_nil p scene
    obtain ⟨hentry', habsent'⟩ := h.run_of_nil p' scene
    rw [hentry, hentry', Mart.contents?, Mart.contents?, habsent, habsent']
    exact ⟨rfl, rfl⟩
  · obtain ⟨hentry, hholds⟩ := h.run_of_fits p hne hfits scene
    obtain ⟨hentry', hholds'⟩ := h.run_of_fits p' hne hfits scene
    rw [hentry, hentry', hholds.contents?_eq, hholds'.contents?_eq]
    exact ⟨rfl, rfl⟩

/-- A row that does not fit: it is told with its place in its chunk, and the chunks before stay. -/
theorem run_of_firstMisfit (h : LoneLoad m before spec after columns rows) (p : Pipeline) {q : Nat}
    {row : List Value} (hq : FirstMisfit columns rows q row) (scene : Scene MemoryRows) :
    let r := p.run (Connector.ofTables m) (before ++ spec :: after) scene
    ∃ e, Batch.rowFault? columns (q % p.chunk) row = some e ∧
      r.1.tables[before.length]? =
        some ⟨spec.table, .failed (p.chunk * (q / p.chunk)) e.message⟩ ∧
      (0 < p.chunk * (q / p.chunk) →
        r.2.mart.Holds spec.table columns (rows.take (p.chunk * (q / p.chunk)))) ∧
      (p.chunk * (q / p.chunk) = 0 →
        r.2.mart.table? spec.table = scene.mart.table? spec.table) := by
  obtain ⟨bs, e, s', he, hfills, hcolumns, hrows⟩ :=
    exists_fills_of_firstMisfit p.chunk_pos h.createFault?_eq_none hq
  obtain ⟨hentry, hholds, -, hkept⟩ := h.run_of_fills p hfills hcolumns scene
  have hle : p.chunk * (q / p.chunk) ≤ rows.length :=
    Nat.le_trans (Nat.mul_div_le q p.chunk) (Nat.le_of_lt hq.lt_length)
  have hcount : rowCount bs = p.chunk * (q / p.chunk) := by
    rw [← length_flatMap_rows, hrows, List.length_take_of_le hle]
  rw [outcomeOf_broken, hcount] at hentry
  refine ⟨e, he, hentry, fun hpos => ?_, fun hzero => ?_⟩
  · rw [← hrows]
    refine hholds ?_
    rintro rfl
    rw [← hcount] at hpos
    exact Nat.lt_irrefl 0 hpos
  · refine hkept e ?_ rfl
    cases bs with
    | nil => rfl
    | cons b rest =>
        have hpos := rowCount_pos (hfills.isEmpty_eq_false b List.mem_cons_self) rest
        omega

/-- **A run loads exactly the rows in memory that come before the chunk of the first misfit.** If
all rows fit, the table holds exactly them, written in as few batches as possible, and neither its
contents nor their number depend on the size of a chunk; without rows there is no table. The first
row that does not fit breaks the load off with the rows of the full chunks before it, or with the
table as it was before the run if there are none. -/
theorem run_ofTables (h : LoneLoad m before spec after columns rows) (p : Pipeline)
    (scene : Scene MemoryRows) :
    let r := p.run (Connector.ofTables m) (before ++ spec :: after) scene
    (rows = [] →
      r.1.tables[before.length]? = some ⟨spec.table, .noData⟩ ∧
      r.2.mart.table? spec.table = none) ∧
    (rows ≠ [] → (∀ row ∈ rows, fits columns row = true) →
      r.1.tables[before.length]? =
        some ⟨spec.table, .loaded rows.length ((rows.length + p.chunk - 1) / p.chunk)⟩ ∧
      r.2.mart.Holds spec.table columns rows) ∧
    ((∀ row ∈ rows, fits columns row = true) → ∀ p' : Pipeline,
      let r' := p'.run (Connector.ofTables m) (before ++ spec :: after) scene
      r'.2.mart.contents? spec.table = r.2.mart.contents? spec.table ∧
      r'.1.tables[before.length]?.map (fun t => t.outcome.rows) =
        r.1.tables[before.length]?.map fun t => t.outcome.rows) ∧
    (∀ q row, FirstMisfit columns rows q row →
      ∃ e, Batch.rowFault? columns (q % p.chunk) row = some e ∧
        r.1.tables[before.length]? =
          some ⟨spec.table, .failed (p.chunk * (q / p.chunk)) e.message⟩ ∧
        (0 < p.chunk * (q / p.chunk) →
          r.2.mart.Holds spec.table columns (rows.take (p.chunk * (q / p.chunk)))) ∧
        (p.chunk * (q / p.chunk) = 0 →
          r.2.mart.table? spec.table = scene.mart.table? spec.table)) := by
  intro r
  refine ⟨?_, fun hne hfits => h.run_of_fits p hne hfits scene,
    fun hfits p' => h.run_congr_chunk hfits p p' scene,
    fun q row hq => h.run_of_firstMisfit p hq scene⟩
  rintro rfl
  exact h.run_of_nil p scene

/-- The columns of some sales. -/
def saleColumns : List Column := [⟨"id", .integer⟩]

/-- Five sales, of which the fourth does not fit. -/
def fiveSales : List (List Value) := [[.int 1], [.int 2], [.int 3], [.text "x"], [.int 5]]

/-- The sales in memory. -/
def saleTables : MemoryTables where
  tables := [("sales", ⟨saleColumns, fiveSales⟩)]

/-- A run in chunks of two, in which the sales are loaded before a table that cannot be loaded. -/
def fiveSalesRun : RunReport × Scene MemoryRows :=
  Pipeline.run ⟨2, Nat.two_pos⟩ (Connector.ofTables saleTables)
    [⟨"sales", "fct_sales"⟩, ⟨"lines", "fct_product_sales"⟩] ⟨⟨[], []⟩, {}⟩

/-- The first chunk of the sales stays, and the second is lost with the row that does not fit. -/
theorem fiveSalesRun_keeps_first_chunk :
    LoneLoad saleTables [] ⟨"sales", "fct_sales"⟩ [⟨"lines", "fct_product_sales"⟩] saleColumns
      fiveSales ∧
    ∃ error, fiveSalesRun.1.tables[0]? = some ⟨"fct_sales", .failed 2 error⟩ ∧
      fiveSalesRun.2.mart.Holds "fct_sales" saleColumns [[.int 1], [.int 2]] := by
  have h : LoneLoad saleTables [] ⟨"sales", "fct_sales"⟩ [⟨"lines", "fct_product_sales"⟩]
      saleColumns fiveSales :=
    { registered := rfl
      columns_ne := by decide
      names_distinct := by decide
      unreserved := by decide +kernel
      unstaged := by decide +kernel
      lone := by decide +kernel }
  have hq : FirstMisfit saleColumns fiveSales 3 [.text "x"] := ⟨rfl, by decide, rfl⟩
  obtain ⟨-, -, -, hbroken⟩ := h.run_ofTables ⟨2, Nat.two_pos⟩ ⟨⟨[], []⟩, {}⟩
  obtain ⟨e, -, hentry, hholds, -⟩ := hbroken 3 _ hq
  exact ⟨h, e.message, hentry, hholds (by decide)⟩

end LoneLoad

end DataMart
