import DataMart.Proofs.Extract.Drain
import DataMart.Proofs.Load.Course

/-!
# What a load does

The pipeline's load of one table follows the course of the load. Two things are carried along from
batch to batch: the load has counted exactly the batches written so far (`TableLoad.after`), and the
mart holds exactly their rows (`Mart.After`).

* `write_of_refusal`, `exists_write`: one batch, refused or written.
* `drain_of_fills`: all batches of an open source.
* `loadTable_of_course`: the load of a spec reports and leaves what its course says.
-/

namespace DataMart

/-! ## One batch -/

/-- The load of a table after some batches. -/
def TableLoad.after (table : String) (written : List Batch) : TableLoad where
  table := table
  state := match written with
    | [] => .notStarted
    | b :: rest => .loaded (rowCount (b :: rest)) (b :: rest).length

/-- The mart after some batches of a load went into a table: as it was before if there are none,
else with exactly their rows in the table. -/
def Mart.After (before : Mart) (table : String) : (written : List Batch) → Mart → Prop
  | [], m => m = before
  | b :: rest, m => m.Holds table b.columns ((b :: rest).flatMap Batch.rows)

/-- Counts of rows add up. -/
theorem rowCount_append (bs cs : List Batch) : rowCount (bs ++ cs) = rowCount bs + rowCount cs := by
  induction bs with
  | nil => simp [rowCount]
  | cons b rest ih => simp only [List.cons_append, rowCount, ih, Nat.add_assoc]

/-- Counting rows batch by batch is counting them all. -/
theorem length_flatMap_rows (bs : List Batch) : (bs.flatMap Batch.rows).length = rowCount bs := by
  induction bs with
  | nil => rfl
  | cons b rest ih =>
      rw [List.flatMap_cons, List.length_append, ih]
      rfl

/-- The rows of a load so far. -/
theorem TableLoad.rows_after (table : String) (written : List Batch) :
    (TableLoad.after table written).rows = rowCount written := by
  cases written <;> rfl

section write

variable {table : String} {written : List Batch} {b : Batch} {before m : Mart}

/-- A batch that is refused changes nothing. -/
theorem write_of_refusal {e : Fault} (hm : Mart.After before table written m)
    (h : refusal? table written b = some e) :
    (TableLoad.after table written).write { mart := m } b =
      ⟨.error e, TableLoad.after table written, { mart := m }⟩ := by
  cases written with
  | nil =>
      have hc := Session.create_of_fault h { mart := m }
      simp only [TableLoad.after, TableLoad.write, TableLoad.create, hc]
  | cons first rest =>
      simp only [refusal?, Option.ite_none_left_eq_some, Option.some.injEq] at h
      obtain ⟨hne, rfl⟩ := h
      have ha := Session.append_of_holds_ne hm hne
      simp only [TableLoad.after, TableLoad.write, TableLoad.append, ha]

/-- A batch that is not refused is written. -/
theorem exists_write (hname : Text.sameName stagingName table = false)
    (hm : Mart.After before table written m) (h : refusal? table written b = none) :
    ∃ m', (TableLoad.after table written).write { mart := m } b =
        ⟨.ok b.size, TableLoad.after table (written ++ [b]), { mart := m' }⟩ ∧
      Mart.After before table (written ++ [b]) m' := by
  cases written with
  | nil =>
      obtain ⟨m', hc, hm'⟩ := Session.exists_create hname h { mart := m }
      refine ⟨m', ?_, ?_⟩
      · simp only [TableLoad.after, TableLoad.write, TableLoad.create, hc, List.nil_append]
        simp [rowCount]
      · simpa [Mart.After] using hm'
  | cons first rest =>
      simp only [refusal?, ite_eq_left_iff, reduceCtorEq, imp_false, Decidable.not_not] at h
      have hold : m.Holds table b.columns ((first :: rest).flatMap Batch.rows) := by
        rw [h]
        exact hm
      obtain ⟨m', ha, hm'⟩ := Session.exists_append_of_holds hname hold
      refine ⟨m', ?_, ?_⟩
      · simp only [TableLoad.after, TableLoad.write, TableLoad.append, ha, List.cons_append]
        rw [← List.cons_append, rowCount_append]
        simp [rowCount]
      · rw [h] at hm'
        simpa [Mart.After] using hm'

end write

/-! ## All batches of a source -/

section drain

open Pipeline

variable {ω : Type}

/-- What an extractor that is not exhausted makes of the next answer of a source that knows of no
mart. -/
theorem Extractor.next_beside {x : Extractor} {n : Nat} (hx : x.exhausted = false)
    (hn : x.chunk = n) {src : Source ω} {o : ω} {a : Except Fault Batch}
    (answer : (src.fetch n o).1 = a) (m : Mart) :
    x.next src.beside ⟨o, m⟩ = ((x.receive a).1, (x.receive a).2, ⟨(src.fetch n o).2, m⟩) := by
  subst hn
  have hbeside : (src.beside.fetch x.chunk ⟨o, m⟩).1 = a := answer
  exact Extractor.next_of_fetch hx hbeside

variable {c : Connector ω} {x x' : Extractor} {load : TableLoad} {scene scene' : Scene ω}

/-- A fault in drawing ends the draining. -/
theorem drain_of_error {e : Fault} (h : x.next c.source scene = (.error e, x', scene')) :
    drain c x load scene = ⟨some e, load, scene'⟩ := by
  rw [drain]
  split <;> rename_i h' <;> rw [h] at h' <;> cases h'
  rfl

/-- So does a drained source. -/
theorem drain_of_none (h : x.next c.source scene = (.ok none, x', scene')) :
    drain c x load scene = ⟨none, load, scene'⟩ := by
  rw [drain]
  split <;> rename_i h' <;> rw [h] at h' <;> cases h'
  rfl

/-- A batch that was drawn but cannot be written ends it as well. -/
theorem drain_of_write_error {b : Batch} {e : Fault} {l : TableLoad} {s : Session}
    (h : x.next c.source scene = (.ok (some b), x', scene'))
    (hw : load.write { mart := scene'.mart } b = ⟨.error e, l, s⟩) :
    drain c x load scene = ⟨some e, l, { scene' with mart := s.mart }⟩ := by
  rw [drain]
  split <;> rename_i h' <;> rw [h] at h' <;> cases h'
  simp only [hw]

/-- After a batch that was written, the draining goes on. -/
theorem drain_of_write_ok {b : Batch} {k : Nat} {l : TableLoad} {s : Session}
    (h : x.next c.source scene = (.ok (some b), x', scene'))
    (hw : load.write { mart := scene'.mart } b = ⟨.ok k, l, s⟩) :
    drain c x load scene = drain c x' l { scene' with mart := s.mart } := by
  rw [drain]
  split <;> rename_i h' <;> rw [h] at h' <;> cases h'
  simp only [hw]

variable {src : Source ω} {n : Nat} {table : String} {written bs : List Batch} {ending : Ending}
  {s s' : ω} {before m : Mart}

/-- Draining an open source does what the filling of the table says. -/
theorem drain_of_fills (connect : String → ω → Except Fault Unit × ω)
    (h : Fills src n table written s bs ending s')
    (hname : Text.sameName stagingName table = false) (hx : x.exhausted = false)
    (hn : x.chunk = n) (hm : Mart.After before table written m) :
    ∃ m', drain (Connector.ofSource connect src) x (TableLoad.after table written) ⟨s, m⟩ =
        ⟨ending.fault?, TableLoad.after table (written ++ bs), ⟨s', m'⟩⟩ ∧
      Mart.After before table (written ++ bs) m' := by
  induction h generalizing x m with
  | fault answer =>
      refine ⟨m, ?_, by simpa using hm⟩
      rw [drain_of_error (x.next_beside hx hn answer m), List.append_nil]
      rfl
  | empty answer rows =>
      refine ⟨m, ?_, by simpa using hm⟩
      have hnext := x.next_beside hx hn answer m
      rw [Extractor.receive_of_isEmpty rows] at hnext
      rw [drain_of_none hnext, List.append_nil]
      rfl
  | overlong answer rows size =>
      refine ⟨m, ?_, by simpa using hm⟩
      have hnext := x.next_beside hx hn answer m
      rw [← hn] at size
      simp only [Extractor.receive, rows, Bool.false_eq_true, if_false, size, if_true] at hnext
      rw [drain_of_error hnext, List.append_nil, ← hn]
      rfl
  | refused answer rows size reason =>
      refine ⟨m, ?_, by simpa using hm⟩
      have hnext := x.next_beside hx hn answer m
      rw [Extractor.receive_of_le rows (hn ▸ size)] at hnext
      rw [drain_of_write_error hnext (write_of_refusal hm reason), List.append_nil]
      rfl
  | @short written s b answer rows size reason =>
      have hnext := x.next_beside hx hn answer m
      rw [Extractor.receive_of_le rows (by omega)] at hnext
      obtain ⟨m', hw, hm'⟩ := exists_write hname hm reason
      refine ⟨m', ?_, hm'⟩
      rw [drain_of_write_ok hnext hw]
      -- the short batch exhausts the extractor, which ends the draining without a fetch
      have hend : decide (b.size < x.chunk) = true := decide_eq_true (hn ▸ size)
      rw [drain_of_none (Extractor.next_of_exhausted hend _ _)]
      rfl
  | @full written s s' b bs ending answer rows size reason rest ih =>
      have hnext := x.next_beside hx hn answer m
      rw [Extractor.receive_of_le rows (by omega)] at hnext
      obtain ⟨m', hw, hm'⟩ := exists_write hname hm reason
      have hgo : decide (b.size < x.chunk) = false := by simp [hn, size]
      obtain ⟨m'', hd, hm''⟩ := ih (x := { x with
        batches := x.batches + 1
        exhausted := decide (b.size < x.chunk) }) hgo hn hm'
      refine ⟨m'', ?_, by simpa using hm''⟩
      rw [drain_of_write_ok hnext hw, hd, List.append_assoc]
      rfl

end drain

/-! ## What a load leaves alone -/

/-- Sources that leave the mart alone. -/
structure Connector.LeavesMart {ω : Type} (c : Connector ω) : Prop where
  fetch : ∀ n s, (c.source.fetch n s).2.mart = s.mart
  close : ∀ s, (c.source.close s).2.mart = s.mart

/-- Sources that know of no mart leave it alone. -/
theorem Connector.leavesMart_ofSource {ω : Type} (connect : String → ω → Except Fault Unit × ω)
    (src : Source ω) : (Connector.ofSource connect src).LeavesMart where
  fetch _ _ := rfl
  close _ := rfl

/-- A load stays with its table. -/
theorem TableLoad.table_write (l : TableLoad) (s : Session) (b : Batch) :
    (l.write s b).load.table = l.table := by
  cases hl : l.state with
  | notStarted =>
      simp only [write, create, hl]
      split <;> rfl
  | loaded rows batches =>
      simp only [write, append, hl]
      split <;> rfl

section frame

open Pipeline

variable {ω : Type} {c : Connector ω}

/-- Drawing a batch leaves the mart alone if the sources do. -/
theorem mart_of_next (hc : c.LeavesMart) {x x' : Extractor} {scene scene' : Scene ω}
    {a : Except Fault (Option Batch)} (h : x.next c.source scene = (a, x', scene')) :
    scene'.mart = scene.mart := by
  unfold Extractor.next Extractor.draw at h
  split at h
  · cases h
    rfl
  · cases h
    exact hc.fetch x.chunk scene

/-- Draining a source into a table touches no other table. -/
theorem unchangedBut_drain (hc : c.LeavesMart) (x : Extractor) (load : TableLoad)
    (scene : Scene ω) :
    scene.mart.UnchangedBut load.table (drain c x load scene).scene.mart := by
  induction x, load, scene using drain.induct (c := c) with
  | case1 x load scene e x' scene' h =>
      rw [drain_of_error h, ← mart_of_next hc h]
      exact .refl load.table scene'.mart
  | case2 x load scene x' scene' h =>
      rw [drain_of_none h, ← mart_of_next hc h]
      exact .refl load.table scene'.mart
  | case3 x load scene b x' scene' h written e hw =>
      have hstep := load.unchangedBut_write { mart := scene'.mart } b
      rw [drain_of_write_error h (show written = ⟨.error e, written.load, written.session⟩ by
        rw [← hw]), ← mart_of_next hc h]
      exact hstep
  | case4 x load scene b x' scene' h written scene'' k hw ih =>
      have hstep := load.unchangedBut_write { mart := scene'.mart } b
      rw [load.table_write] at ih
      rw [drain_of_write_ok h (show written = ⟨.ok k, written.load, written.session⟩ by
        rw [← hw]), ← mart_of_next hc h]
      exact hstep.trans ih

/-- Counting the rows of a table, or dropping it, touches no other table. -/
theorem unchangedBut_verify (table : String) (load : TableLoad) (s : Session) :
    s.mart.UnchangedBut table (verify table load s).2.mart := by
  unfold verify
  split
  · exact s.unchangedBut_dropTable table
  · split
    · exact .refl table s.mart
    · split <;> exact .refl table s.mart

/-- The load of a spec touches no table but its own. -/
theorem unchangedBut_loadTable (hc : c.LeavesMart) (p : Pipeline) (spec : TableSpec)
    (scene : Scene ω) :
    scene.mart.UnchangedBut spec.table (p.loadTable c spec scene).2.mart := by
  unfold loadTable
  dsimp only
  split
  · exact .refl spec.table scene.mart
  · generalize hd : drain c p.extractor { table := spec.table }
      { scene with outside := (c.connect spec.query scene.outside).2 } = drained
    have hdrain := unchangedBut_drain hc p.extractor { table := spec.table }
      { scene with outside := (c.connect spec.query scene.outside).2 }
    rw [hd, ← hc.close drained.scene] at hdrain
    split
    · exact hdrain
    · have hverify := unchangedBut_verify spec.table drained.load
        { mart := (c.source.close drained.scene).2.mart }
      split <;> exact hdrain.trans hverify

end frame

/-! ## The load of a spec -/

section loadTable

open Pipeline

variable {ω : Type} {connect : String → ω → Except Fault Unit × ω} {src : Source ω}
  {spec : TableSpec} {o o' : ω} {bs : List Batch} {ending : Ending} {before m : Mart}
  {table : String}

/-- Batches that have rows have some together. -/
theorem rowCount_pos {b : Batch} (h : b.isEmpty = false) (rest : List Batch) :
    0 < rowCount (b :: rest) := by
  have : 0 < b.size := by
    rw [Batch.isEmpty, List.isEmpty_eq_false_iff] at h
    exact List.length_pos_iff.2 h
  rw [rowCount]
  omega

/-- A table that holds the rows of some batches is found to hold so many. -/
theorem verify_of_cons {b : Batch} {rest : List Batch} (hrows : b.isEmpty = false)
    (hm : Mart.After before table (b :: rest) m) :
    verify table (TableLoad.after table (b :: rest)) { mart := m } =
      (.ok (.loaded (rowCount (b :: rest)) (b :: rest).length), { mart := m }) := by
  have hcount := Session.countRows_of_holds hm
  rw [length_flatMap_rows] at hcount
  have hpos : rowCount (b :: rest) ≠ 0 := Nat.ne_of_gt (rowCount_pos hrows rest)
  simp only [verify, TableLoad.rows_after, hpos, if_false, hcount, if_true]
  rfl

/-- A load that was broken off leaves the batches written before. -/
theorem Leaves.of_broken (e : Fault) (hm : Mart.After before table bs m)
    (hothers : before.UnchangedBut table m) : Leaves table before bs (.broken e) m where
  filled := by
    rintro b rest rfl
    exact hm
  absent := nofun
  kept := by
    rintro e' rfl -
    exact hm
  others := hothers

/-- A load that came to the end of its source leaves all batches; if there are none, the table that
stood there is dropped. -/
theorem exists_verify_of_after (hrows : ∀ b ∈ bs, b.isEmpty = false)
    (hm : Mart.After before table bs m) (hothers : before.UnchangedBut table m) :
    ∃ m', verify table (TableLoad.after table bs) { mart := m } =
        (.ok (outcomeOf bs .drained), { mart := m' }) ∧
      Leaves table before bs .drained m' := by
  cases bs with
  | nil =>
      exact ⟨m.drop table, rfl, nofun, fun _ _ => m.table?_drop_self table, nofun,
        hothers.trans (m.unchangedBut_drop table)⟩
  | cons b rest =>
      refine ⟨m, verify_of_cons (hrows b List.mem_cons_self) hm, ?_, nofun, nofun, hothers⟩
      rintro b' rest' ⟨rfl, rfl⟩
      exact hm

/-- The load of a spec reports and leaves what its course says. -/
theorem loadTable_of_course (p : Pipeline)
    (h : Course connect src p.chunk spec o bs ending o')
    (hname : Text.sameName stagingName spec.table = false) (m : Mart) :
    ∃ m', p.loadTable (Connector.ofSource connect src) spec ⟨o, m⟩ =
        (outcomeOf bs ending, ⟨o', m'⟩) ∧
      Leaves spec.table m bs ending m' := by
  cases h with
  | @unopened e answer =>
      have hconnect : (Connector.ofSource connect src).connect spec.query o =
          (.error e, (connect spec.query o).2) := Prod.ext answer rfl
      refine ⟨m, ?_, .of_broken e rfl (.refl spec.table m)⟩
      simp only [loadTable, hconnect]
      rfl
  | @opened _ _ s answer fills =>
      have hconnect : (Connector.ofSource connect src).connect spec.query o =
          (.ok (), (connect spec.query o).2) := Prod.ext answer rfl
      obtain ⟨m₁, hdrain, hm₁⟩ :=
        drain_of_fills connect fills hname (x := p.extractor) rfl rfl
          (show Mart.After m spec.table [] m from rfl)
      replace hdrain : drain (Connector.ofSource connect src) p.extractor { table := spec.table }
          ⟨(connect spec.query o).2, m⟩ =
            ⟨ending.fault?, TableLoad.after spec.table bs, ⟨s, m₁⟩⟩ := hdrain
      have hothers := unchangedBut_drain (Connector.leavesMart_ofSource connect src) p.extractor
        { table := spec.table } ⟨(connect spec.query o).2, m⟩
      rw [hdrain] at hothers
      have hclose : (Connector.ofSource connect src).source.close ⟨s, m₁⟩ =
          ((src.close s).1, ⟨(src.close s).2, m₁⟩) := rfl
      simp only [loadTable, hconnect, hdrain, hclose]
      cases ending with
      | broken e =>
          refine ⟨m₁, ?_, .of_broken e hm₁ hothers⟩
          rw [outcomeOf_broken, ← TableLoad.rows_after spec.table]
          rfl
      | drained =>
          obtain ⟨m', hverify, hleaves⟩ :=
            exists_verify_of_after fills.isEmpty_eq_false hm₁ hothers
          refine ⟨m', ?_, hleaves⟩
          simp only [Ending.fault?, hverify]

end loadTable

end DataMart
