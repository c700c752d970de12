import DataMart.Extract.Playback
import DataMart.Proofs.Load.Attempt
import DataMart.Proofs.Store.Results

/-!
# Loads under interference

A source may do what it likes to the mart while it answers, and while it is released. What can still
be said of a load is said here, for every connector and every spec.

* `Pipeline.Drains` is what moving batches into a table comes to: the batches that are written, and
  what ended it. Every draining is one (`exists_drains`), and the load has counted just these
  batches (`Drains.load_eq`).
* `Pipeline.Sound` relates them to the outcome and to the table that is there at the end.
* `attempt_sound`: so it is for every load. If the source leaves the mart alone, the table never
  holds another number of rows than were written.
-/

namespace DataMart

namespace TableLoad

variable {table : String} {written : List Batch} {b : Batch} {m : Mart}

/-- A load that cannot write a batch is as it was, and the fault is none of counting. -/
theorem of_write_error {l l' : TableLoad} {s s' : Session} {e : Fault}
    (h : l.write s b = ⟨.error e, l', s'⟩) :
    l' = l ∧ ∀ name expected actual, e ≠ .verificationFailed name expected actual := by
  cases hl : l.state with
  | notStarted =>
      simp only [write, create, hl] at h
      split at h <;> rename_i hc <;> cases h
      obtain ⟨reason, rfl⟩ := Session.error_of_create (congrArg Prod.fst hc)
      exact ⟨rfl, fun _ _ _ => Fault.noConfusion⟩
  | loaded rows batches =>
      simp only [write, append, hl] at h
      split at h <;> rename_i ha <;> cases h
      refine ⟨rfl, ?_⟩
      rcases Session.error_of_append (congrArg Prod.fst ha) with
        ⟨reason, rfl⟩ | rfl | ⟨expected, found, rfl⟩
      all_goals exact fun _ _ _ => Fault.noConfusion

/-- A load that has written a batch has counted it. -/
theorem of_write_ok {l : TableLoad} {s : Session} {k : Nat}
    (h : (TableLoad.after table written).write { mart := m } b = ⟨.ok k, l, s⟩) :
    l = TableLoad.after table (written ++ [b]) := by
  cases written with
  | nil =>
      simp only [after, write, create] at h
      split at h <;> rename_i hc <;> cases h
      have hsize := Session.eq_size_of_create (congrArg Prod.fst hc)
      simp [after, rowCount, hsize]
  | cons first rest =>
      simp only [after, write, append] at h
      split at h <;> rename_i ha <;> cases h
      have hsize := Session.eq_size_of_append (congrArg Prod.fst ha)
      rw [List.cons_append, after, ← List.cons_append, rowCount_append]
      simp [rowCount, hsize]

end TableLoad

/-! ## What draining comes to -/

namespace Pipeline

variable {ω : Type}

/-- What ends the draining of a source. -/
inductive Stop where
  /-- There are no more rows. -/
  | drained
  /-- A fetch fails. -/
  | failed (e : Fault)
  /-- A batch that came is not written. -/
  | refused (e : Fault)

/-- The fault in it, if there is one. -/
def Stop.fault? : Stop → Option Fault
  | drained => none
  | failed e => some e
  | refused e => some e

/-- `Drains c x load scene bs stop d`: moving batches into a table from `scene` on writes the batches
`bs`, until `stop`, and leaves `d`. Each fetch may change the mart. -/
inductive Drains (c : Connector ω) :
    Extractor → TableLoad → Scene ω → List Batch → Stop → Drained ω → Prop where
  /-- After a short batch the source is not asked again. -/
  | exhausted {x : Extractor} {load : TableLoad} {scene : Scene ω} (hx : x.exhausted = true) :
      Drains c x load scene [] .drained ⟨none, load, scene⟩
  /-- The fetch fails. -/
  | failed {x : Extractor} {load : TableLoad} {scene : Scene ω} {e : Fault}
      (hx : x.exhausted = false) (answer : (c.source.fetch x.chunk scene).1 = .error e) :
      Drains c x load scene [] (.failed e) ⟨some e, load, (c.source.fetch x.chunk scene).2⟩
  /-- There are no more rows. -/
  | empty {x : Extractor} {load : TableLoad} {scene : Scene ω} {b : Batch}
      (hx : x.exhausted = false) (answer : (c.source.fetch x.chunk scene).1 = .ok b)
      (rows : b.isEmpty = true) :
      Drains c x load scene [] .drained ⟨none, load, (c.source.fetch x.chunk scene).2⟩
  /-- More rows come than were asked for. -/
  | overlong {x : Extractor} {load : TableLoad} {scene : Scene ω} {b : Batch}
      (hx : x.exhausted = false) (answer : (c.source.fetch x.chunk scene).1 = .ok b)
      (rows : b.isEmpty = false) (size : x.chunk < b.size) :
      Drains c x load scene [] (.refused (overlong x.chunk b))
        ⟨some (overlong x.chunk b), load, (c.source.fetch x.chunk scene).2⟩
  /-- The batch cannot be written. -/
  | refused {x : Extractor} {load l : TableLoad} {scene : Scene ω} {b : Batch} {e : Fault}
      {s : Session} (hx : x.exhausted = false)
      (answer : (c.source.fetch x.chunk scene).1 = .ok b) (rows : b.isEmpty = false)
      (size : b.size ≤ x.chunk)
      (written : load.write { mart := (c.source.fetch x.chunk scene).2.mart } b = ⟨.error e, l, s⟩) :
      Drains c x load scene [] (.refused e)
        ⟨some e, l, { (c.source.fetch x.chunk scene).2 with mart := s.mart }⟩
  /-- The batch is written, and the draining goes on. -/
  | wrote {x : Extractor} {load l : TableLoad} {scene : Scene ω} {b : Batch} {k : Nat}
      {s : Session} {bs : List Batch} {stop : Stop} {d : Drained ω} (hx : x.exhausted = false)
      (answer : (c.source.fetch x.chunk scene).1 = .ok b) (rows : b.isEmpty = false)
      (size : b.size ≤ x.chunk)
      (written : load.write { mart := (c.source.fetch x.chunk scene).2.mart } b = ⟨.ok k, l, s⟩)
      (rest : Drains c (x.receive (.ok b)).2 l
        { (c.source.fetch x.chunk scene).2 with mart := s.mart } bs stop d) :
      Drains c x load scene (b :: bs) stop d

/-- Every draining comes to an end in this way, since the source has fewer and fewer batches left. -/
theorem exists_drains (c : Connector ω) (x : Extractor) (load : TableLoad) (scene : Scene ω) :
    ∃ bs stop, Drains c x load scene bs stop (drain c x load scene) := by
  induction hleft : c.source.left scene using Nat.strongRecOn generalizing x load scene with
  | ind left ih =>
      cases hx : x.exhausted with
      | true =>
          rw [drain_of_none (Extractor.next_of_exhausted hx c.source scene)]
          exact ⟨_, _, .exhausted hx⟩
      | false =>
          cases answer : (c.source.fetch x.chunk scene).1 with
          | error e =>
              rw [drain_of_error (Extractor.next_of_fetch hx answer)]
              exact ⟨_, _, .failed hx answer⟩
          | ok b =>
              have hnext := Extractor.next_of_fetch hx answer
              cases rows : b.isEmpty with
              | true =>
                  rw [Extractor.receive_of_isEmpty rows] at hnext
                  rw [drain_of_none hnext]
                  exact ⟨_, _, .empty hx answer rows⟩
              | false =>
                  by_cases size : b.size ≤ x.chunk
                  · have hreceived : (x.receive (.ok b)).1 = .ok (some b) := by
                      rw [Extractor.receive_of_le rows size]
                    rw [hreceived] at hnext
                    rcases written : load.write { mart := (c.source.fetch x.chunk scene).2.mart } b
                      with ⟨result, l, s⟩
                    cases result with
                    | error e =>
                        rw [drain_of_write_error hnext written]
                        exact ⟨_, _, .refused hx answer rows size written⟩
                    | ok k =>
                        have hlt : c.source.left
                            { (c.source.fetch x.chunk scene).2 with mart := s.mart } < left := by
                          rw [c.left_mart, ← hleft]
                          exact c.source.left_fetch answer rows
                        rw [drain_of_write_ok hnext written]
                        obtain ⟨bs, stop, rest⟩ := ih _ hlt (x.receive (.ok b)).2 l _ rfl
                        exact ⟨_, _, .wrote hx answer rows size written rest⟩
                  · have hsize := Nat.lt_of_not_le size
                    simp only [Extractor.receive, rows, Bool.false_eq_true, if_false, hsize,
                      if_true] at hnext
                    rw [drain_of_error hnext]
                    exact ⟨_, _, .overlong hx answer rows hsize⟩

namespace Drains

variable {c : Connector ω} {x : Extractor} {load : TableLoad} {scene : Scene ω} {bs : List Batch}
  {stop : Stop} {d : Drained ω}

/-- The fault that is told is the one that ended the draining. -/
theorem fault_eq (h : Drains c x load scene bs stop d) : d.fault = stop.fault? := by
  induction h with
  | wrote hx answer rows size written rest ih => exact ih
  | _ => rfl

/-- Every batch that is written has rows. -/
theorem isEmpty_eq_false (h : Drains c x load scene bs stop d) : ∀ b ∈ bs, b.isEmpty = false := by
  induction h with
  | wrote hx answer rows size written rest ih => exact List.forall_mem_cons.2 ⟨rows, ih⟩
  | _ => exact nofun

/-- The load has counted the batches that were written, and no others. -/
theorem load_eq (h : Drains c x load scene bs stop d) {table : String} {written : List Batch}
    (hload : load = TableLoad.after table written) :
    d.load = TableLoad.after table (written ++ bs) := by
  induction h generalizing written with
  | refused hx answer rows size hwrite =>
      rw [(TableLoad.of_write_error hwrite).1, hload, List.append_nil]
  | @wrote x load l scene b k s bs stop d hx answer rows size hwrite rest ih =>
      rw [hload] at hwrite
      rw [ih (TableLoad.of_write_ok hwrite), List.append_assoc]
      rfl
  | _ => rw [hload, List.append_nil]

/-- A batch that is not written is no matter of counting rows. -/
theorem refused_ne (h : Drains c x load scene bs stop d) {e : Fault} (hstop : stop = .refused e) :
    ∀ name expected actual, e ≠ .verificationFailed name expected actual := by
  induction h with
  | overlong hx answer rows size =>
      cases hstop
      exact nofun
  | refused hx answer rows size hwrite =>
      cases hstop
      exact (TableLoad.of_write_error hwrite).2
  | wrote hx answer rows size written rest ih => exact ih hstop
  | _ => cases hstop

/-- What the source does leaves no choice. -/
theorem unique (h : Drains c x load scene bs stop d) {bs' : List Batch} {stop' : Stop}
    {d' : Drained ω} (h' : Drains c x load scene bs' stop' d') :
    bs = bs' ∧ stop = stop' ∧ d = d' := by
  induction h generalizing bs' stop' d' with
  | exhausted hx => cases h' <;> simp_all
  | failed hx answer => cases h' <;> simp_all
  | empty hx answer rows => cases h' <;> simp_all
  | overlong hx answer rows size =>
      cases h' <;> simp_all
      all_goals omega
  | refused hx answer rows size hwrite =>
      cases h' <;> simp_all
      omega
  | wrote hx answer rows size hwrite rest ih =>
      cases h' with
      | wrote hx' answer' rows' size' hwrite' rest' =>
          rw [answer] at answer'
          cases answer'
          rw [hwrite] at hwrite'
          cases hwrite'
          obtain ⟨rfl, rfl, rfl⟩ := ih rest'
          exact ⟨rfl, rfl, rfl⟩
      | overlong hx' answer' rows' size' =>
          rw [answer] at answer'
          cases answer'
          omega
      | _ => simp_all

end Drains

/-! ## What is told in the end -/

/-- What is told of a load that wrote the batches `bs` until `stop` is true of the table that it
leaves. -/
structure Sound (table : String) (bs : List Batch) (stop : Stop) (a : Attempt ω) : Prop where
  /-- Loaded: all batches were written, and the table has exactly so many rows. -/
  loaded : ∀ rows batches, a.result = .ok (.loaded rows batches) ↔
    stop = .drained ∧ 1 ≤ rows ∧ rows = rowCount bs ∧ batches = bs.length ∧
      ∃ t, a.scene.mart.table? table = some t ∧ t.rows.length = rows
  /-- No data: there was no batch. -/
  noData : a.result = .ok .noData ↔ stop = .drained ∧ bs = []
  /-- Then there is no table. -/
  absent : a.result = .ok .noData → a.scene.mart.table? table = none
  /-- Verification failed: all batches were written, and the table has another number of rows; or a
  fetch answered just that. -/
  verificationFailed : ∀ name expected actual,
    a.result = .error (.verificationFailed name expected actual) ↔
      (stop = .drained ∧ name = table ∧ 0 < expected ∧ expected = rowCount bs ∧
        actual ≠ expected ∧ ∃ t, a.scene.mart.table? table = some t ∧ t.rows.length = actual) ∨
      stop = .failed (.verificationFailed name expected actual)

/-- What is said about a table after some batches were written and it was looked at. -/
def counted (table : String) (bs : List Batch) : Option Table → Except Fault TableOutcome
  | none => .error (.load table (EngineError.noSuchTable table).message)
  | some t =>
    if t.rows.length = rowCount bs then .ok (.loaded (rowCount bs) bs.length)
    else .error (.verificationFailed table (rowCount bs) t.rows.length)

/-- Once some batches were written, verifying the table counts its rows, and leaves it. -/
theorem verify_after_cons {table : String} {b : Batch} (hrows : b.isEmpty = false)
    (rest : List Batch) (m : Mart) :
    verify table (TableLoad.after table (b :: rest)) { mart := m } =
      (counted table (b :: rest) (m.table? table), { mart := m }) := by
  have hpos : rowCount (b :: rest) ≠ 0 := Nat.ne_of_gt (rowCount_pos hrows rest)
  simp only [verify, TableLoad.rows_after, hpos, if_false, Session.countRows, Session.resolve?]
  cases m.table? table with
  | none => rfl
  | some t =>
      dsimp only [counted]
      split <;> rfl

/-- A table is said to be loaded exactly if it is there with all rows. -/
theorem counted_eq_loaded_iff (table : String) (bs : List Batch) (found : Option Table)
    (rows batches : Nat) : counted table bs found = .ok (.loaded rows batches) ↔
      rows = rowCount bs ∧ batches = bs.length ∧ ∃ t, found = some t ∧ t.rows.length = rows := by
  cases found with
  | none => simp [counted]
  | some t =>
      rw [counted]
      by_cases hcount : t.rows.length = rowCount bs
      · rw [if_pos hcount]
        constructor
        · intro h
          cases h
          exact ⟨rfl, rfl, t, rfl, hcount⟩
        · rintro ⟨rfl, rfl, -⟩
          rfl
      · rw [if_neg hcount]
        constructor
        · intro h
          cases h
        · rintro ⟨rfl, -, t', ht', hrows⟩
          cases ht'
          exact absurd hrows hcount

/-- Verification is said to have failed exactly if the table is there with another number of rows. -/
theorem counted_eq_failed_iff (table : String) (bs : List Batch) (found : Option Table)
    (name : String) (expected actual : Nat) :
    counted table bs found = .error (.verificationFailed name expected actual) ↔
      name = table ∧ expected = rowCount bs ∧ actual ≠ expected ∧
        ∃ t, found = some t ∧ t.rows.length = actual := by
  cases found with
  | none => simp [counted]
  | some t =>
      rw [counted]
      by_cases hcount : t.rows.length = rowCount bs
      · rw [if_pos hcount]
        constructor
        · intro h
          cases h
        · rintro ⟨-, rfl, hne, t', ht', rfl⟩
          cases ht'
          exact absurd hcount hne
      · rw [if_neg hcount]
        constructor
        · intro h
          cases h
          exact ⟨rfl, rfl, hcount, t, rfl, rfl⟩
        · rintro ⟨rfl, rfl, -, t', ht', rfl⟩
          cases ht'
          rfl

section sound

variable {c : Connector ω} {x : Extractor} {scene : Scene ω} {table : String} {bs : List Batch}
  {stop : Stop} {d : Drained ω}

/-- A load that was broken off ends with the fault. -/
theorem result_conclude_of_fault (c : Connector ω) (table : String) {e : Fault}
    (h : d.fault = some e) : (conclude c table d).result = .error e := by
  unfold conclude
  rw [h]

/-- A load without batches ends without a table. -/
theorem conclude_of_nil (h : Drains c x { table := table } scene [] .drained d) :
    (conclude c table d).result = .ok .noData ∧
      (conclude c table d).scene.mart.table? table = none := by
  have hload : d.load = TableLoad.after table ([] ++ []) := h.load_eq rfl
  unfold conclude
  rw [h.fault_eq, hload]
  exact ⟨rfl, (c.source.close d.scene).2.mart.table?_drop_self table⟩

/-- A load with batches ends with what its table is found to be. -/
theorem conclude_of_cons {b : Batch} {rest : List Batch}
    (h : Drains c x { table := table } scene (b :: rest) .drained d) :
    (conclude c table d).result =
        counted table (b :: rest) ((conclude c table d).scene.mart.table? table) ∧
      (conclude c table d).scene.mart = (c.source.close d.scene).2.mart := by
  have hload : d.load = TableLoad.after table ([] ++ b :: rest) := h.load_eq rfl
  unfold conclude
  rw [h.fault_eq, hload]
  simp only [Stop.fault?, List.nil_append,
    verify_after_cons (h.isEmpty_eq_false b List.mem_cons_self)]
  exact ⟨trivial, trivial⟩

/-- What is told of a draining that came to its end is true. -/
theorem sound_of_drained (h : Drains c x { table := table } scene bs .drained d) :
    Sound table bs .drained (conclude c table d) := by
  cases bs with
  | nil =>
      obtain ⟨hresult, habsent⟩ := conclude_of_nil h
      constructor <;> simp [hresult, habsent]
  | cons b rest =>
      obtain ⟨hresult, -⟩ := conclude_of_cons h
      have hpos := rowCount_pos (h.isEmpty_eq_false b List.mem_cons_self) rest
      have hdata : (conclude c table d).result ≠ .ok .noData := by
        rw [hresult]
        unfold counted
        split
        · exact nofun
        · split <;> exact nofun
      constructor
      · intro rows batches
        rw [hresult, counted_eq_loaded_iff]
        constructor
        · rintro ⟨rfl, hbatches, hfound⟩
          exact ⟨rfl, hpos, rfl, hbatches, hfound⟩
        · rintro ⟨-, -, hrows, hbatches, hfound⟩
          exact ⟨hrows, hbatches, hfound⟩
      · simp [hdata]
      · intro htold
        exact absurd htold hdata
      · intro name expected actual
        rw [hresult, counted_eq_failed_iff]
        constructor
        · rintro ⟨hname, rfl, hne, hfound⟩
          exact .inl ⟨rfl, hname, hpos, rfl, hne, hfound⟩
        · rintro (⟨-, hname, -, hrows, hne, hfound⟩ | hstop)
          · exact ⟨hname, hrows, hne, hfound⟩
          · cases hstop

/-- What is told of a draining in the end is true. -/
theorem sound_of_drains (h : Drains c x { table := table } scene bs stop d) :
    Sound table bs stop (conclude c table d) := by
  cases stop with
  | failed e =>
      have hresult := result_conclude_of_fault c table h.fault_eq
      constructor <;> simp [hresult]
  | refused e =>
      have hresult := result_conclude_of_fault c table h.fault_eq
      have hne := h.refused_ne rfl
      constructor <;> simp [hresult, hne]
  | drained => exact sound_of_drained h

end sound

/-! ## Sources that leave the mart alone -/

/-- In some states, the source that is open leaves the mart alone, and stays in such states. -/
structure LeavesMartIn (c : Connector ω) (P : ω → Prop) : Prop where
  fetch : ∀ n {s : Scene ω}, P s.outside → (c.source.fetch n s).2.mart = s.mart
  stays : ∀ n {s : Scene ω}, P s.outside → P (c.source.fetch n s).2.outside
  close : ∀ {s : Scene ω}, P s.outside → (c.source.close s).2.mart = s.mart

section leaves

variable {c : Connector ω} {P : ω → Prop} {x : Extractor} {load : TableLoad} {scene : Scene ω}
  {table : String} {written bs : List Batch} {stop : Stop} {d : Drained ω} {before : Mart}

/-- Under the name of the staging relation no batch is written at all. -/
theorem Drains.eq_nil_of_staged (h : Drains c x { table := table } scene bs stop d)
    (hname : Text.sameName stagingName table = true) : bs = [] := by
  cases h with
  | @wrote _ _ l _ b k s bs _ _ hx answer rows size hwrite rest =>
      simp only [TableLoad.write, TableLoad.create] at hwrite
      rcases Session.create_cases table b with ⟨hother, -⟩ | ⟨e, hcreate⟩ | ⟨-, hcreate⟩
      · rw [hname] at hother
        cases hother
      · rw [hcreate] at hwrite
        cases hwrite
      · rw [hcreate] at hwrite
        cases hwrite
  | _ => rfl

/-- If the source leaves the mart alone, the table holds the rows of the batches that were
written. -/
theorem Drains.after (hP : LeavesMartIn c P) (h : Drains c x load scene bs stop d)
    (ho : P scene.outside) (hname : Text.sameName stagingName table = false)
    (hload : load = TableLoad.after table written)
    (hm : Mart.After before table written scene.mart) :
    Mart.After before table (written ++ bs) d.scene.mart ∧ P d.scene.outside := by
  induction h generalizing written with
  | exhausted hx =>
      rw [List.append_nil]
      exact ⟨hm, ho⟩
  | @failed x load scene e hx answer =>
      rw [List.append_nil, hP.fetch x.chunk ho]
      exact ⟨hm, hP.stays x.chunk ho⟩
  | @empty x load scene b hx answer rows =>
      rw [List.append_nil, hP.fetch x.chunk ho]
      exact ⟨hm, hP.stays x.chunk ho⟩
  | @overlong x load scene b hx answer rows size =>
      rw [List.append_nil, hP.fetch x.chunk ho]
      exact ⟨hm, hP.stays x.chunk ho⟩
  | @refused x load l scene b e s hx answer rows size hwrite =>
      rw [hP.fetch x.chunk ho, hload] at hwrite
      rw [List.append_nil]
      cases hreason : refusal? table written b with
      | some e' =>
          rw [write_of_refusal hm hreason] at hwrite
          cases hwrite
          exact ⟨hm, hP.stays x.chunk ho⟩
      | none =>
          obtain ⟨m', hw, -⟩ := exists_write hname hm hreason
          rw [hw] at hwrite
          cases hwrite
  | @wrote x load l scene b k s bs stop d hx answer rows size hwrite rest ih =>
      rw [hP.fetch x.chunk ho, hload] at hwrite
      cases hreason : refusal? table written b with
      | some e' =>
          rw [write_of_refusal hm hreason] at hwrite
          cases hwrite
      | none =>
          obtain ⟨m', hw, hm'⟩ := exists_write hname hm hreason
          rw [hw] at hwrite
          cases hwrite
          have hafter := ih (hP.stays x.chunk ho) rfl hm'
          rw [List.append_assoc] at hafter
          exact hafter

/-- If the source leaves the mart alone, counting comes out right. -/
theorem result_of_drained (hP : LeavesMartIn c P)
    (h : Drains c x { table := table } scene bs .drained d) (ho : P scene.outside) :
    ∃ o, (conclude c table d).result = .ok o := by
  cases hname : Text.sameName stagingName table with
  | true =>
      obtain rfl := h.eq_nil_of_staged hname
      exact ⟨_, (conclude_of_nil h).1⟩
  | false =>
      have hload : ({ table := table } : TableLoad) = TableLoad.after table [] := rfl
      have hstart : Mart.After scene.mart table [] scene.mart := rfl
      obtain ⟨hafter, ho'⟩ := h.after hP ho hname hload hstart
      cases bs with
      | nil => exact ⟨_, (conclude_of_nil h).1⟩
      | cons b rest =>
          obtain ⟨hresult, hmart⟩ := conclude_of_cons h
          obtain ⟨t, ht, -, hrows⟩ := hafter
          have hcount : t.rows.length = rowCount (b :: rest) := by
            rw [hrows, List.length_map, length_flatMap_rows]
          rw [hmart, hP.close ho', ht, counted, if_pos hcount] at hresult
          exact ⟨_, hresult⟩

end leaves

/-! ## Every load -/

/-- **Verification is sound under interference.** Whatever a source does to the mart while it
answers, the load of a spec either could not open it and ends with that fault, or it wrote some
batches until it stopped, and what is told is true of the table at the end. If it is loaded, the
table is there and has exactly the rows that were counted, which are those of the batches. If there
was no data, there is no table. Verification has failed exactly if all batches were written and the
table is there with another number of rows, or if a fetch answered just that. From a source that
leaves the mart alone it fails in no way but the last. -/
theorem attempt_sound (p : Pipeline) (c : Connector ω) (spec : TableSpec) (scene : Scene ω) :
    p.loadTable c spec scene = ((p.attempt c spec scene).told, (p.attempt c spec scene).scene) ∧
    (∀ e, (c.connect spec.query scene.outside).1 = .error e →
      (p.attempt c spec scene).result = .error e) ∧
    ((c.connect spec.query scene.outside).1 = .ok () → ∃ bs stop,
      Drains c p.extractor { table := spec.table }
        { scene with outside := (c.connect spec.query scene.outside).2 } bs stop
        (p.drainOpened c spec scene) ∧
      Sound spec.table bs stop (p.attempt c spec scene) ∧
      ∀ P, LeavesMartIn c P → P (c.connect spec.query scene.outside).2 →
        ∀ name expected actual,
          (p.attempt c spec scene).result = .error (.verificationFailed name expected actual) →
          stop = .failed (.verificationFailed name expected actual)) := by
  refine ⟨loadTable_eq_told p c spec scene, ?_, ?_⟩
  · intro e hopened
    rw [attempt, hopened]
  · intro hopened
    obtain ⟨bs, stop, h⟩ := exists_drains c p.extractor { table := spec.table }
      { scene with outside := (c.connect spec.query scene.outside).2 }
    have hattempt : p.attempt c spec scene = conclude c spec.table (p.drainOpened c spec scene) := by
      rw [attempt, hopened]
    have hsound : Sound spec.table bs stop (p.attempt c spec scene) := by
      rw [hattempt]
      exact sound_of_drains h
    refine ⟨bs, stop, h, hsound, ?_⟩
    intro P hP ho name expected actual hfailed
    rcases (hsound.verificationFailed name expected actual).1 hfailed with ⟨rfl, -⟩ | hstop
    · obtain ⟨o, hresult⟩ := result_of_drained hP h ho
      rw [hattempt] at hfailed
      cases hresult.symm.trans hfailed
    · exact hstop

/-- A prepared source that only answers leaves the mart alone. -/
theorem leavesMartIn_ofPlaybacks (sources : List (String × Playback)) :
    LeavesMartIn (Connector.ofPlaybacks sources)
      fun q => ∀ step ∈ q.steps, ∃ a, step = .answer a := by
  have hplay : ∀ (m : Mart) (q : Playback) (steps : List PlaybackStep),
      (∀ step ∈ steps, ∃ a, step = .answer a) → (q.play m steps).2.mart = m ∧
        ∀ step ∈ (q.play m steps).2.outside.steps, ∃ a, step = .answer a := by
    intro m q steps hsteps
    cases steps with
    | nil => exact ⟨rfl, nofun⟩
    | cons step rest =>
        obtain ⟨⟨a, rfl⟩, hrest⟩ := List.forall_mem_cons.1 hsteps
        exact ⟨rfl, hrest⟩
  refine ⟨?_, ?_, ?_⟩
  · intro n s hs
    exact (hplay s.mart _ s.outside.steps hs).1
  · intro n s hs
    exact (hplay s.mart _ s.outside.steps hs).2
  · intro s _
    rfl

/-- A source whose first answer is a fault of verification. -/
def falseAlarm : Connector Playback :=
  Connector.ofPlaybacks
    [("sales", { steps := [.answer (.error (.verificationFailed "fct_sales" 0 0))] })]

/-- The load from it of one table. -/
def falseAlarmLoad : Attempt Playback :=
  attempt ⟨2, Nat.two_pos⟩ falseAlarm ⟨"sales", "fct_sales"⟩ ⟨{}, {}⟩

/-- The source leaves the mart alone, no row is written and no table is there; the load tells of a
failed verification all the same. -/
theorem falseAlarm_told :
    (∃ P, LeavesMartIn falseAlarm P ∧ P (falseAlarm.connect "sales" {}).2) ∧
    falseAlarmLoad.result = .error (.verificationFailed "fct_sales" 0 0) ∧
    falseAlarmLoad.load.rows = 0 ∧ falseAlarmLoad.scene.mart.table? "fct_sales" = none := by
  refine ⟨⟨_, leavesMartIn_ofPlaybacks _, List.forall_mem_singleton.2 ⟨_, rfl⟩⟩, ?_⟩
  have hdrained : drainOpened ⟨2, Nat.two_pos⟩ falseAlarm ⟨"sales", "fct_sales"⟩ ⟨{}, {}⟩ =
      ⟨some (.verificationFailed "fct_sales" 0 0), { table := "fct_sales" }, _⟩ :=
    drain_of_error (Extractor.next_of_fetch rfl rfl)
  have hload : falseAlarmLoad = conclude falseAlarm "fct_sales"
      (drainOpened ⟨2, Nat.two_pos⟩ falseAlarm ⟨"sales", "fct_sales"⟩ ⟨{}, {}⟩) := rfl
  rw [hload, hdrained]
  exact ⟨rfl, rfl, rfl⟩

/-- The sale that is loaded. -/
def oneSale : Batch := ⟨[⟨"id", .integer⟩], [[.int 1]], by decide⟩

/-- What somebody else puts in its place. -/
def otherSales : Batch := ⟨[⟨"id", .integer⟩], [[.int 7], [.int 8]], by decide⟩

/-- A source during which the table is exchanged. -/
def exchanged : Connector Playback :=
  Connector.ofPlaybacks
    [("sales", { steps := [.answer (.ok oneSale), .drop "fct_sales", .create "fct_sales" otherSales] })]

/-- The load from it of one table. -/
def exchangedLoad : Attempt Playback :=
  attempt ⟨1, Nat.one_pos⟩ exchanged ⟨"sales", "fct_sales"⟩ ⟨{}, {}⟩

/-- The exchange is found out. -/
theorem exchanged_found_out :
    exchangedLoad.result = .error (.verificationFailed "fct_sales" 1 2) := by
  have hname : Text.sameName stagingName "fct_sales" = false := by decide +kernel
  have hfree : Session.createFault? "fct_sales" [⟨"id", .integer⟩] = none := by decide +kernel
  obtain ⟨-, -, hopened⟩ :=
    attempt_sound ⟨1, Nat.one_pos⟩ exchanged ⟨"sales", "fct_sales"⟩ ⟨{}, {}⟩
  obtain ⟨bs, stop, h, hsound, -⟩ := hopened rfl
  have hstart : Mart.After {} "fct_sales" [] {} := rfl
  obtain ⟨m, hwrite, -⟩ := exists_write (b := oneSale) hname hstart hfree
  obtain ⟨m', hcreate, t, ht, -, hrows⟩ :=
    Session.exists_create (b := otherSales) hname hfree { mart := m.drop "fct_sales" }
  -- one batch is written; then the table is dropped, made anew, and there are no more rows
  obtain ⟨rfl, rfl, hd⟩ := h.unique (.wrote rfl rfl rfl (by decide) hwrite (.empty rfl rfl rfl))
  obtain ⟨-, hmart⟩ := conclude_of_cons h
  have hleft : exchangedLoad.scene.mart = m' := by
    have hcreated : (Session.create { mart := m.drop "fct_sales" } "fct_sales" otherSales).2.mart =
        m' := by rw [hcreate]
    rw [← hcreated]
    refine Eq.trans hmart ?_
    rw [hd]
    rfl
  apply (hsound.verificationFailed _ _ _).2
  left
  refine ⟨rfl, rfl, by decide, rfl, by decide, t, ?_, ?_⟩
  · rw [← ht, ← hleft]
    rfl
  · rw [hrows]
    rfl

end Pipeline

end DataMart
