import DataMart.Proofs.Extract.Answers
import DataMart.Proofs.Load.Attempt
import DataMart.Proofs.Store.Locality

/-!
# What a load does to its table

For a connector that leaves the mart alone and answers by the query, a load is one of three things,
whatever mart it starts from (`load_cases`):

* it settles its table: the same is told and the same is left, whatever was there before;
* it passes its table by: the same is told, and what was there stays;
* it balks at its table, which has the name of the staging relation: what was there stays, and what
  is told depends on whether there was a table.

Which of them it is comes out with the first batch; from then on two loads that find the same table
go on alike (`drain_congr`).
-/

namespace DataMart

/-- A load that has started stays so. -/
theorem TableLoad.state_write {l : TableLoad} (hl : l.state ≠ .notStarted) (s : Session)
    (b : Batch) : (l.write s b).load.state ≠ .notStarted := by
  cases hs : l.state with
  | notStarted => exact absurd hs hl
  | loaded rows batches =>
      simp only [write, append, hs]
      split
      · exact LoadState.noConfusion
      · exact hl

namespace Pipeline

variable {ω : Type} {c : Connector ω}

/-! ## Two loads that have started -/

/-- Two scenes that draining into a table cannot tell apart: the same table is there, and fetches of
`n` rows will be answered alike. -/
structure Alike (c : Connector ω) (n : Nat) (table : String) (scene scene' : Scene ω) : Prop where
  table : scene.mart.table? table = scene'.mart.table? table
  answers : ∃ f, c.Follows n scene.outside f ∧ c.Follows n scene'.outside f

/-- What an extractor draws from a source of which the answers are known. -/
theorem exists_next_of_follows (hc : c.LeavesMart) {x : Extractor} (hx : x.exhausted = false)
    (scene : Scene ω) {f : Nat → Except Fault Batch} (hf : c.Follows x.chunk scene.outside f) :
    ∃ scene', x.next c.source scene = ((x.receive (f 0)).1, (x.receive (f 0)).2, scene') ∧
      scene'.mart = scene.mart ∧ c.Follows x.chunk scene'.outside fun k => f (k + 1) := by
  obtain ⟨hanswer, hrest⟩ := hf.fetch scene.mart
  exact ⟨_, Extractor.next_of_fetch hx hanswer, hc.fetch x.chunk scene, hrest⟩

/-- Alike scenes stay alike when a batch is drawn. -/
theorem Alike.next (hc : c.LeavesMart) {x x' : Extractor} {table : String}
    {scene scene' s : Scene ω} {a : Except Fault (Option Batch)}
    (h : Alike c x.chunk table scene scene') (hn : x.next c.source scene = (a, x', s)) :
    ∃ s', x.next c.source scene' = (a, x', s') ∧ Alike c x'.chunk table s s' := by
  cases hx : x.exhausted with
  | true =>
      rw [Extractor.next_of_exhausted hx] at hn
      cases hn
      exact ⟨scene', Extractor.next_of_exhausted hx c.source scene', h⟩
  | false =>
      obtain ⟨f, hf, hf'⟩ := h.answers
      obtain ⟨t, hnext, hmart, hrest⟩ := exists_next_of_follows hc hx scene hf
      obtain ⟨t', hnext', hmart', hrest'⟩ := exists_next_of_follows hc hx scene' hf'
      rw [hnext] at hn
      cases hn
      refine ⟨t', hnext', ?_, fun k => f (k + 1), ?_, ?_⟩
      · rw [hmart, hmart']
        exact h.table
      · rw [Extractor.chunk_receive]
        exact hrest
      · rw [Extractor.chunk_receive]
        exact hrest'

/-- Two loads that have started come to the same from scenes that are alike. -/
theorem drain_congr (hc : c.LeavesMart) (x : Extractor) (load : TableLoad)
    {scene scene' : Scene ω} (hname : Text.sameName stagingName load.table = false)
    (hl : load.state ≠ .notStarted) (h : Alike c x.chunk load.table scene scene') :
    (drain c x load scene).fault = (drain c x load scene').fault ∧
      (drain c x load scene).load = (drain c x load scene').load ∧
      (drain c x load scene).scene.mart.table? load.table =
        (drain c x load scene').scene.mart.table? load.table := by
  revert scene'
  induction x, load, scene using drain.induct (c := c) with
  | case1 x load scene e x' s hn =>
      intro scene' h
      obtain ⟨s', hn', halike⟩ := h.next hc hn
      rw [drain_of_error hn, drain_of_error hn']
      exact ⟨rfl, rfl, halike.table⟩
  | case2 x load scene x' s hn =>
      intro scene' h
      obtain ⟨s', hn', halike⟩ := h.next hc hn
      rw [drain_of_none hn, drain_of_none hn']
      exact ⟨rfl, rfl, halike.table⟩
  | case3 x load scene b x' s hn written e hw =>
      intro scene' h
      obtain ⟨s', hn', halike⟩ := h.next hc hn
      obtain ⟨hresult, hload, htable⟩ := TableLoad.write_congr hname hl halike.table b
      rw [drain_of_write_error hn (show written = ⟨.error e, written.load, written.session⟩ by
          rw [← hw]),
        drain_of_write_error hn' (show load.write { mart := s'.mart } b =
          ⟨.error e, (load.write { mart := s'.mart } b).load,
            (load.write { mart := s'.mart } b).session⟩ by rw [← hw, hresult])]
      exact ⟨rfl, hload, htable⟩
  | case4 x load scene b x' s hn written s₁ k hw ih =>
      intro scene' h
      obtain ⟨s', hn', halike⟩ := h.next hc hn
      obtain ⟨hresult, hload, htable⟩ := TableLoad.write_congr hname hl halike.table b
      rw [drain_of_write_ok hn (show written = ⟨.ok k, written.load, written.session⟩ by
          rw [← hw]),
        drain_of_write_ok hn' (show load.write { mart := s'.mart } b =
          ⟨.ok k, written.load, (load.write { mart := s'.mart } b).session⟩ by
            rw [← hw, hresult, hload])]
      rw [load.table_write] at ih
      exact ih hname (TableLoad.state_write hl _ b) ⟨htable, halike.answers⟩

/-! ## What loads of a spec come to -/

/-- A load settles its table: what is told and what is left do not depend on where it starts. Under
the name of the staging relation it does so only by finding no rows, and it leaves no table. -/
structure Settles (p : Pipeline) (c : Connector ω) (spec : TableSpec) : Prop where
  alike : ∀ scene scene', (p.loadTable c spec scene).1 = (p.loadTable c spec scene').1 ∧
    (p.loadTable c spec scene).2.mart.table? spec.table =
      (p.loadTable c spec scene').2.mart.table? spec.table
  staged : Text.sameName stagingName spec.table = true → ∀ scene,
    (p.loadTable c spec scene).1 = .noData ∧
      (p.loadTable c spec scene).2.mart.table? spec.table = none

/-- A load passes its table by: what is told does not depend on where it starts, and what was there
is left. -/
structure Passes (p : Pipeline) (c : Connector ω) (spec : TableSpec) : Prop where
  alike : ∀ scene scene', (p.loadTable c spec scene).1 = (p.loadTable c spec scene').1
  left : ∀ scene, (p.loadTable c spec scene).2.mart.table? spec.table = scene.mart.table? spec.table

/-- A load balks at its table, which has the name of the staging relation: what was there is left,
and what the engine had against it is told. -/
structure Balks (p : Pipeline) (c : Connector ω) (spec : TableSpec) : Prop where
  staged : Text.sameName stagingName spec.table = true
  told : ∀ scene, (p.loadTable c spec scene).1 =
    .failed 0 (Session.stagedFault spec.table scene.mart).message
  left : ∀ scene, (p.loadTable c spec scene).2.mart.table? spec.table = scene.mart.table? spec.table

/-- Wherever loads of a spec start, they open its source and draw the same from it first, and the
fetches after that are answered alike. -/
structure DrawsFirst (p : Pipeline) (c : Connector ω) (spec : TableSpec)
    (a : Except Fault (Option Batch)) (x : Extractor) (f : Nat → Except Fault Batch) : Prop where
  loaded : ∀ scene, p.loadTable c spec scene =
    ((conclude c spec.table (p.drainOpened c spec scene)).told,
      (conclude c spec.table (p.drainOpened c spec scene)).scene)
  drawn : ∀ scene : Scene ω, ∃ s : Scene ω, s.mart = scene.mart ∧ c.Follows x.chunk s.outside f ∧
    p.extractor.next c.source { scene with outside := (c.connect spec.query scene.outside).2 } =
      (a, x, s)

variable {p : Pipeline} {spec : TableSpec} {x : Extractor} {f : Nat → Except Fault Batch}
  {b : Batch}

section opening

variable {opens : String → Except Fault Unit} {answers : String → Nat → Except Fault Batch}

/-- A query that cannot be opened has its table passed by. -/
theorem passes_of_unopened (ha : c.AnswersByQuery p.chunk opens answers) {e : Fault}
    (hopens : opens spec.query = .error e) : p.Passes c spec := by
  have hload : ∀ scene, p.loadTable c spec scene =
      (.failed 0 e.message, { scene with outside := (c.connect spec.query scene.outside).2 }) := by
    intro scene
    rw [loadTable_eq_told, attempt, ha.opened, hopens]
    rfl
  refine ⟨?_, ?_⟩
  · intro scene scene'
    rw [hload, hload]
  · intro scene
    rw [hload]

/-- A query that can be opened is drawn from alike. -/
theorem drawsFirst_of_opened (hc : c.LeavesMart) (ha : c.AnswersByQuery p.chunk opens answers)
    (hopens : opens spec.query = .ok ()) :
    p.DrawsFirst c spec (p.extractor.receive (answers spec.query 0)).1
      (p.extractor.receive (answers spec.query 0)).2 (fun k => answers spec.query (k + 1)) where
  loaded scene := by rw [loadTable_eq_told, attempt, ha.opened, hopens]
  drawn scene := by
    obtain ⟨s, hnext, hmart, hrest⟩ := exists_next_of_follows hc (x := p.extractor) rfl
      { scene with outside := (c.connect spec.query scene.outside).2 }
      (ha.fetched spec.query scene.outside hopens)
    rw [Extractor.chunk_receive]
    exact ⟨s, hmart, hrest, hnext⟩

end opening

namespace DrawsFirst

/-- A load that is broken off before its first batch leaves the mart as it was. -/
theorem loadTable_of_broken (hc : c.LeavesMart) {a : Except Fault (Option Batch)}
    (h : p.DrawsFirst c spec a x f) {e : Fault} {scene s : Scene ω} (hs : s.mart = scene.mart)
    (hd : p.drainOpened c spec scene = ⟨some e, { table := spec.table }, s⟩) :
    (p.loadTable c spec scene).1 = .failed 0 e.message ∧
      (p.loadTable c spec scene).2.mart = scene.mart := by
  rw [h.loaded, hd]
  exact ⟨rfl, (hc.close s).trans hs⟩

/-- A load that is always broken off for the same reason before its first batch passes its table
by. -/
theorem passes_of_broken (hc : c.LeavesMart) {a : Except Fault (Option Batch)}
    (h : p.DrawsFirst c spec a x f) {e : Fault} (hdrain : ∀ scene, ∃ s : Scene ω,
      s.mart = scene.mart ∧ p.drainOpened c spec scene = ⟨some e, { table := spec.table }, s⟩) :
    p.Passes c spec := by
  have hboth : ∀ scene, (p.loadTable c spec scene).1 = .failed 0 e.message ∧
      (p.loadTable c spec scene).2.mart = scene.mart := by
    intro scene
    obtain ⟨s, hs, hd⟩ := hdrain scene
    exact h.loadTable_of_broken hc hs hd
  refine ⟨?_, ?_⟩
  · intro scene scene'
    exact (hboth scene).1.trans (hboth scene').1.symm
  · intro scene
    rw [(hboth scene).2]

/-- A first answer that is a fault. -/
theorem passes_of_error (hc : c.LeavesMart) {e : Fault} (h : p.DrawsFirst c spec (.error e) x f) :
    p.Passes c spec := by
  apply h.passes_of_broken hc
  intro scene
  obtain ⟨s, hmart, -, hnext⟩ := h.drawn scene
  exact ⟨s, hmart, drain_of_error hnext⟩

/-- No rows: that is told, and the table is dropped. -/
theorem settles_of_none (h : p.DrawsFirst c spec (.ok none) x f) : p.Settles c spec := by
  have hboth : ∀ scene, (p.loadTable c spec scene).1 = .noData ∧
      (p.loadTable c spec scene).2.mart.table? spec.table = none := by
    intro scene
    obtain ⟨s, -, -, hnext⟩ := h.drawn scene
    have hd : p.drainOpened c spec scene = ⟨none, { table := spec.table }, s⟩ :=
      drain_of_none hnext
    rw [h.loaded, hd]
    exact ⟨rfl, (c.source.close s).2.mart.table?_drop_self spec.table⟩
  refine ⟨?_, fun _ => hboth⟩
  intro scene scene'
  exact ⟨(hboth scene).1.trans (hboth scene').1.symm, (hboth scene).2.trans (hboth scene').2.symm⟩

/-- A first batch that makes a table, the same one everywhere: from there all loads go on alike. -/
theorem settles_of_created (hc : c.LeavesMart) (h : p.DrawsFirst c spec (.ok (some b)) x f)
    (hname : Text.sameName stagingName spec.table = false) {t : Table}
    (hcreate : ∀ m, ∃ m', Session.create { mart := m } spec.table b =
      (.ok b.size, { mart := m' }) ∧ m'.table? spec.table = some t) : p.Settles c spec := by
  have hstarted : ∀ scene, ∃ s : Scene ω, s.mart.table? spec.table = some t ∧
      c.Follows x.chunk s.outside f ∧
      p.drainOpened c spec scene = drain c x ⟨spec.table, .loaded b.size 1⟩ s := by
    intro scene
    obtain ⟨s, -, hrest, hnext⟩ := h.drawn scene
    obtain ⟨m', hm', ht⟩ := hcreate s.mart
    refine ⟨{ s with mart := m' }, ht, hrest, ?_⟩
    apply drain_of_write_ok (s := { mart := m' }) hnext (k := b.size)
    simp only [TableLoad.write, TableLoad.create, hm']
  refine ⟨?_, ?_⟩
  · intro scene scene'
    obtain ⟨s, ht, hrest, hd⟩ := hstarted scene
    obtain ⟨s', ht', hrest', hd'⟩ := hstarted scene'
    have hloaded : LoadState.loaded b.size 1 ≠ .notStarted := LoadState.noConfusion
    obtain ⟨hfault, hload, htable⟩ := drain_congr hc x ⟨spec.table, .loaded b.size 1⟩ hname hloaded
      ⟨ht.trans ht'.symm, f, hrest, hrest'⟩
    rw [h.loaded, h.loaded, hd, hd']
    exact conclude_congr hc hfault hload htable
  · intro hstaged
    rw [hname] at hstaged
    cases hstaged

/-- A first batch that is refused breaks the load off, with what was there. -/
theorem drainOpened_of_refused (h : p.DrawsFirst c spec (.ok (some b)) x f) {e : Mart → Fault}
    (hcreate : ∀ m, Session.create { mart := m } spec.table b = (.error (e m), { mart := m }))
    (scene : Scene ω) : ∃ s : Scene ω, s.mart = scene.mart ∧
      p.drainOpened c spec scene = ⟨some (e scene.mart), { table := spec.table }, s⟩ := by
  obtain ⟨s, hmart, -, hnext⟩ := h.drawn scene
  refine ⟨s, hmart, drain_of_write_error (s := { mart := s.mart }) hnext ?_⟩
  rw [← hmart]
  simp only [TableLoad.write, TableLoad.create, hcreate s.mart]

/-- A first batch that is refused for the name of the table. -/
theorem balks_of_refused (hc : c.LeavesMart) (h : p.DrawsFirst c spec (.ok (some b)) x f)
    (hname : Text.sameName stagingName spec.table = true)
    (hcreate : ∀ m, Session.create { mart := m } spec.table b =
      (.error (Session.stagedFault spec.table m), { mart := m })) : p.Balks c spec := by
  have hboth : ∀ scene, (p.loadTable c spec scene).1 =
        .failed 0 (Session.stagedFault spec.table scene.mart).message ∧
      (p.loadTable c spec scene).2.mart = scene.mart := by
    intro scene
    obtain ⟨s, hs, hd⟩ := h.drainOpened_of_refused hcreate scene
    exact h.loadTable_of_broken hc hs hd
  refine ⟨hname, fun scene => (hboth scene).1, fun scene => ?_⟩
  rw [(hboth scene).2]

end DrawsFirst

/-- **A load settles its table, passes it by, or balks at it.** It settles the table once a batch is
written or the source turns out to be empty. It can balk only under the name of the staging
relation. -/
theorem load_cases (hc : c.LeavesMart) {opens : String → Except Fault Unit}
    {answers : String → Nat → Except Fault Batch} (ha : c.AnswersByQuery p.chunk opens answers)
    (spec : TableSpec) :
    p.Settles c spec ∨ p.Passes c spec ∨ p.Balks c spec := by
  cases hopens : opens spec.query with
  | error e => exact .inr (.inl (passes_of_unopened ha hopens))
  | ok _ =>
      have h := drawsFirst_of_opened (p := p) hc ha hopens
      rcases hreceive : p.extractor.receive (answers spec.query 0) with ⟨a, x⟩
      rw [hreceive] at h
      match a, h with
      | .error e, h => exact .inr (.inl (h.passes_of_error hc))
      | .ok none, h => exact .inl h.settles_of_none
      | .ok (some b), h =>
          rcases Session.create_cases spec.table b with
            ⟨hname, t, hcreate⟩ | ⟨e, hcreate⟩ | ⟨hname, hcreate⟩
          · exact .inl (h.settles_of_created hc hname hcreate)
          · exact .inr (.inl (h.passes_of_broken hc (h.drainOpened_of_refused hcreate)))
          · exact .inr (.inr (h.balks_of_refused hc hname hcreate))

end Pipeline

end DataMart
