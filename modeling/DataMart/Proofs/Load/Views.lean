import DataMart.Proofs.Load.Attempt

/-!
# Connectors that keep more in their states

A connector may keep more in its states than another and do the same otherwise: looked at through
`f`, what it does is what the other does (`Connector.Views`). Then so it is for all that is built on
connectors: drawing a batch, draining a source, the load of a table, and a run (`run_view`).
-/

namespace DataMart

variable {ω ω' : Type}

/-- A scene, with what is outside looked at through `f`. -/
def Scene.view (f : ω' → ω) (s : Scene ω') : Scene ω := ⟨f s.outside, s.mart⟩

/-- Looked at through `f`, what the first connector does is what the second one does. -/
structure Connector.Views (f : ω' → ω) (c' : Connector ω') (c : Connector ω) : Prop where
  connect : ∀ query o, c.connect query (f o) = ((c'.connect query o).1, f (c'.connect query o).2)
  fetch : ∀ n s, c.source.fetch n (s.view f) =
    ((c'.source.fetch n s).1, (c'.source.fetch n s).2.view f)
  close : ∀ s, c.source.close (s.view f) =
    ((c'.source.close s).1, (c'.source.close s).2.view f)

namespace Pipeline

variable {f : ω' → ω} {c' : Connector ω'} {c : Connector ω}

/-- Drawing a batch does the same. -/
theorem next_view (h : Connector.Views f c' c) (x : Extractor) (s : Scene ω') :
    x.next c.source (s.view f) = ((x.next c'.source s).1, (x.next c'.source s).2.1,
      (x.next c'.source s).2.2.view f) := by
  unfold Extractor.next Extractor.draw
  rw [h.fetch]
  split <;> rfl

/-- Draining a source does the same. -/
theorem drain_view (h : Connector.Views f c' c) (x : Extractor) (load : TableLoad)
    (s : Scene ω') :
    drain c x load (s.view f) = ⟨(drain c' x load s).fault, (drain c' x load s).load,
      (drain c' x load s).scene.view f⟩ := by
  induction x, load, s using drain.induct (c := c') with
  | case1 x load s e x' s' hn =>
      have hn' := next_view h x s
      rw [hn] at hn'
      rw [drain_of_error hn, drain_of_error hn']
  | case2 x load s x' s' hn =>
      have hn' := next_view h x s
      rw [hn] at hn'
      rw [drain_of_none hn, drain_of_none hn']
  | case3 x load s b x' s' hn written e hw =>
      have hn' := next_view h x s
      rw [hn] at hn'
      have hwritten : load.write { mart := s'.mart } b =
          ⟨.error e, written.load, written.session⟩ := by rw [← hw]
      rw [drain_of_write_error hn hwritten, drain_of_write_error hn' hwritten]
      rfl
  | case4 x load s b x' s' hn written s₁ k hw ih =>
      have hn' := next_view h x s
      rw [hn] at hn'
      have hwritten : load.write { mart := s'.mart } b =
          ⟨.ok k, written.load, written.session⟩ := by rw [← hw]
      rw [drain_of_write_ok hn hwritten, drain_of_write_ok hn' hwritten]
      exact ih

/-- Releasing the source and looking at the table does the same. -/
theorem conclude_view (h : Connector.Views f c' c) (table : String) (d : Drained ω') :
    conclude c table ⟨d.fault, d.load, d.scene.view f⟩ =
      ⟨(conclude c' table d).result, (conclude c' table d).load,
        (conclude c' table d).scene.view f⟩ := by
  unfold conclude
  rw [h.close]
  cases d.fault <;> rfl

/-- Loading a table does the same. -/
theorem loadTable_view (h : Connector.Views f c' c) (p : Pipeline) (spec : TableSpec)
    (s : Scene ω') :
    p.loadTable c spec (s.view f) =
      ((p.loadTable c' spec s).1, (p.loadTable c' spec s).2.view f) := by
  have hopened : c.connect spec.query (s.view f).outside =
      ((c'.connect spec.query s.outside).1, f (c'.connect spec.query s.outside).2) :=
    h.connect spec.query s.outside
  have hdrained : p.drainOpened c spec (s.view f) =
      ⟨(p.drainOpened c' spec s).fault, (p.drainOpened c' spec s).load,
        (p.drainOpened c' spec s).scene.view f⟩ := by
    unfold drainOpened
    rw [hopened]
    exact drain_view h p.extractor { table := spec.table }
      { s with outside := (c'.connect spec.query s.outside).2 }
  rw [loadTable_eq_told, loadTable_eq_told, attempt, attempt, hopened, hdrained]
  cases (c'.connect spec.query s.outside).1 with
  | error e => rfl
  | ok _ =>
      dsimp only
      rw [conclude_view h]
      rfl

/-- A run does the same. -/
theorem run_view (h : Connector.Views f c' c) (p : Pipeline) (specs : List TableSpec)
    (s : Scene ω') :
    p.run c specs (s.view f) = ((p.run c' specs s).1, (p.run c' specs s).2.view f) := by
  induction specs generalizing s with
  | nil => rfl
  | cons spec rest ih =>
      simp only [run, loadTable_view h, ih]

end Pipeline

end DataMart
