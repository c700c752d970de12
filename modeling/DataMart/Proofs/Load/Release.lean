import DataMart.Proofs.Load.Interference
import DataMart.Proofs.Load.Reach

/-!
# The release of sources

What is asked of a connector in the course of a run, and what it answers, in order: sources are
opened, fetched from and closed.

* `Event` is one such question with its answer, and `Connector.watched` is a connector that keeps a
  list of them. Otherwise it is the connector (`views_watched`).
* `Fetches` are the fetches from a source that is open: each but the last gave a full batch, and
  this was written.
* `Episode` is what is asked in the load of a spec: the source is opened; if it is open, it is fetched
  from, and closed once. `exists_episodes`: a run is one episode after another.
-/

namespace DataMart

/-- A question to a connector, with the answer. -/
inductive Event where
  /-- A source was to be opened for a query. -/
  | opened (query : String) (answer : Except Fault Unit)
  /-- The next rows were to be fetched; `mart` is what the mart was then. -/
  | fetched (asked : Nat) (answer : Except Fault Batch) (mart : Mart)
  /-- The source was to be closed. -/
  | closed (answer : Except Fault Unit)

/-- The state of a connector, and what it was asked so far. -/
structure Watched (ω : Type) where
  state : ω
  events : List Event := []

/-- A connector that keeps what it was asked. -/
def Connector.watched {ω : Type} (c : Connector ω) : Connector (Watched ω) where
  connect query w :=
    let (answer, state) := c.connect query w.state
    (answer, ⟨state, w.events ++ [.opened query answer]⟩)
  source :=
    { fetch n s :=
        let (answer, s') := c.source.fetch n (s.view Watched.state)
        (answer, ⟨⟨s'.outside, s.outside.events ++ [.fetched n answer s'.mart]⟩, s'.mart⟩)
      close s :=
        let (answer, s') := c.source.close (s.view Watched.state)
        (answer, ⟨⟨s'.outside, s.outside.events ++ [.closed answer]⟩, s'.mart⟩)
      left s := c.source.left (s.view Watched.state)
      left_fetch := fun hb hne => c.source.left_fetch hb hne }
  left_mart s m := c.left_mart (s.view Watched.state) m

/-- A scene in which nothing was asked yet. -/
def Scene.watched {ω : Type} (s : Scene ω) : Scene (Watched ω) := ⟨⟨s.outside, []⟩, s.mart⟩

/-- Apart from what it keeps, it is the connector. -/
theorem Connector.views_watched {ω : Type} (c : Connector ω) :
    Views Watched.state c.watched c where
  connect _ _ := rfl
  fetch _ _ := rfl
  close _ := rfl

/-! ## Fetches -/

/-- No fetch follows one that is answered so: it failed, it gave no batch of exactly `n` rows, or
its batch cannot be written into the mart that it left. -/
def Halts (n : Nat) (load : TableLoad) (mart : Mart) : Except Fault Batch → Prop
  | .error _ => True
  | .ok b => b.size ≠ n ∨ ∃ e, (load.write { mart } b).result = .error e

/-- The fetches of `n` rows each from a source that is open, while its batches are written into a
table: there is at least one, and only the last one halts. -/
inductive Fetches (n : Nat) : TableLoad → List Event → Prop where
  | last {load : TableLoad} {answer : Except Fault Batch} {mart : Mart}
      (halts : Halts n load mart answer) : Fetches n load [.fetched n answer mart]
  | more {load : TableLoad} {b : Batch} {mart : Mart} {k : Nat} {rest : List Event}
      (full : b.size = n) (written : (load.write { mart } b).result = .ok k)
      (later : Fetches n (load.write { mart } b).load rest) :
      Fetches n load (.fetched n (.ok b) mart :: rest)

/-- What is asked in the load of a spec. A source that cannot be opened is neither fetched from nor
closed; one that is open is fetched from, and then closed once. -/
inductive Episode (n : Nat) (spec : TableSpec) : List Event → Prop where
  | unopened {e : Fault} : Episode n spec [.opened spec.query (.error e)]
  | released {fetches : List Event} (answer : Except Fault Unit)
      (fetched : Fetches n { table := spec.table } fetches) :
      Episode n spec (.opened spec.query (.ok ()) :: (fetches ++ [.closed answer]))

namespace Pipeline

variable {ω : Type} {c : Connector ω}

/-- A fetch that halts is the last one. -/
theorem exists_fetches_of_halts {n : Nat} {load : TableLoad} {s : Scene (Watched ω)}
    (halts : Halts n load (c.watched.source.fetch n s).2.mart (c.watched.source.fetch n s).1) :
    ∃ fetches, Fetches n load fetches ∧
      (c.watched.source.fetch n s).2.outside.events = s.outside.events ++ fetches :=
  ⟨_, .last halts, rfl⟩

/-- Draining a source asks for its fetches. -/
theorem Drains.exists_fetches {x : Extractor} {load : TableLoad} {s : Scene (Watched ω)}
    {bs : List Batch} {stop : Stop} {d : Drained (Watched ω)}
    (h : Drains c.watched x load s bs stop d) (hx : x.exhausted = false) :
    ∃ fetches, Fetches x.chunk load fetches ∧
      d.scene.outside.events = s.outside.events ++ fetches := by
  induction h with
  | exhausted hx' =>
      rw [hx] at hx'
      cases hx'
  | failed _ answer =>
      apply exists_fetches_of_halts
      rw [answer]
      trivial
  | @empty x load s b _ answer rows =>
      apply exists_fetches_of_halts
      rw [answer]
      left
      rw [Batch.size, List.isEmpty_iff.1 rows]
      exact Nat.ne_of_lt x.chunk_pos
  | overlong _ answer rows size =>
      apply exists_fetches_of_halts
      rw [answer]
      exact .inl (Nat.ne_of_gt size)
  | @refused x load l s b e _ _ answer rows size written =>
      apply exists_fetches_of_halts
      rw [answer]
      exact .inr ⟨e, by rw [written]⟩
  | @wrote x load l s b k _ bs stop d _ answer rows size written rest ih =>
      by_cases full : b.size = x.chunk
      · -- a full batch leaves the extractor as it was, but for the count
        have hgo : (x.receive (.ok b)).2.exhausted = false := by
          rw [Extractor.receive_of_le rows size]
          exact decide_eq_false (Nat.not_lt_of_le (Nat.le_of_eq full.symm))
        obtain ⟨fetches, hfetches, hevents⟩ := ih hgo
        rw [Extractor.chunk_receive] at hfetches
        refine ⟨.fetched x.chunk (.ok b) (c.watched.source.fetch x.chunk s).2.mart :: fetches,
          .more full (by rw [written]) (by rwa [written]), ?_⟩
        rw [hevents, List.append_cons, ← answer]
        rfl
      · -- a short one exhausts it, so that nothing is left to drain
        have hend : (x.receive (.ok b)).2.exhausted = true := by
          rw [Extractor.receive_of_le rows size]
          exact decide_eq_true (Nat.lt_of_le_of_ne size full)
        have halts : Halts x.chunk load (c.watched.source.fetch x.chunk s).2.mart
            (c.watched.source.fetch x.chunk s).1 := by
          rw [answer]
          exact .inl full
        obtain ⟨-, -, rfl⟩ := rest.unique (.exhausted hend)
        exact exists_fetches_of_halts halts

/-- After the last fetch the source is closed, whatever ended the draining. -/
theorem exists_closed (c : Connector ω) (table : String) (d : Drained (Watched ω)) :
    ∃ answer, (conclude c.watched table d).scene.outside.events =
      d.scene.outside.events ++ [.closed answer] := by
  refine ⟨(c.watched.source.close d.scene).1, ?_⟩
  unfold conclude
  cases d.fault <;> rfl

/-- Loading a table is an episode. -/
theorem exists_episode (p : Pipeline) (c : Connector ω) (spec : TableSpec)
    (s : Scene (Watched ω)) :
    ∃ episode, Episode p.chunk spec episode ∧
      (p.loadTable c.watched spec s).2.outside.events = s.outside.events ++ episode := by
  have hopened : (c.watched.connect spec.query s.outside).2.events =
      s.outside.events ++ [.opened spec.query (c.watched.connect spec.query s.outside).1] := rfl
  rw [loadTable_eq_told, attempt]
  cases hanswer : (c.watched.connect spec.query s.outside).1 with
  | error e =>
      rw [hanswer] at hopened
      exact ⟨_, .unopened, hopened⟩
  | ok _ =>
      rw [hanswer] at hopened
      obtain ⟨bs, stop, hdrains⟩ := exists_drains c.watched p.extractor { table := spec.table }
        { s with outside := (c.watched.connect spec.query s.outside).2 }
      obtain ⟨fetches, hfetches, hdrained⟩ := hdrains.exists_fetches rfl
      obtain ⟨answer, hclosed⟩ := exists_closed c spec.table (p.drainOpened c.watched spec s)
      refine ⟨_, Episode.released answer hfetches, ?_⟩
      show (conclude c.watched spec.table _).scene.outside.events = _
      rw [hclosed, drainOpened, hdrained, hopened]
      simp

/-- A run is one episode after another, one for each spec. -/
theorem exists_episodes (p : Pipeline) (c : Connector ω) (specs : List TableSpec)
    (s : Scene (Watched ω)) :
    ∃ episodes, List.Forall₂ (Episode p.chunk) specs episodes ∧
      (p.run c.watched specs s).2.outside.events = s.outside.events ++ episodes.flatten := by
  induction specs generalizing s with
  | nil => exact ⟨[], .nil, (List.append_nil _).symm⟩
  | cons spec rest ih =>
      obtain ⟨episode, hepisode, hevents⟩ := exists_episode p c spec s
      obtain ⟨episodes, hepisodes, hrest⟩ := ih (p.loadTable c.watched spec s).2
      refine ⟨episode :: episodes, .cons hepisode hepisodes, ?_⟩
      rw [hevents, List.append_assoc] at hrest
      exact hrest

end Pipeline

end DataMart
