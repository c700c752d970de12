import DataMart.Extract.Connector

/-!
# Prepared answers

A source that plays back a list of prepared answers, one for each fetch, whatever size is asked for.
Between two answers it may drop or create a table of the mart over a connection of its own, which is
how other users of the mart are brought in. It keeps a log of what it was asked and what it did.
-/

namespace DataMart

/-- A step of a prepared source. -/
inductive PlaybackStep where
  /-- Answer a fetch. -/
  | answer (a : Except Fault Batch)
  /-- Drop a table and go on. -/
  | drop (table : String)
  /-- Create a table from a batch and go on. -/
  | create (table : String) (b : Batch)

/-- A prepared source: what is still to be played, what closing says, and the log, newest first. -/
structure Playback where
  steps : List PlaybackStep := []
  closing : Except Fault Unit := .ok ()
  log : List String := []

namespace Playback

/-- Write a line into the log. -/
def note (p : Playback) (line : String) : Playback := { p with log := line :: p.log }

/-- Play steps until one answers. A list that ended answers with the empty batch. -/
def play (m : Mart) (p : Playback) : (steps : List PlaybackStep) → Except Fault Batch × Scene Playback
  | [] => (.ok .empty, ⟨{ p with steps := [] }, m⟩)
  | .answer a :: rest => (a, ⟨{ p with steps := rest }, m⟩)
  | .drop table :: rest =>
    play (Session.dropTable { mart := m } table).mart (p.note ("drop " ++ table)) rest
  | .create table b :: rest =>
    play (Session.create { mart := m } table b).2.mart (p.note ("create " ++ table)) rest

/-- Answer a fetch. -/
def fetch (n : Nat) (s : Scene Playback) : Except Fault Batch × Scene Playback :=
  play s.mart (s.outside.note ("fetch " ++ toString n)) s.outside.steps

/-- Playing consumes at least the step that answered. -/
theorem length_play_lt {m : Mart} {p : Playback} {steps : List PlaybackStep} {b : Batch}
    (h : (play m p steps).1 = .ok b) (hb : b.isEmpty = false) :
    (play m p steps).2.outside.steps.length < steps.length := by
  induction steps generalizing m p with
  | nil =>
    simp only [play] at h
    cases h
    simp [Batch.isEmpty, Batch.empty] at hb
  | cons step rest ih =>
    cases step with
    | answer a => simp [play]
    | drop table => exact Nat.lt_succ_of_lt (ih h)
    | create table c => exact Nat.lt_succ_of_lt (ih h)

/-- A prepared source. -/
def source : Source (Scene Playback) where
  fetch := fetch
  close s := (s.outside.closing, { s with outside := s.outside.note "close" })
  left s := s.outside.steps.length
  left_fetch h hb := length_play_lt h hb

end Playback

/-- Prepared sources by query; each opening plays its source from the start. -/
def Connector.ofPlaybacks (sources : List (String × Playback)) : Connector Playback where
  connect query p :=
    let p := p.note ("open " ++ query)
    match sources.lookup query with
    | some q => (.ok (), { q with log := p.log })
    | none => (.error (.sourceUnavailable "no script"), p)
  source := Playback.source
  left_mart _ _ := rfl

end DataMart
