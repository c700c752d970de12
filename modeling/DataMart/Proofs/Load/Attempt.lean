import DataMart.Proofs.Load.Progress

/-!
# Attempts

A load as it comes to its end, before the fault that broke it off is put into words: `attempt` gives
the outcome or the fault, how far the load had come, and what it left. What the pipeline tells of a
load is read off its attempt (`loadTable_eq_told`).

`conclude` is the part of it after the last batch: the source is released, and the table is looked
at unless a fault came before. What it comes to depends on the table alone (`conclude_congr`).
-/

namespace DataMart

/-- How the load of a table ended: its outcome or the fault, how far it had come, and what is left. -/
structure Attempt (ω : Type) where
  result : Except Fault TableOutcome
  load : TableLoad
  scene : Scene ω

/-- What is told of an attempt. -/
def Attempt.told {ω : Type} (a : Attempt ω) : TableOutcome :=
  match a.result with
  | .ok o => o
  | .error e => .failed a.load.rows e.message

namespace Pipeline

variable {ω : Type}

/-- Release a source that was drained into a table, and look at the table. -/
def conclude (c : Connector ω) (table : String) (d : Drained ω) : Attempt ω :=
  let released := (c.source.close d.scene).2
  match d.fault with
  | some e => ⟨.error e, d.load, released⟩
  | none =>
    let verified := verify table d.load { mart := released.mart }
    ⟨verified.1, d.load, { released with mart := verified.2.mart }⟩

/-- The source of a spec, open, and drained into the table. -/
def drainOpened (p : Pipeline) (c : Connector ω) (spec : TableSpec) (scene : Scene ω) : Drained ω :=
  drain c p.extractor { table := spec.table }
    { scene with outside := (c.connect spec.query scene.outside).2 }

/-- Load one table, up to its outcome or its fault. -/
def attempt (p : Pipeline) (c : Connector ω) (spec : TableSpec) (scene : Scene ω) : Attempt ω :=
  match (c.connect spec.query scene.outside).1 with
  | .error e => ⟨.error e, { table := spec.table },
      { scene with outside := (c.connect spec.query scene.outside).2 }⟩
  | .ok () => conclude c spec.table (p.drainOpened c spec scene)

/-- A load does what its attempt does, and tells what is told of it. -/
theorem loadTable_eq_told (p : Pipeline) (c : Connector ω) (spec : TableSpec) (scene : Scene ω) :
    p.loadTable c spec scene =
      ((p.attempt c spec scene).told, (p.attempt c spec scene).scene) := by
  unfold loadTable attempt
  dsimp only
  cases (c.connect spec.query scene.outside).1 with
  | error e => rfl
  | ok _ =>
      unfold conclude
      dsimp only [drainOpened]
      split <;> rename_i hfault
      · simp only [hfault]
        rfl
      · simp only [hfault]
        split <;> rename_i hverify <;> simp only [hverify, Attempt.told]

section congr

variable {c : Connector ω} {table : String} {load : TableLoad} {d d' : Drained ω}

/-- Looking at a table comes to the same where it finds the same table. -/
theorem verify_congr {m m' : Mart} (h : m.table? table = m'.table? table) (load : TableLoad) :
    (verify table load { mart := m }).1 = (verify table load { mart := m' }).1 ∧
      (verify table load { mart := m }).2.mart.table? table =
        (verify table load { mart := m' }).2.mart.table? table := by
  have hcount : Session.countRows { mart := m } table = Session.countRows { mart := m' } table := by
    simp only [Session.countRows, Session.resolve?, h]
  unfold verify
  by_cases hrows : load.rows = 0
  · rw [if_pos hrows, if_pos hrows]
    exact ⟨rfl, (m.table?_drop_self table).trans (m'.table?_drop_self table).symm⟩
  · rw [if_neg hrows, if_neg hrows, hcount]
    split
    · exact ⟨rfl, h⟩
    · split <;> exact ⟨rfl, h⟩

/-- Two drained sources come to the same end if the same was written, and the same table is left. -/
theorem conclude_congr (hc : c.LeavesMart) (hfault : d.fault = d'.fault) (hload : d.load = d'.load)
    (htable : d.scene.mart.table? table = d'.scene.mart.table? table) :
    (conclude c table d).told = (conclude c table d').told ∧
      (conclude c table d).scene.mart.table? table =
        (conclude c table d').scene.mart.table? table := by
  have hclosed : (c.source.close d.scene).2.mart.table? table =
      (c.source.close d'.scene).2.mart.table? table := by
    rw [hc.close, hc.close, htable]
  obtain ⟨hverified, hleft⟩ := verify_congr hclosed d'.load
  unfold conclude
  rw [hfault, hload]
  cases d'.fault with
  | some e => exact ⟨rfl, hclosed⟩
  | none =>
      refine ⟨?_, hleft⟩
      simp only [Attempt.told, hverified]

end congr

end Pipeline

end DataMart
