import DataMart.Extract.Connector
import DataMart.Flatten
import DataMart.Json.Printer
import DataMart.Store.Files

/-!
# Loading a mart

A `Pipeline` loads tables one after another: for each it opens a source, moves its batches into the
table, releases the source and counts the table's rows. A fault ends the load of its own table only,
and batches written before it stay. At most one batch is held at a time. The outcome of every table
is told in a `RunReport`, in the order of the specs.
-/

namespace DataMart

/-- What became of a table. -/
inductive TableOutcome where
  /-- Every batch was written, and the table holds that many rows. -/
  | loaded (rows batches : Nat)
  /-- The source had no rows; the table is absent. -/
  | noData
  /-- The load was broken off; rows of earlier batches stay in the table. -/
  | failed (rowsWritten : Nat) (error : String)
  deriving DecidableEq, Repr

namespace TableOutcome

/-- Whether a load was broken off. -/
def isFailure : TableOutcome → Bool
  | failed _ _ => true
  | _ => false

/-- The rows of a table that was loaded. -/
def rows : TableOutcome → Nat
  | loaded rows _ => rows
  | _ => 0

/-- An outcome as members of a JSON object. -/
def members : TableOutcome → List (String × Json)
  | loaded rows batches =>
    [("status", .text "loaded"), ("rows", .ofNat rows), ("batches", .ofNat batches)]
  | noData => [("status", .text "no_data")]
  | failed rowsWritten error =>
    [("status", .text "failed"), ("rows_written", .ofNat rowsWritten), ("error", .text error)]

/-- An outcome in JSON. -/
def toJson (o : TableOutcome) : Json := .object o.members

end TableOutcome

/-- What became of the table of a given name. -/
structure TableReport where
  table : String
  outcome : TableOutcome
  deriving DecidableEq, Repr

/-- What became of every table of a run. -/
structure RunReport where
  tables : List TableReport := []
  deriving DecidableEq, Repr

namespace RunReport

/-- The rows of all tables that were loaded. -/
def totalRows (r : RunReport) : Nat := r.tables.foldl (fun n t => n + t.outcome.rows) 0

/-- Whether some load was broken off. -/
def hasFailures (r : RunReport) : Bool := r.tables.any fun t => t.outcome.isFailure

/-- The first outcome told under a name. -/
def outcome? (r : RunReport) (table : String) : Option TableOutcome :=
  (r.tables.find? fun t => t.table == table).map TableReport.outcome

/-- A report in JSON. -/
def toJson (r : RunReport) : Json :=
  .object [("tables", .list (r.tables.map fun t =>
    .object (("table", .text t.table) :: t.outcome.members)))]

end RunReport

/-- Loads tables in batches of bounded size. -/
structure Pipeline where
  chunk : Nat
  chunk_pos : 0 < chunk

namespace Pipeline

/-- The number of rows of a batch unless another is asked for. -/
def defaultChunk : Nat := 100000

/-- The pipeline with batches of the default size. -/
def default : Pipeline := ⟨defaultChunk, by decide⟩

/-- The pipeline with batches of a given size. -/
def ofChunk (chunk : Nat) : Except Fault Pipeline :=
  if h : 0 < chunk then .ok ⟨chunk, h⟩ else .error zeroChunk

/-- An extractor for one table. -/
def extractor (p : Pipeline) : Extractor := { chunk := p.chunk, chunk_pos := p.chunk_pos }

/-- How far draining a source into a table has come: the fault that ended it, if any. -/
structure Drained (ω : Type) where
  fault : Option Fault
  load : TableLoad
  scene : Scene ω

/-- Move batches from the open source into the table until there are no more. -/
def drain {ω : Type} (c : Connector ω) (x : Extractor) (load : TableLoad) (scene : Scene ω) :
    Drained ω :=
  match _h : x.next c.source scene with
  | (.error e, _, scene') => ⟨some e, load, scene'⟩
  | (.ok none, _, scene') => ⟨none, load, scene'⟩
  | (.ok (some b), x', scene') =>
    let written := load.write { mart := scene'.mart } b
    let scene'' : Scene ω := { scene' with mart := written.session.mart }
    match written.result with
    | .error e => ⟨some e, written.load, scene''⟩
    | .ok _ => drain c x' written.load scene''
termination_by c.source.left scene
decreasing_by
  have hb : (x.next c.source scene).1 = .ok (some b) := by rw [_h]
  have := Extractor.left_next hb
  rw [_h] at this
  rw [c.left_mart]
  exact this

/-- What is made of a table once its source is drained and released. -/
def verify (table : String) (load : TableLoad) (s : Session) :
    Except Fault TableOutcome × Session :=
  if load.rows = 0 then (.ok .noData, s.dropTable table)
  else
    match s.countRows table with
    | .error e => (.error e, s)
    | .ok counted =>
      if counted = load.rows then (.ok (.loaded load.rows load.batches), s)
      else (.error (.verificationFailed table load.rows counted), s)

/-- Load one table. A source that was opened is released whatever happened; a fault in releasing it
after a full drain is no fault of the table. -/
def loadTable {ω : Type} (p : Pipeline) (c : Connector ω) (spec : TableSpec) (scene : Scene ω) :
    TableOutcome × Scene ω :=
  let (opened, outside) := c.connect spec.query scene.outside
  let scene : Scene ω := { scene with outside := outside }
  match opened with
  | .error e => (.failed 0 e.message, scene)
  | .ok () =>
    let drained := drain c p.extractor { table := spec.table } scene
    let (_, released) := c.source.close drained.scene
    match drained.fault with
    | some e => (.failed drained.load.rows e.message, released)
    | none =>
      let (outcome, s) := verify spec.table drained.load { mart := released.mart }
      let scene : Scene ω := { released with mart := s.mart }
      match outcome with
      | .ok o => (o, scene)
      | .error e => (.failed drained.load.rows e.message, scene)

/-- Load every table in order. -/
def run {ω : Type} (p : Pipeline) (c : Connector ω) :
    (specs : List TableSpec) → Scene ω → RunReport × Scene ω
  | [], scene => ({}, scene)
  | spec :: rest, scene =>
    let (outcome, scene') := p.loadTable c spec scene
    let (report, scene'') := run p c rest scene'
    (⟨⟨spec.table, outcome⟩ :: report.tables⟩, scene'')

/-- What loading into a file gave: the report, what is known outside, and the files. -/
structure Built (ω : Type) where
  report : RunReport
  outside : ω
  files : Files

/-- Load every table into the mart under a path; the file is created if need be. -/
def build {ω : Type} (p : Pipeline) (c : Connector ω) (specs : List TableSpec) (path : String)
    (outside : ω) (files : Files) : Except Fault (Built ω) :=
  (files.openWriter path).map fun (s, opened) =>
    let (report, scene) := p.run c specs ⟨outside, s.mart⟩
    ⟨report, scene.outside, opened.keep path { mart := scene.mart }⟩

/-- The report of a run has an entry for every spec, in order. -/
theorem tables_run {ω : Type} (p : Pipeline) (c : Connector ω) (specs : List TableSpec)
    (scene : Scene ω) :
    (p.run c specs scene).1.tables.map TableReport.table = specs.map TableSpec.table := by
  induction specs generalizing scene with
  | nil => rfl
  | cons spec rest ih => simp [run, ih]

end Pipeline

end DataMart
