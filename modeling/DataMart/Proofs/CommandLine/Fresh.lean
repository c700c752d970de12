import DataMart.Proofs.CommandLine.Stages
import DataMart.Proofs.Load.Presence
import DataMart.Proofs.Store.Files

/-!
# The mart that a run leaves

A run that ends early leaves the mart as it was, and so does every command that builds none. A fresh
run whose destination can be opened leaves a mart with exactly the tables of which its report tells
rows, whatever the old one held, provided that the path of the mart names a file, and that the system
sees the file which the engine opens; it exits without failure exactly if no load was broken off
(`mart_after_run`). Three kinds of runs leave no such mart (`unkept_marts`): the destination cannot
be opened, its path names no file, or the old mart is seen by the engine alone.
-/

namespace DataMart.CommandLine

variable {w : World} {args : List String} {c : Config} {fresh : Bool} {url : String} {files : Files}
  {said : List String} {p : Pipeline} {s : Session} {opened : Files}

/-- What a pipeline does on an opened mart. -/
def pipelineRun (w : World) (c : Config) (url : String) (p : Pipeline) (m : Mart) :
    RunReport × Scene Postgres.Session :=
  p.run (Postgres.connectorAt url) (c.layout.tableSpecs c.flattenPolicy) ⟨{ server := w.server }, m⟩

/-! ## Loads -/

/-- A destination that cannot be opened is a failure of the whole run. -/
theorem load_of_unopened (hp : Pipeline.ofChunk c.chunk = .ok p) {f : Fault}
    (hopen : files.openWriter c.martPath = .error f) :
    load w c url files said = { out := said, failure := some (.fault f), files := files } := by
  simp only [load, hp, ok_bind, Pipeline.build, hopen, Except.map]

/-- On an opened destination the run is what the pipeline does. -/
theorem load_of_opened (hp : Pipeline.ofChunk c.chunk = .ok p)
    (hopen : files.openWriter c.martPath = .ok (s, opened)) :
    load w c url files said = {
      out := said ++ reportLines c.martPath (pipelineRun w c url p s.mart).1
      failure :=
        if (pipelineRun w c url p s.mart).1.hasFailures then some .tablesFailed else none
      files := opened.keep c.martPath { mart := (pipelineRun w c url p s.mart).2.mart }
      log := (pipelineRun w c url p s.mart).2.outside.log } := by
  simp only [load, hp, ok_bind, Pipeline.build, hopen, Except.map, pipelineRun]
  rfl

/-- A run exits without failure exactly if no load was broken off. -/
theorem exit_eq_zero_iff {o : Outcome} {r : RunReport}
    (h : o.failure = if r.hasFailures then some .tablesFailed else none) :
    o.exit = 0 ↔ ∀ t ∈ r.tables, t.outcome.isFailure = false := by
  have hnone : r.hasFailures = false ↔ ∀ t ∈ r.tables, t.outcome.isFailure = false := by
    simp [RunReport.hasFailures]
  rw [Outcome.exit, h, ← hnone]
  cases r.hasFailures <;> simp [Failure.exit]

/-! ## Fresh runs -/

/-- A fresh run starts the pipeline without a file at the place of the mart, if the system sees the
old one. -/
theorem holdsFile_of_cleared (h : cleared w.files c true = .ok (files, said))
    (hsees : w.files.Sees c.martPath) :
    files.holdsFile (files.spelled c.martPath) = false := by
  simp only [cleared, if_true, removeOld] at h
  cases hlook : w.files.look c.martPath with
  | error e =>
      simp only [hlook] at h
      cases h
      -- the system finds nothing, and so there is no file for the engine either
      refine Bool.eq_false_iff.2 fun hfile => ?_
      have hexists := hsees hfile
      simp [Files.pathExists, hlook] at hexists
  | ok node =>
      cases node with
      | directory =>
          simp only [hlook] at h
          cases h
      | file old =>
          simp only [hlook] at h
          cases h
          rw [Files.spelled_remove]
          exact w.files.holdsFile_remove c.martPath

/-- An old mart that the system does not see stays, and nothing is said of it. -/
theorem cleared_of_not_sees (hunseen : ¬ files.Sees c.martPath) (fresh : Bool) :
    cleared files c fresh = .ok (files, []) := by
  cases fresh with
  | false => rfl
  | true =>
      cases hlook : files.look c.martPath with
      | error e => simp only [cleared, if_true, removeOld, hlook]
      | ok node => exact absurd (fun _ => by simp [Files.pathExists, hlook]) hunseen

/-- A fresh run leaves a mart with exactly the tables of which its report tells rows, if the path of
the mart names a file and the system sees the old one. -/
theorem martUnder_of_fresh (h : Starts w args c true url files said)
    (hnames : Files.namesFile c.martPath = true) (hsees : w.files.Sees c.martPath)
    (hopen : files.openWriter c.martPath = .ok (s, opened)) :
    ∃ m, (opened.keep c.martPath { mart := (pipelineRun w c url p s.mart).2.mart }).martUnder
        c.martPath = some m ∧
      ∀ name, (m.table? name).isSome ↔ (pipelineRun w c url p s.mart).1.HoldsRows name := by
  obtain ⟨-, -, clear⟩ := h
  obtain ⟨rfl, rfl⟩ :=
    Files.openWriter_of_no_file hnames (holdsFile_of_cleared clear hsees) hopen
  refine ⟨_, Files.martUnder_keep hnames (fun t ht => ?_) _, fun name => ?_⟩
  · rw [Files.spelled_put, Files.node?_put] at ht
    cases ht
    rfl
  · exact Pipeline.isSome_table?_run_iff (Pipeline.apart_tableSpecs _ _) p _ _ _ name

/-- **The mart that a run leaves.** A run that ends early leaves the files as they were, with `--fresh`
too; these are the runs of arguments that are not understood, of configurations that are missing or of
no use, of every command but the building one, without a source, and with an old mart that cannot be
removed. Any other run starts the pipeline. If its destination cannot be opened, it fails as a whole;
else it reports on every table, and exits without failure exactly if no load was broken off. What a
fresh run then leaves under the path of the mart, if the path names a file and the system sees there
what the engine opens, is a mart with exactly the tables of which the report tells rows; a reader
that finds the path opens it. -/
theorem mart_after_run (w : World) (args : List String) :
    (EndsEarly w args → (run w args).files = w.files) ∧
    (EndsEarly w args ∨ ∃ c fresh url files said, Starts w args c fresh url files said) ∧
    ∀ c fresh url files said, Starts w args c fresh url files said →
      (∀ f, files.openWriter c.martPath = .error f →
        run w args = { out := said, failure := some (.fault f), files := files }) ∧
      ∀ s opened, files.openWriter c.martPath = .ok (s, opened) →
        ∃ p, Pipeline.ofChunk c.chunk = .ok p ∧
          (run w args).out = said ++ reportLines c.martPath (pipelineRun w c url p s.mart).1 ∧
          ((run w args).exit = 0 ↔
            ∀ t ∈ (pipelineRun w c url p s.mart).1.tables, t.outcome.isFailure = false) ∧
          (fresh = true → Files.namesFile c.martPath = true → w.files.Sees c.martPath →
            ∃ m, (run w args).files.martUnder c.martPath = some m ∧
              ((run w args).files.pathExists c.martPath = true →
                (run w args).files.openReader c.martPath = .ok (.ok m)) ∧
              ∀ name, (m.table? name).isSome ↔
                (pipelineRun w c url p s.mart).1.HoldsRows name) := by
  refine ⟨files_run_of_endsEarly, endsEarly_or_starts w args, fun c fresh url files said h => ?_⟩
  obtain ⟨p, hp, -⟩ := ofChunk_of_enters h.entered
  rw [run_of_starts h]
  constructor
  · intro f hopen
    exact load_of_unopened hp hopen
  · intro s opened hopen
    rw [load_of_opened hp hopen]
    refine ⟨p, hp, rfl, exit_eq_zero_iff rfl, ?_⟩
    rintro rfl hnames hsees
    obtain ⟨m, hm, htables⟩ := martUnder_of_fresh h hnames hsees hopen
    exact ⟨m, hm, fun hexists => Files.openReader_of_martUnder hnames hexists hm, htables⟩

/-! ## A server with one sale -/

/-- A server that answers every query with one sale. -/
def oneSaleServer : Postgres.Server where
  relations := [{ answers := .part "", columns := [⟨"sale_id", "INT4"⟩], rows := [[some "7"]] }]

/-- The session of such a server with its cursor open. -/
def openSale (log : List String) : Postgres.Session where
  server := oneSaleServer
  log := log
  cursor := some { relation := oneSaleServer.relations.head (by decide), rows := [[some "7"]] }

/-- The batch of the sale. -/
def saleBatch : Batch := ⟨[⟨"sale_id", .integer⟩], [[.int 7]], by decide⟩

/-- Every query opens the cursor. -/
theorem connect_oneSale (query : String) :
    ∃ log, (Postgres.connectorAt "pg://sales").connect query { server := oneSaleServer } =
      (.ok (), openSale log) := by
  have hscheme : Postgres.hasScheme "pg://sales" = true := by decide +kernel
  have hoccurs (cs : List Char) : Postgres.Relation.answersQuery.occurs [] cs = true := by
    cases cs <;> rfl
  refine ⟨[Postgres.declareText query, Postgres.beginText, "connect"], ?_⟩
  simp only [Postgres.connectorAt, Connector.ofSource, hscheme, if_true, Postgres.Session.connect,
    oneSaleServer, Postgres.Session.note, List.find?_cons, Postgres.Relation.answersQuery,
    String.toList_empty, hoccurs]
  rfl

/-- The sale is fetched at once. -/
theorem fetch_openSale {n : Nat} (hn : 1 < n) (log : List String) :
    (Postgres.Session.source.fetch n (openSale log)).1 = .ok saleBatch := by
  show Postgres.batchOfRows _ (List.take n [[some "7"]]) = _
  rw [List.take_of_length_le (Nat.le_of_lt hn)]
  rfl

/-- What a run finds that has this server. -/
def saleWorld (files : Files) : World := { files := files, server := oneSaleServer }

/-- The report of a run with one spec. -/
theorem report_run_single {ω : Type} (p : Pipeline) (c : Connector ω) (spec : TableSpec)
    (scene : Scene ω) :
    (p.run c [spec] scene).1 = ⟨[⟨spec.table, (p.loadTable c spec scene).1⟩]⟩ := rfl

/-- A flat layout is reported as loaded, with one row. -/
theorem report_oneSale (hflat : c.layout = .flat) (hp : 1 < p.chunk) (files : Files) (m : Mart) :
    (pipelineRun (saleWorld files) c "pg://sales" p m).1 =
      ⟨[⟨salesMartTable, .loaded 1 1⟩]⟩ := by
  obtain ⟨log, hconnect⟩ := connect_oneSale (Flatten.salesMartQuery c.flattenPolicy)
  have hreason : refusal? salesMartTable [] saleBatch = none := by decide +kernel
  have hname : Text.sameName stagingName salesMartTable = false := by decide +kernel
  have hcourse : Course (Postgres.connectorAt "pg://sales").connect Postgres.Session.source
      p.chunk ⟨Flatten.salesMartQuery c.flattenPolicy, salesMartTable⟩
      { server := oneSaleServer } [saleBatch] .drained
      (Postgres.Session.source.close
        (Postgres.Session.source.fetch p.chunk (openSale log)).2).2 := by
    refine .opened (congrArg Prod.fst hconnect) ?_
    rw [hconnect]
    exact .short (fetch_openSale hp log) rfl hp hreason
  obtain ⟨m', hload, -⟩ := loadTable_of_course p hcourse hname m
  have hspecs : c.layout.tableSpecs c.flattenPolicy =
      [⟨Flatten.salesMartQuery c.flattenPolicy, salesMartTable⟩] := by rw [hflat, Layout.tableSpecs]
  rw [pipelineRun, hspecs, report_run_single]
  exact congrArg (fun r => (⟨[⟨salesMartTable, r.1⟩]⟩ : RunReport)) hload

/-- Arguments that build a flat mart anew under a path. -/
def freshArgs (path : String) : List String :=
  ["etl", "--fresh", "--layout", "flat", "--chunk-size", "2", "--database-url", "pg://sales",
    "--mart", path]

/-- The configuration that these arguments make. -/
def freshConfig (path : String) : Config where
  databaseUrl := some "pg://sales"
  martPath := path
  chunk := 2
  layout := .flat

/-- They start the pipeline on the files without an old mart. -/
theorem starts_fresh {path : String} {files files' : Files} {said : List String}
    (understood : Invocation.ofArguments {} (freshArgs path) = .ok {
      databaseUrl := some "pg://sales"
      mart := some path
      command := .etl true (some 2) (some .flat) })
    (clear : cleared files (freshConfig path) true = .ok (files', said)) :
    Starts (saleWorld files) (freshArgs path) (freshConfig path) true "pg://sales" files' said :=
  .intro (.intro understood rfl rfl rfl) rfl clear

/-- What they come to on a destination that can be opened: the report tells of a table, and the run
does not fail. -/
theorem run_fresh {path : String} {files files' : Files}
    (h : Starts (saleWorld files) (freshArgs path) (freshConfig path) true "pg://sales" files' said)
    (hopen : files'.openWriter path = .ok (s, opened)) :
    (run (saleWorld files) (freshArgs path)).out =
      said ++ reportLines path ⟨[⟨salesMartTable, .loaded 1 1⟩]⟩ ∧
    (run (saleWorld files) (freshArgs path)).exit = 0 ∧
    (run (saleWorld files) (freshArgs path)).files = opened.keep path
      { mart := (pipelineRun (saleWorld files) (freshConfig path) "pg://sales" ⟨2, Nat.two_pos⟩
          s.mart).2.mart } := by
  have hp : Pipeline.ofChunk (freshConfig path).chunk = .ok ⟨2, Nat.two_pos⟩ := rfl
  have hreport := report_oneSale (c := freshConfig path) (p := ⟨2, Nat.two_pos⟩) rfl
    Nat.one_lt_two files s.mart
  rw [run_of_starts h, load_of_opened hp hopen, hreport]
  exact ⟨rfl, rfl, rfl⟩

/-- A mart with a table that no build makes. -/
def oldMart : Mart where
  tables := [⟨"old", [⟨"a", "TEXT"⟩], [], List.cons_ne_nil _ _, by decide⟩]

/-- A build keeps that table. -/
theorem isSome_old_pipelineRun (w : World) (c : Config) (url : String) (p : Pipeline) :
    ((pipelineRun w c url p oldMart).2.mart.table? "old").isSome = true := by
  have hunused : ∀ spec ∈ c.layout.tableSpecs c.flattenPolicy,
      Text.sameName spec.table "old" = false := by
    cases c.layout with
    | flat => simp [Layout.tableSpecs]; decide +kernel
    | split => simp [Layout.tableSpecs]; decide +kernel
  rw [pipelineRun, Postgres.connectorAt,
    Pipeline.table?_run_of_unused (Connector.leavesMart_ofSource _ _) p hunused]
  rfl

/-- The files with that mart. -/
def oldFiles : Files := Files.put {} "m.db" (.mart oldMart)

/-- Three fresh builds that leave no such mart. The first is under a path in a directory that does not
exist: nothing is reported, and yet it fails. The second has a path that names no file: a table is
reported as loaded, and the run does not fail, but no mart can be read afterwards. The third has a
slash behind the name of the old mart: the same is reported, but nothing was removed, and a table
stays that is not reported. -/
theorem unkept_marts :
    ((∃ c url files said, Starts (saleWorld {}) (freshArgs "no/m.db") c true url files said) ∧
      (run (saleWorld {}) (freshArgs "no/m.db")).out = [] ∧
      (run (saleWorld {}) (freshArgs "no/m.db")).exit = 1) ∧
    ((∃ c url files said, Starts (saleWorld {}) (freshArgs ":memory:") c true url files said) ∧
      (run (saleWorld {}) (freshArgs ":memory:")).out =
        reportLines ":memory:" ⟨[⟨salesMartTable, .loaded 1 1⟩]⟩ ∧
      (run (saleWorld {}) (freshArgs ":memory:")).exit = 0 ∧
      ∀ m, (run (saleWorld {}) (freshArgs ":memory:")).files.openReader ":memory:" ≠ .ok (.ok m)) ∧
    ((∃ c url files said, Starts (saleWorld oldFiles) (freshArgs "m.db/") c true url files said) ∧
      (run (saleWorld oldFiles) (freshArgs "m.db/")).out =
        reportLines "m.db/" ⟨[⟨salesMartTable, .loaded 1 1⟩]⟩ ∧
      (run (saleWorld oldFiles) (freshArgs "m.db/")).exit = 0 ∧
      ∃ m, (run (saleWorld oldFiles) (freshArgs "m.db/")).files.martUnder "m.db/" = some m ∧
        (m.table? "old").isSome = true) := by
  have hno : Starts (saleWorld {}) (freshArgs "no/m.db") (freshConfig "no/m.db") true "pg://sales"
      {} [] := starts_fresh rfl rfl
  have hmemory : Starts (saleWorld {}) (freshArgs ":memory:") (freshConfig ":memory:") true
      "pg://sales" {} [] := starts_fresh rfl rfl
  have hpath : "m.db/" = "m.db" ++ "/" := rfl
  have hnode : oldFiles.node? (oldFiles.spelled "m.db/") = some (.file (.mart oldMart)) := by
    rw [hpath, Files.spelled_append_slash (by decide)]
    exact Files.node?_put ..
  have hunseen : ¬ oldFiles.Sees "m.db/" := by
    rw [hpath]
    exact Files.not_sees_append_slash (by decide) (by decide +kernel)
  have hslash : Starts (saleWorld oldFiles) (freshArgs "m.db/") (freshConfig "m.db/") true
      "pg://sales" oldFiles [] := starts_fresh rfl (cleared_of_not_sees hunseen true)
  refine ⟨⟨⟨_, _, _, _, hno⟩, ?_⟩, ⟨⟨_, _, _, _, hmemory⟩, ?_⟩, ⟨⟨_, _, _, _, hslash⟩, ?_⟩⟩
  · rw [run_of_starts hno]
    exact ⟨rfl, rfl⟩
  · obtain ⟨hout, hexit, hfiles⟩ := run_fresh (s := {}) hmemory rfl
    refine ⟨hout, hexit, ?_⟩
    rw [hfiles]
    rintro m ⟨⟩
  · obtain ⟨hout, hexit, hfiles⟩ := run_fresh (s := { mart := oldMart }) hslash rfl
    have hkept (m : Mart) : (oldFiles.keep "m.db/" { mart := m }).martUnder "m.db/" = some m :=
      Files.martUnder_keep (by decide +kernel) (fun t ht => by cases hnode.symm.trans ht) _
    refine ⟨hout, hexit, _, (congrArg (Files.martUnder · "m.db/") hfiles).trans (hkept _), ?_⟩
    apply isSome_old_pipelineRun

/-- Under the path of a file that is no mart, a fresh build leaves one with just the table that it
reports. -/
theorem bytes_replaced :
    (run (saleWorld (Files.put {} "mart.db" .bytes)) (freshArgs "mart.db")).exit = 0 ∧
    ∃ m, (run (saleWorld (Files.put {} "mart.db" .bytes)) (freshArgs "mart.db")).files.openReader
        "mart.db" = .ok (.ok m) ∧
      ∀ name, (m.table? name).isSome ↔ Text.sameName salesMartTable name = true := by
  have hstarts : Starts (saleWorld (Files.put {} "mart.db" .bytes)) (freshArgs "mart.db")
      (freshConfig "mart.db") true "pg://sales" ((Files.put {} "mart.db" .bytes).remove "mart.db")
      ["✓ Removed old mart mart.db"] := starts_fresh rfl rfl
  obtain ⟨-, -, hrun⟩ := mart_after_run (saleWorld (Files.put {} "mart.db" .bytes))
    (freshArgs "mart.db")
  obtain ⟨-, hopened⟩ := hrun _ _ _ _ _ hstarts
  obtain ⟨p, hp, -, hexit, hmart⟩ := hopened {}
    (((Files.put {} "mart.db" .bytes).remove "mart.db").put "mart.db" (.text "")) rfl
  obtain rfl : ⟨2, Nat.two_pos⟩ = p := Except.ok.inj hp
  have hsees : (Files.put {} "mart.db" .bytes).Sees "mart.db" :=
    Files.sees_of_obstacle? (by decide) (by decide +kernel) (by decide +kernel)
  obtain ⟨m, -, hm, htables⟩ := hmart rfl (by decide +kernel) hsees
  have hreport := report_oneSale (c := freshConfig "mart.db") (p := ⟨2, Nat.two_pos⟩) rfl
    Nat.one_lt_two (Files.put {} "mart.db" .bytes) {}
  simp only [hreport] at hexit htables
  refine ⟨hexit.2 (by simp [TableOutcome.isFailure]), m, hm ?_, fun name => ?_⟩
  · -- the file stands there with what the pipeline made of it, whether tables or none
    obtain ⟨-, -, hfiles⟩ := run_fresh (s := {}) hstarts rfl
    rw [hfiles, Files.keep]
    split
    · rfl
    · split <;> rfl
  · rw [htables]
    simp [RunReport.HoldsRows, TableOutcome.HoldsRows]

end DataMart.CommandLine
