import DataMart.CommandLine.Arguments
import DataMart.CommandLine.Table
import DataMart.Postgres.Cursor
import DataMart.Query.Answer

/-!
# Running a command

What a command line does, as a function: from the files, the environment and the server that it
finds, to what it prints, how it exits, and the files it leaves. The mart file is touched by the
building command alone, and not before the configuration was found usable and a source named.
-/

namespace DataMart.CommandLine

/-- The name and version of the program. -/
def versionText : String := "salesmart 0.3.0"

/-- A short description of the commands. -/
def helpText : String :=
  Text.joinWith "\n" [
    "Usage: salesmart [OPTIONS] <COMMAND>",
    "",
    "Commands:",
    "  etl      Fill the mart from the source",
    "  query    Answer a request",
    "  report   Answer a report of the catalog",
    "  reports  List the catalog"]

/-- Where a configuration file is looked for: in the user's directory for configurations if it is
given from the root, else below the user's home. -/
def standardConfig (configHome home : Option String) : Option String :=
  let directory := match configHome with
    | some d => if Files.isAbsolute d then some d else home.map (· ++ "/.config")
    | none => home.map (· ++ "/.config")
  directory.map (· ++ "/salesmart/config.toml")

/-- What a run finds. -/
structure World where
  files : Files
  environment : Environment := {}
  /-- Where a configuration file is looked for if none is named. -/
  standardConfig : Option String := none
  /-- The server that an address leads to. -/
  server : Postgres.Server := {}

/-- Why a run failed. -/
inductive Failure where
  | refused (r : Refusal)
  | config (p : Config.Problem)
  /-- The file of a request cannot be read. -/
  | reading (path reason : String)
  /-- A request is not one in JSON. -/
  | request (e : Json.ReadError)
  /-- An old mart cannot be removed. -/
  | removing (path reason : String)
  | noDatabase
  | tablesFailed
  | fault (f : Fault)

namespace Failure

/-- What a run says about its failure. -/
def message : Failure → String
  | refused (.usage reason) => reason
  | refused _ => ""
  | config p => p.toFault.message
  | reading path reason => "reading " ++ path ++ ": " ++ reason
  | request .malformed => "parsing query request: not JSON"
  | request .mismatch => "parsing query request: not a request"
  | request .cutShort => "parsing query request: the text ends too early"
  | removing path reason => "removing " ++ path ++ ": " ++ reason
  | noDatabase => "No database URL. Use --database-url or set DATABASE_URL"
  | tablesFailed => "one or more tables failed to load"
  | fault f => f.message

/-- How a failed run exits: arguments that cannot be understood have a number of their own. -/
def exit : Failure → Nat
  | refused (.usage _) => 2
  | refused _ => 0
  | _ => 1

end Failure

/-- What a run leaves. -/
structure Outcome where
  /-- What is printed, line by line. -/
  out : List String := []
  failure : Option Failure := none
  files : Files
  /-- What the server was sent, newest first. -/
  log : List String := []

namespace Outcome

/-- How a run exits. -/
def exit (o : Outcome) : Nat := (o.failure.map Failure.exit).getD 0

/-- Lines as text. -/
def unlines (ls : List String) : String := String.join (ls.map (· ++ "\n"))

/-- What a run prints. -/
def stdout (o : Outcome) : String := unlines o.out

/-- What a run prints about its failure. -/
def stderr (o : Outcome) : String :=
  match o.failure with
  | none => ""
  | some (.refused .version) => ""
  | some (.refused .help) => ""
  | some f => "Error: " ++ f.message ++ "\n"

end Outcome

/-! ## Queries -/

/-- A compiled query with its bindings, for looking at. -/
def dryRunLines (s : Statement) : List String :=
  ["Generated SQL:", s.sql] ++
    if s.params.isEmpty then []
    else ["", "Bindings:"] ++
      s.params.zipIdx.map fun (v, i) => "  ?" ++ toString (i + 1) ++ " = " ++ v.shown

/-- A result in lines. -/
def resultLines (format : Format) (r : QueryResponse) : List String :=
  match format with
  | .json => [r.toJson.pretty]
  | .table => ResultTable.lines r.records

/-- Run a compiled query on the mart, or only show it. -/
def execute (files : Files) (martPath : String) (q : Select) (dryRun : Bool) (format : Format) :
    Outcome :=
  if dryRun then { out := dryRunLines q.render, files := files }
  else
    match (files.openReader martPath).bind fun opened =>
        respond opened q.render fun m => m.select q with
    | .ok r => { out := resultLines format r, files := files }
    | .error f => { failure := some (.fault f), files := files }

/-- The text of a request: the operand itself, or the file that it names. -/
def requestText (files : Files) (operand : String) : Except Failure String :=
  match operand.toList with
  | '@' :: path =>
    (files.readText (String.ofList path)).mapError fun e => .reading (String.ofList path) e.message
  | _ => .ok operand

/-- The SELECT tree that a request asks for. -/
def requestPlan (files : Files) (c : Config) (operand table : String) : Except Failure Select := do
  let text ← requestText files operand
  let request ← (Request.parse text).mapError .request
  (Compiler.plan { table := table, limit := c.defaultLimit } request).mapError .fault

/-- The SELECT tree of a report. -/
def reportPlan (name : String) (args : ReportArgs) : Except Failure Select :=
  (do
    let report ← Report.ofName name
    let request ← report.request args
    Compiler.plan { table := report.table } request).mapError .fault

/-! ## The catalog -/

/-- A line of the catalog. -/
def catalogLine (name table description : String) : String :=
  Text.padTo 26 name ++ " " ++ Text.padTo 20 table ++ " " ++ description

/-- The catalog in lines. -/
def catalogLines : List String :=
  ["Report catalog", "", catalogLine "Name" "Table" "Description", Text.repeated 80 "─"] ++
    Report.all.map fun r => catalogLine r.name r.table r.description

/-! ## Building -/

/-- What became of a table, in a line. -/
def tableLine (t : TableReport) : String :=
  match t.outcome with
  | .loaded rows batches =>
    "✓ " ++ t.table ++ " " ++ toString rows ++ " rows in " ++ toString batches ++ " batch(es)"
  | .noData => "– " ++ t.table ++ " no data, table removed"
  | .failed rows error =>
    "✗ " ++ t.table ++ " failed after " ++ toString rows ++ " rows: " ++ error

/-- What became of every table, in lines. -/
def reportLines (martPath : String) (r : RunReport) : List String :=
  [""] ++ r.tables.map tableLine ++
    ["", toString r.totalRows ++ " row(s) loaded into " ++ martPath]

/-- The files without an old mart, and what is said about its removal. The mart is the one that the
system finds under the path; if it finds none, all files stay. -/
def removeOld (files : Files) (path : String) : Except Failure (Files × List String) :=
  match files.look path with
  | .error _ => .ok (files, [])
  | .ok .directory => .error (.removing path Files.SystemError.isDirectory.message)
  | .ok (.file _) => .ok (files.remove path, ["✓ Removed old mart " ++ path])

/-- Fill the mart from the source at an address. -/
def load (w : World) (c : Config) (url : String) (files : Files) (said : List String) : Outcome :=
  let built := do
    let pipeline ← Pipeline.ofChunk c.chunk
    pipeline.build (Postgres.connectorAt url) (c.layout.tableSpecs c.flattenPolicy) c.martPath
      ({ server := w.server } : Postgres.Session) files
  match built with
  | .error f => { out := said, failure := some (.fault f), files := files }
  | .ok b => {
      out := said ++ reportLines c.martPath b.report
      failure := if b.report.hasFailures then some .tablesFailed else none
      files := b.files
      log := b.outside.log }

/-- Build the mart. With `fresh` an old one is removed first. -/
def etl (w : World) (c : Config) (fresh : Bool) : Outcome :=
  match c.databaseUrl with
  | none => { failure := some .noDatabase, files := w.files }
  | some url =>
    match if fresh then removeOld w.files c.martPath else .ok (w.files, []) with
    | .error f => { failure := some f, files := w.files }
    | .ok (files, said) => load w c url files said

/-! ## Commands -/

/-- The settings that arguments and environment make on top of the file. -/
def Invocation.settings (i : Invocation) : List Setting :=
  (i.databaseUrl.map Setting.database).toList ++ (i.mart.map Setting.mart).toList ++
    match i.command with
    | .etl _ chunk layout => (chunk.map Setting.chunk).toList ++ (layout.map Setting.layout).toList
    | _ => []

/-- Follow a command line that was understood. -/
def follow (w : World) (i : Invocation) : Outcome :=
  match Config.load w.files i.config w.standardConfig with
  | .error p => { failure := some (.config p), files := w.files }
  | .ok loaded =>
    let c := loaded.setAll i.settings
    let answer (plan : Except Failure Select) (dryRun : Bool) (format : Format) : Outcome :=
      match plan with
      | .error f => { failure := some f, files := w.files }
      | .ok q => execute w.files c.martPath q dryRun format
    match i.command with
    | .etl fresh _ _ =>
      match c.validate with
      | .error f => { failure := some (.fault f), files := w.files }
      | .ok c => etl w c fresh
    | .query request table dryRun format =>
      answer (requestPlan w.files c request table) dryRun format
    | .report name args dryRun format => answer (reportPlan name args) dryRun format
    | .reports => { out := catalogLines, files := w.files }

/-- The files that a command line may look at or change, as far as they can be told: those of the
configuration first, and once these are there the request's and the mart. -/
def filesOf (w : World) (args : List String) : List String :=
  match Invocation.ofArguments w.environment args with
  | .error _ => []
  | .ok i =>
    let configs := i.config.toList ++ w.standardConfig.toList
    match Config.load w.files i.config w.standardConfig with
    | .error _ => configs
    | .ok c =>
      let requests := match i.command with
        | .query request _ _ _ => [String.ofList (request.toList.drop 1)]
        | _ => []
      configs ++ requests ++ [(c.setAll i.settings).martPath]

/-- Run a command line. -/
def run (w : World) (args : List String) : Outcome :=
  match Invocation.ofArguments w.environment args with
  | .ok i => follow w i
  | .error r =>
    let out := match r with
      | .version => [versionText]
      | .help => [helpText]
      | .usage _ => []
    { out := out, failure := some (.refused r), files := w.files }

end DataMart.CommandLine
