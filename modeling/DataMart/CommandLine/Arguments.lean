import DataMart.Config
import DataMart.Query.Report

/-!
# Arguments of the command line

The arguments name one command, its operand if it takes one, and options. An option is written in
full behind two dashes, or by its letter behind one; a value follows as the next argument or behind
an equals sign, and behind a letter also directly. Letters of options without values may stand
together. Two dashes alone end the options. An option is given once, its value has to be one that
it can have, and a value given as the next argument does not start with a dash.

Three options may also stand before the command. Given on both sides of it, the later one counts; two
of them fall back on the environment.
-/

namespace DataMart.CommandLine

/-! ## Options -/

/-- An option. -/
inductive Opt where
  | config
  | databaseUrl
  | mart
  | version
  | help
  | fresh
  | chunkSize
  | layout
  | table
  | dryRun
  | format
  | month
  | ascending
  deriving DecidableEq, Repr

/-- How a result is written. -/
inductive Format where
  | table
  | json
  deriving DecidableEq, Repr

/-- The way of writing that a value names. -/
def Format.ofName? : String → Option Format
  | "table" => some table
  | "json" => some json
  | _ => none

/-- A number of rows in decimal, a plus sign allowed, below 2^64. -/
def rowCount? (s : String) : Option Nat :=
  let digits := match s.toList with
    | '+' :: ds => ds
    | ds => ds
  if digits.isEmpty || !digits.all Char.isDigit then none
  else
    let n := Decimal.number digits
    if n < Word.unsignedEnd then some n else none

/-- The tables that a query may ask. -/
def queryTables : List String := [salesTable, productSalesTable, salesMartTable]

namespace Opt

/-- The full name of an option. -/
def long : Opt → String
  | config => "config"
  | databaseUrl => "database-url"
  | mart => "mart"
  | version => "version"
  | help => "help"
  | fresh => "fresh"
  | chunkSize => "chunk-size"
  | layout => "layout"
  | table => "table"
  | dryRun => "dry-run"
  | format => "format"
  | month => "month"
  | ascending => "ascending"

/-- The letter of an option. -/
def short? : Opt → Option Char
  | version => some 'V'
  | help => some 'h'
  | dryRun => some 'd'
  | format => some 'f'
  | _ => none

/-- Whether an option takes a value. -/
def takesValue : Opt → Bool
  | version => false
  | help => false
  | fresh => false
  | dryRun => false
  | ascending => false
  | _ => true

/-- Whether an option may have a value. Paths are not empty. -/
def accepts (o : Opt) (v : String) : Bool :=
  match o with
  | config => v ≠ ""
  | mart => v ≠ ""
  | chunkSize => (rowCount? v).isSome
  | layout => (Config.layout? v).isSome
  | table => queryTables.contains v
  | format => (Format.ofName? v).isSome
  | _ => true

/-- The options that may stand on either side of the command. -/
def shared : List Opt := [config, databaseUrl, mart, help]

end Opt

/-! ## Commands -/

/-- The name of a command. -/
inductive Verb where
  | etl
  | query
  | report
  | reports
  deriving DecidableEq, Repr

namespace Verb

/-- Every command. -/
def all : List Verb := [etl, query, report, reports]

/-- A command as it is written. -/
def name : Verb → String
  | etl => "etl"
  | query => "query"
  | report => "report"
  | reports => "reports"

/-- The options of a command, besides the shared ones. -/
def options : Verb → List Opt
  | etl => [.fresh, .chunkSize, .layout]
  | query => [.table, .dryRun, .format]
  | report => [.month, .ascending, .dryRun, .format]
  | reports => []

/-- How many operands a command takes. -/
def operands : Verb → Nat
  | query => 1
  | report => 1
  | _ => 0

end Verb

/-- What is to be done. -/
inductive Command where
  /-- Build the mart. -/
  | etl (fresh : Bool) (chunk : Option Nat) (layout : Option Layout)
  /-- Answer a request, given in JSON or as the name of a file behind an `@`. -/
  | query (request table : String) (dryRun : Bool) (format : Format)
  /-- Answer a report of the catalog. -/
  | report (name : String) (args : ReportArgs) (dryRun : Bool) (format : Format)
  /-- List the catalog. -/
  | reports

/-- What a command line asks for. -/
structure Invocation where
  config : Option String := none
  databaseUrl : Option String := none
  mart : Option String := none
  command : Command

/-- Why a command line is not followed. -/
inductive Refusal where
  /-- It asks for the version only. -/
  | version
  /-- It asks for help only. -/
  | help
  /-- It is not one that can be understood. -/
  | usage (reason : String)
  deriving DecidableEq, Repr

/-! ## Reading -/

/-- What was given so far on one side of the command. -/
structure Given where
  options : List (Opt × String) := []
  operands : List String := []

namespace Given

/-- The value of an option. -/
def value? (g : Given) (o : Opt) : Option String := g.options.lookup o

/-- Whether an option was given. -/
def has (g : Given) (o : Opt) : Bool := (g.value? o).isSome

/-- Take in an option with its value, empty for one that has none. -/
def take (g : Given) (o : Opt) (v : String) : Except Refusal Given :=
  if o = .version then .error .version
  else if o = .help then .error .help
  else if g.has o then .error (.usage ("--" ++ o.long ++ " is given twice"))
  else if !o.accepts v then .error (.usage ("--" ++ o.long ++ " cannot be '" ++ v ++ "'"))
  else .ok { g with options := g.options ++ [(o, v)] }

/-- Take in operands, of which there may be `most`. -/
def takeOperands (g : Given) (most : Nat) (vs : List String) : Except Refusal Given :=
  if most < g.operands.length + vs.length then .error (.usage "there is an argument too many")
  else .ok { g with operands := g.operands ++ vs }

end Given

/-- The options and operands that one side of the command may have. -/
structure Grammar where
  options : List Opt
  /-- The commands that end this side. -/
  verbs : List Verb := []
  operands : Nat := 0

namespace Grammar

/-- In front of the command. -/
def before : Grammar := { options := .version :: Opt.shared, verbs := Verb.all }

/-- Behind a command. -/
def behind (v : Verb) : Grammar := { options := v.options ++ Opt.shared, operands := v.operands }

/-- Letters behind one dash. An option that takes a value takes what follows it, or else is left
waiting for it. -/
def letters (gr : Grammar) (g : Given) : List Char → Except Refusal (Given × Option Opt)
  | [] => .ok (g, none)
  | c :: rest =>
    match gr.options.find? fun o => o.short? == some c with
    | none => .error (.usage ("there is no option -" ++ String.ofList [c]))
    | some o =>
      if o.takesValue then
        match rest with
        | [] => .ok (g, some o)
        | '=' :: v => (g.take o (String.ofList v)).map fun g => (g, none)
        | v => (g.take o (String.ofList v)).map fun g => (g, none)
      else
        match g.take o "" with
        | .error e => .error e
        | .ok g => letters gr g rest

/-- A full name behind two dashes, with a value behind an equals sign or without. -/
def fullName (gr : Grammar) (g : Given) (s : List Char) : Except Refusal (Given × Option Opt) :=
  let name := s.takeWhile (· ≠ '=')
  match gr.options.find? fun o => o.long.toList == name, s.dropWhile (· ≠ '=') with
  | none, _ => .error (.usage ("there is no option --" ++ String.ofList name))
  | some o, _ :: v =>
    if o.takesValue then (g.take o (String.ofList v)).map fun g => (g, none)
    else .error (.usage ("--" ++ o.long ++ " takes no value"))
  | some o, [] =>
    if o.takesValue then .ok (g, some o) else (g.take o "").map fun g => (g, none)

/-- Read arguments up to the command or to their end; `waiting` is an option whose value comes
next. Gives what was given, and the command with the arguments behind it. -/
def read (gr : Grammar) : (waiting : Option Opt) → Given → List String →
    Except Refusal (Given × Option (Verb × List String))
  | none, g, [] => .ok (g, none)
  | some o, _, [] => .error (.usage ("--" ++ o.long ++ " needs a value"))
  | waiting, g, arg :: rest =>
    match waiting, arg.toList with
    | some o, '-' :: _ :: _ => .error (.usage ("--" ++ o.long ++ " needs a value"))
    | some o, _ =>
      match g.take o arg with
      | .error e => .error e
      | .ok g => gr.read none g rest
    | none, ['-', '-'] => (g.takeOperands gr.operands rest).map fun g => (g, none)
    | none, '-' :: '-' :: name =>
      match gr.fullName g name with
      | .error e => .error e
      | .ok (g, waiting) => gr.read waiting g rest
    | none, '-' :: c :: cs =>
      match gr.letters g (c :: cs) with
      | .error e => .error e
      | .ok (g, waiting) => gr.read waiting g rest
    | none, _ =>
      match gr.verbs.find? fun v => v.name == arg with
      | some v => .ok (g, some (v, rest))
      | none =>
        match g.takeOperands gr.operands [arg] with
        | .error e => .error e
        | .ok g => gr.read none g rest

end Grammar

/-! ## Understanding -/

/-- What the environment says for options that were not given. -/
structure Environment where
  databaseUrl : Option String := none
  mart : Option String := none

/-- The value of a shared option: the one behind the command, else the one before it, else the
environment's. The environment is not looked at if both sides have the option, and else has to
hold a value that the option can have. -/
def sharedValue (o : Opt) (before behind : Given) (fallback : Option String) :
    Except Refusal (Option String) :=
  match behind.value? o, before.value? o with
  | some v, some _ => .ok (some v)
  | inner, outer =>
    if fallback.all o.accepts then .ok ((inner.orElse fun _ => outer).orElse fun _ => fallback)
    else .error (.usage ("the environment has no value for --" ++ o.long))

/-- The command that the arguments behind its name ask for. -/
def Command.ofGiven (v : Verb) (g : Given) : Except Refusal Command :=
  let format := ((g.value? .format).bind Format.ofName?).getD .table
  match v, g.operands with
  | .etl, _ =>
    .ok (.etl (g.has .fresh) ((g.value? .chunkSize).bind rowCount?)
      ((g.value? .layout).bind Config.layout?))
  | .query, [request] =>
    .ok (.query request ((g.value? .table).getD salesTable) (g.has .dryRun) format)
  | .report, [name] =>
    .ok (.report name ⟨g.value? .month, g.has .ascending⟩ (g.has .dryRun) format)
  | .reports, _ => .ok .reports
  | v, _ => .error (.usage ("'" ++ v.name ++ "' needs an argument"))

/-- What a command line asks for. -/
def Invocation.ofArguments (env : Environment) (args : List String) : Except Refusal Invocation :=
  match Grammar.before.read none {} args with
  | .error e => .error e
  | .ok (_, none) => .error (.usage "there is no command")
  | .ok (before, some (v, rest)) => do
    let (behind, _) ← (Grammar.behind v).read none {} rest
    let command ← Command.ofGiven v behind
    let config ← sharedValue .config before behind none
    let databaseUrl ← sharedValue .databaseUrl before behind env.databaseUrl
    let mart ← sharedValue .mart before behind env.mart
    return ⟨config, databaseUrl, mart, command⟩

end DataMart.CommandLine
