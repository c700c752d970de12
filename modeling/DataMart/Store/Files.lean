import DataMart.Store.Writer

/-!
# Files

The files that a run may look at or change. A file holds text, a mart or other bytes; an empty file
is a mart without tables. A place is given by the names that lead to it from the root, and a place
is a directory if it is listed as one, or leads to one or to a file.

A path spells a place, but not everyone gets there. The system stands in a directory before it takes
the next part, so that `m.db/` and `no/../m.db` lead it nowhere, where `m.db` is a file and `no` is
not there. The engine goes by the spelling: it opens `m.db` under all of these.
-/

namespace DataMart

/-- What a file holds. -/
inductive Content where
  | text (s : String)
  | mart (m : Mart)
  /-- Neither text nor a mart. -/
  | bytes

/-- The mart that the engine reads from a file; an empty file is one without tables. -/
def Content.mart? : Content → Option Mart
  | text s => if s = "" then some {} else none
  | mart m => some m
  | bytes => none

/-- The files of a run. -/
structure Files where
  entries : List (List String × Content) := []
  /-- Directories that are there whether or not a file lies below them. -/
  directories : List (List String) := []
  /-- The directory from which paths are taken that do not start at the root. -/
  base : List String := []

namespace Files

/-! ## Places -/

/-- What stands at a place. -/
inductive Node where
  | directory
  | file (c : Content)

/-- Whether a place leads to a directory that is there for itself, or to a file below it. -/
def leadsOn (fs : Files) (place : List String) : Bool :=
  (fs.base :: fs.directories ++ fs.entries.map (·.1.dropLast)).any place.isPrefixOf

/-- What stands at a place, if anything does. -/
def node? (fs : Files) (place : List String) : Option Node :=
  match fs.entries.lookup place with
  | some c => some (.file c)
  | none => if fs.leadsOn place then some .directory else none

/-- Whether a file stands at a place. -/
def holdsFile (fs : Files) (place : List String) : Bool :=
  match fs.node? place with
  | some (.file _) => true
  | _ => false

/-! ## Paths -/

/-- Some characters cut at every slash. -/
def pieces : List Char → List (List Char)
  | [] => [[]]
  | c :: rest =>
    if c = '/' then [] :: pieces rest
    else
      match pieces rest with
      | [] => [[c]]
      | p :: ps => (c :: p) :: ps

/-- The parts of a path. A slash at its end leaves an empty part behind. -/
def parts (path : String) : List String := (pieces path.toList).map String.ofList

/-- Whether a path starts at the root. -/
def isAbsolute (path : String) : Bool := path.toList.head? == some '/'

/-- Whether a part is the name of something in a directory. -/
def isName (part : String) : Bool := part ≠ "" && part ≠ "." && part ≠ ".."

/-- The place that a part leads to from another. -/
def next (place : List String) (part : String) : List String :=
  if isName part then place ++ [part] else if part = ".." then place.dropLast else place

/-- Where a path starts. -/
def start (fs : Files) (path : String) : List String := if isAbsolute path then [] else fs.base

/-- The place that a path spells. -/
def spelled (fs : Files) (path : String) : List String :=
  (parts path).foldl next (fs.start path)

/-- Whether a text has a NUL character, which no name of a file has. -/
def hasNul (path : String) : Bool := path.toList.contains (Char.ofNat 0)

/-! ## What the system does -/

/-- What the system says of a path. -/
inductive SystemError where
  | missing
  | notDirectory
  | isDirectory
  | innerNul
  | notText

/-- The text of what the system says. -/
def SystemError.message : SystemError → String
  | missing => "No such file or directory (os error 2)"
  | notDirectory => "Not a directory (os error 20)"
  | isDirectory => "Is a directory (os error 21)"
  | innerNul => "file name contained an unexpected NUL byte"
  | notText => "stream did not contain valid UTF-8"

/-- What stops the system on its way along some parts: each is taken in a directory, the empty one
behind a slash too. -/
def obstacle? (fs : Files) (place : List String) : List String → Option SystemError
  | [] => none
  | part :: rest =>
    match fs.node? place with
    | some .directory => obstacle? fs (next place part) rest
    | some (.file _) => some .notDirectory
    | none => some .missing

/-- What the system finds under a path. -/
def look (fs : Files) (path : String) : Except SystemError Node :=
  if path = "" then .error .missing
  else if hasNul path then .error .innerNul
  else
    match fs.obstacle? (fs.start path) (parts path) with
    | some e => .error e
    | none =>
      match fs.node? (fs.spelled path) with
      | some node => .ok node
      | none => .error .missing

/-- Whether the system finds a file or a directory under a path. -/
def pathExists (fs : Files) (path : String) : Bool :=
  match fs.look path with
  | .ok _ => true
  | .error _ => false

/-- The text of the file that the system finds under a path. -/
def readText (fs : Files) (path : String) : Except SystemError String :=
  match fs.look path with
  | .error e => .error e
  | .ok .directory => .error .isDirectory
  | .ok (.file (.text s)) => .ok s
  | .ok (.file _) => .error .notText

/-- The files with one more, in place of the one at the place that its path spells. -/
def put (fs : Files) (path : String) (c : Content) : Files :=
  let place := fs.spelled path
  { fs with entries := (place, c) :: fs.entries.filter fun e => e.1 ≠ place }

/-- The files without one; the directory that it lay in stays. -/
def remove (fs : Files) (path : String) : Files :=
  let place := fs.spelled path
  { fs with
    entries := fs.entries.filter fun e => e.1 ≠ place
    directories := place.dropLast :: fs.directories }

/-! ## What the engine does -/

/-- Whether the engine takes a path for the name of a file. The empty path and `:memory:` mean a
mart that no file keeps, and what starts with `file:` is an address, which leads elsewhere. -/
def namesFile (path : String) : Bool :=
  path ≠ "" && path ≠ ":memory:" && !"file:".toList.isPrefixOf path.toList

/-- Whether the engine is stopped on its way along some parts: a name is looked for below a file.
Of a directory that is not there it takes no notice. -/
def barred (fs : Files) (place : List String) : List String → Bool
  | [] => false
  | part :: rest => isName part && fs.holdsFile place || barred fs (next place part) rest

/-- What the engine finds under a path, if it gets to the place that the path spells. -/
def reach (fs : Files) (path : String) : Except EngineError (Option Node) :=
  if fs.barred (fs.start path) (parts path) then .error .cannotOpen
  else .ok (fs.node? (fs.spelled path))

/-- What is said of a path with a NUL character, which is not handed to the engine. -/
def nulText : String :=
  "error communicating with database: filename passed to SQLite must not contain nul bytes"

/-- Open the mart under a path for writing, creating the file if need be. A path that names no file
gives a mart that no file under it keeps. -/
def openWriter (fs : Files) (path : String) : Except Fault (Session × Files) :=
  let refuse (text : String) : Except Fault (Session × Files) :=
    .error (.destinationUnavailable (path ++ ": " ++ text))
  if hasNul path then refuse nulText
  else if !namesFile path then .ok ({}, fs)
  else
    match fs.reach path with
    | .error e => refuse e.message
    | .ok (some .directory) => refuse EngineError.cannotOpen.message
    | .ok (some (.file c)) =>
      match c.mart? with
      | some m => .ok ({ mart := m }, fs)
      | none => refuse EngineError.notADatabase.message
    | .ok none =>
      match fs.node? (fs.spelled path).dropLast with
      | some .directory => .ok ({}, fs.put path (.text ""))
      | _ => refuse EngineError.cannotOpen.message

/-- Keep what a session has written that was opened under a path. -/
def keep (fs : Files) (path : String) (s : Session) : Files :=
  if !namesFile path then fs
  else
    match fs.node? (fs.spelled path), s.mart.tables with
    | some (.file (.text _)), [] => fs
    | _, _ => fs.put path (.mart s.mart)

/-- The mart in the file at the place that a path spells. -/
def martUnder (fs : Files) (path : String) : Option Mart :=
  match fs.node? (fs.spelled path) with
  | some (.file c) => c.mart?
  | _ => none

/-- Open the mart under a path for reading; the system has to find something there. Whether a file is
a mart shows only when it is read. -/
def openReader (fs : Files) (path : String) : Except Fault (Except EngineError Mart) :=
  if !fs.pathExists path then
    .error (.destinationUnavailable
      ("mart file '" ++ path ++ "' does not exist; run the ETL first"))
  else if !namesFile path then .ok (.ok {})
  else
    match fs.reach path with
    | .error e => .ok (.error e)
    | .ok none => .ok (.error .cannotOpen)
    | .ok (some .directory) => .ok (.error .diskError)
    | .ok (some (.file c)) =>
      match c.mart? with
      | some m => .ok (.ok m)
      | none => .ok (.error .notADatabase)

/-- Under a path the system finds whatever file the engine opens there. -/
def Sees (fs : Files) (path : String) : Prop :=
  fs.holdsFile (fs.spelled path) = true → fs.pathExists path = true

instance (fs : Files) (path : String) : Decidable (fs.Sees path) :=
  inferInstanceAs (Decidable (_ → _))

end Files

end DataMart
