import DataMart.CommandLine.Run

/-!
# The program

Reads the files and the environment that a command line needs, runs it, and writes back what it
changed. No database server can be reached from here, so that a build reports every table as failed
and leaves a mart without tables.
-/

namespace DataMart.CommandLine

/-- What is said of every server. -/
def offline : Postgres.Server := { networkFault := some "Network is unreachable (os error 101)" }

/-- Whether a path names a directory. -/
def isDirectory (path : String) : IO Bool := do
  try
    let real ← IO.FS.realPath path
    real.isDir
  catch _ => return false

/-- The path of a place. -/
def pathOf (place : List String) : String := "/" ++ Text.joinWith "/" place

/-- The places that a path leads through, with the directory that each lies in. -/
def placesOn (files : Files) (path : String) : List (List String) :=
  let places := (Files.parts path).foldl
    (fun passed part => Files.next (passed.headD []) part :: passed) [files.start path]
  places.flatMap fun place => [place.dropLast, place]

/-- The files with what stands at one more place. -/
def lookAt (files : Files) (place : List String) : IO Files := do
  let path := pathOf place
  if ← isDirectory path then return { files with directories := place :: files.directories }
  try
    let bytes ← IO.FS.readBinFile path
    match String.fromUTF8? bytes with
    | some text => return files.put path (.text text)
    | none => return files.put path .bytes
  catch _ => return files

/-- The files with what stands on the way of one more path. -/
def look (files : Files) (path : String) : IO Files := (placesOn files path).foldlM lookAt files

/-- Make the place that a path spells be on disk what it is after a run. -/
def writeBack (before after : Files) (path : String) : IO Unit := do
  let place := before.spelled path
  let path := pathOf place
  match before.node? place, after.node? place with
  | none, some (.file _) => IO.FS.writeFile path ""
  | some (.file _), none => IO.FS.removeFile path
  | some (.file (.text old)), some (.file (.text new)) =>
    if old ≠ new then IO.FS.writeFile path new
  | some (.file .bytes), some (.file (.text new)) => IO.FS.writeFile path new
  | _, _ => return

end DataMart.CommandLine

open DataMart CommandLine

/-- Run the program on the arguments of its command line. -/
def main (args : List String) : IO UInt32 := do
  let environment := ⟨← IO.getEnv "DATABASE_URL", ← IO.getEnv "SALESMART_MART"⟩
  let standard := standardConfig (← IO.getEnv "XDG_CONFIG_HOME") (← IO.getEnv "HOME")
  let base := (Files.parts (← IO.currentDir).toString).filter Files.isName
  let empty : World := ⟨{ base := base }, environment, standard, offline⟩
  let first ← (filesOf empty args).foldlM look empty.files
  let paths := filesOf { empty with files := first } args
  let files ← paths.foldlM look empty.files
  let outcome := run { empty with files := files } args
  paths.forM (writeBack files outcome.files)
  IO.print outcome.stdout
  IO.eprint outcome.stderr
  return outcome.exit.toUInt32
