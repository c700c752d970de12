import DataMart.Fault
import DataMart.Query.Statement
import DataMart.Store.Mart

/-!
# Connections

A `Session` is what a writing connection sees: the mart, and the staging relation while there is one.
`Work` is done on a `Connection` by statements, each of which may fail. The engine has something
against some of them by itself; what else goes wrong is a `Trouble`, which is asked before every
statement.

A statement that fails inside a transaction may leave anything of the session behind; one outside is
undone by the engine. A transaction (`transact`) goes back to the session that it was begun with if
its work fails or cannot be committed.
-/

namespace DataMart

/-- What a writing connection sees of a mart. -/
structure Session where
  mart : Mart := {}
  staging : Option Table := none

namespace Session

/-- The table that an unqualified name means: the staging relation goes before the mart's tables. -/
def resolve? (s : Session) (name : String) : Option Table :=
  match s.staging with
  | some t => if Text.sameName t.name name then some t else s.mart.table? name
  | none => s.mart.table? name

end Session

/-- A connection in the course of its work. -/
structure Connection where
  session : Session
  /-- The session that a rollback goes back to, inside a transaction. -/
  begun : Option Session := none
  /-- What has been asked for, in order. -/
  issued : List Statement := []

/-- A statement that failed, with what it left of the session. -/
structure Failure where
  reason : String
  left : Session

/-- What goes wrong with statements beside what the engine has against them by itself: the disk may be
full, the file locked, a limit reached. It may depend on all that was done before. -/
def Trouble : Type := Connection → Statement → Option Failure

/-- Nothing goes wrong. -/
def Trouble.never : Trouble := fun _ _ => none

/-- Work on a connection, up to the first fault. -/
abbrev Work (α : Type) : Type := ExceptT Fault (StateM Connection) α

namespace Connection

/-- Ask for a statement. -/
def ask (c : Connection) (statement : Statement) : Connection :=
  { c with issued := c.issued ++ [statement] }

/-- After a statement that failed. -/
def fail (c : Connection) (failure : Failure) : Connection :=
  match c.begun with
  | some _ => { c with session := failure.left }
  | none => c

/-- Begin a transaction. -/
def start (c : Connection) : Connection := { c with begun := some c.session }

/-- Keep what a transaction has done. -/
def keep (c : Connection) : Connection := { c with begun := none }

/-- Undo what a transaction has done. -/
def rollback (c : Connection) : Connection :=
  { c.ask ⟨"ROLLBACK", []⟩ with session := c.begun.getD c.session, begun := none }

end Connection

namespace Work

variable {α : Type} (trouble : Trouble) (table : String)

/-- Ask for a statement on behalf of a table. -/
def issue (statement : Statement) : Work Unit :=
  ExceptT.mk fun c =>
    match trouble c statement with
    | none => (.ok (), c.ask statement)
    | some failure => (.error (.load table failure.reason), (c.ask statement).fail failure)

/-- Have a statement executed, with what the engine makes of the session. -/
def execute (statement : Statement) (effect : Session → Except EngineError (α × Session)) :
    Work α := do
  issue trouble table statement
  let c ← get
  match effect c.session with
  | .ok (a, s) =>
    set { c with session := s }
    return a
  | .error e => throw (.load table e.message)

/-- Have a statement executed that has no answer. -/
def perform (statement : Statement) (effect : Session → Except EngineError Session) : Work Unit :=
  execute trouble table statement fun s => (effect s).map ((), ·)

/-- Do some work in a transaction. -/
def transact (work : Work α) : Work α := do
  issue trouble table ⟨"BEGIN", []⟩
  modify Connection.start
  tryCatch
    (do
      let a ← work
      issue trouble table ⟨"COMMIT", []⟩
      modify Connection.keep
      return a)
    fun fault => do
      modify Connection.rollback
      throw fault

/-- What some work comes to, and the session after it. -/
def on (work : Work α) (s : Session) : Except Fault α × Session :=
  let (result, c) := work { session := s }
  (result, c.session)

end Work

end DataMart
