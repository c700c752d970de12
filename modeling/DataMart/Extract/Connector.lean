import DataMart.Extract.Memory
import DataMart.Store.Writer

/-!
# Connectors

A `Connector` opens a source for a query; one source is open at a time. While rows move, two things
change: what the connector knows outside the mart, and the mart, which a source may touch over a
connection of its own. Both together are a `Scene`. What the mart holds does not lengthen a source.
-/

namespace DataMart

/-- What changes while rows move: things outside the mart, and the mart. -/
structure Scene (ω : Type) where
  outside : ω
  mart : Mart

/-- Opens a source for a query, and drives the one that is open. -/
structure Connector (ω : Type) where
  /-- Open the source of a query in place of the one before. -/
  connect : String → ω → Except Fault Unit × ω
  /-- The source that is open. -/
  source : Source (Scene ω)
  left_mart : ∀ (s : Scene ω) (m : Mart), source.left { s with mart := m } = source.left s

namespace Source

/-- A source that knows of no mart, beside one that it leaves alone. -/
def beside {ω : Type} (src : Source ω) : Source (Scene ω) where
  fetch n s :=
    let (answer, o) := src.fetch n s.outside
    (answer, { s with outside := o })
  close s :=
    let (answer, o) := src.close s.outside
    (answer, { s with outside := o })
  left s := src.left s.outside
  left_fetch h hb := src.left_fetch h hb

end Source

namespace Connector

/-- A connector whose sources know of no mart. -/
def ofSource {ω : Type} (connect : String → ω → Except Fault Unit × ω) (src : Source ω) :
    Connector ω where
  connect := connect
  source := src.beside
  left_mart _ _ := rfl

/-- Fixed tables in memory; the state is the rows of the table that is open. -/
def ofTables (m : MemoryTables) : Connector MemoryRows := ofSource m.connect MemoryRows.source

end Connector

end DataMart
