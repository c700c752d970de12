import DataMart.Extract.Source

/-!
# Rows in memory

A source over rows that are already there, and fixed tables of such rows under the text of the query
that asks for them.
-/

namespace DataMart

/-- Rows that were not handed out yet. -/
structure MemoryRows where
  columns : List Column
  rows : List (List Value)

namespace MemoryRows

/-- The next rows. They are checked against the columns only now, and are gone even if they do not
fit. -/
def fetch (n : Nat) (s : MemoryRows) : Except Fault Batch × MemoryRows :=
  let taken := s.rows.take n
  let s' := { s with rows := s.rows.drop n }
  if taken.isEmpty then (.ok .empty, s') else (Batch.ofRows s.columns taken, s')

/-- A fetch that gives rows leaves fewer. -/
theorem length_fetch_lt {n : Nat} {s : MemoryRows} {b : Batch} (h : (s.fetch n).1 = .ok b)
    (hb : b.isEmpty = false) : (s.fetch n).2.rows.length < s.rows.length := by
  have htake : (s.rows.take n).isEmpty = false := by
    unfold fetch at h
    cases ht : (s.rows.take n).isEmpty with
    | false => rfl
    | true =>
      simp only [ht, if_true] at h
      cases h
      simp [Batch.isEmpty, Batch.empty] at hb
  have hlen : 0 < (s.rows.take n).length := by
    rw [List.isEmpty_eq_false_iff] at htake
    exact List.length_pos_iff.2 htake
  have hdrop : (s.fetch n).2.rows = s.rows.drop n := by
    simp only [fetch]
    split <;> rfl
  rw [hdrop]
  simp only [List.length_take, List.length_drop] at hlen ⊢
  omega

/-- Rows in memory as a source. -/
def source : Source MemoryRows where
  fetch n s := s.fetch n
  close s := (.ok (), s)
  left s := s.rows.length
  left_fetch h hb := length_fetch_lt h hb

end MemoryRows

/-- Tables in memory, by query text, or nothing that can be reached. -/
structure MemoryTables where
  tables : List (String × MemoryRows) := []
  available : Bool := true

/-- The rows that a query asks for. A later table replaces an earlier one of the same query. -/
def MemoryTables.rowsOf (m : MemoryTables) (query : String) : Except Fault MemoryRows :=
  if !m.available then .error (.sourceUnavailable "connection refused")
  else
    match m.tables.reverse.lookup query with
    | some rows => .ok rows
    | none => .error (.sourceQuery ("relation for query '" ++ query ++ "' does not exist"))

/-- Open the rows that a query asks for. -/
def MemoryTables.connect (m : MemoryTables) (query : String) (s : MemoryRows) :
    Except Fault Unit × MemoryRows :=
  match m.rowsOf query with
  | .ok rows => (.ok (), rows)
  | .error e => (.error e, s)

end DataMart
