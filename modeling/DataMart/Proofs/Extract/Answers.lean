import DataMart.Proofs.Extract.Drain

/-!
# Connectors that answer by the query

What a connector answers may depend on what it answered before, and on what it finds in the mart. If
it depends on the query alone (`Connector.AnswersByQuery`), every opening of a query is as good as
every other: `opens` says what opening gives, and `answers` what the fetches after it give, whatever
is written to the mart between them.

* `Connector.Follows.fetch`: a fetch gives the first of the answers that are to come, and the others
  are still to come.
* `answersByQuery_ofSource`: for sources that know of no mart it is enough to look at their own
  answers; `answersByQuery_ofTables` does so for tables in memory.
-/

namespace DataMart

namespace Connector

variable {ω : Type}

/-- What is outside after so many fetches of `n` rows, if the fetch number `k` finds the mart
`marts k`. -/
def outsideAfter (c : Connector ω) (n : Nat) (marts : Nat → Mart) (o : ω) : Nat → ω
  | 0 => o
  | k + 1 => (c.source.fetch n ⟨c.outsideAfter n marts o k, marts k⟩).2.outside

/-- The answer to the fetch number `k`. -/
def answer (c : Connector ω) (n : Nat) (marts : Nat → Mart) (o : ω) (k : Nat) :
    Except Fault Batch :=
  (c.source.fetch n ⟨c.outsideAfter n marts o k, marts k⟩).1

/-- Fetches of `n` rows are answered with `f 0`, `f 1` and so on, whatever the mart holds. -/
def Follows (c : Connector ω) (n : Nat) (o : ω) (f : Nat → Except Fault Batch) : Prop :=
  ∀ marts k, c.answer n marts o k = f k

/-- What a query is answered depends on the query alone: opening it gives `opens query`, and if that
is no fault, fetches of `n` rows give `answers query`. -/
structure AnswersByQuery (c : Connector ω) (n : Nat) (opens : String → Except Fault Unit)
    (answers : String → Nat → Except Fault Batch) : Prop where
  opened : ∀ query o, (c.connect query o).1 = opens query
  fetched : ∀ query o, opens query = .ok () → c.Follows n (c.connect query o).2 (answers query)

variable {c : Connector ω} {n : Nat} {o : ω} {f : Nat → Except Fault Batch}

/-- Fetches after the first are fetches from the second state. -/
theorem outsideAfter_succ (c : Connector ω) (n : Nat) (marts : Nat → Mart) (o : ω) (k : Nat) :
    c.outsideAfter n marts o (k + 1) =
      c.outsideAfter n (fun j => marts (j + 1)) (c.source.fetch n ⟨o, marts 0⟩).2.outside k := by
  induction k with
  | zero => rfl
  | succ k ih => rw [outsideAfter, ih, outsideAfter]

/-- One answer is given, and the others are still to come. -/
theorem Follows.fetch (h : c.Follows n o f) (m : Mart) :
    (c.source.fetch n ⟨o, m⟩).1 = f 0 ∧
      c.Follows n (c.source.fetch n ⟨o, m⟩).2.outside fun k => f (k + 1) := by
  constructor
  · exact h (fun _ => m) 0
  · intro marts k
    -- the marts that are found from the first fetch on
    have hk := h (fun j => match j with
      | 0 => m
      | j + 1 => marts j) (k + 1)
    rw [answer, outsideAfter_succ] at hk
    exact hk

/-! ## Sources that know of no mart -/

/-- Beside the mart, a source is in the states that it is in by itself. -/
theorem outsideAfter_ofSource (connect : String → ω → Except Fault Unit × ω) (src : Source ω)
    (n : Nat) (marts : Nat → Mart) (o : ω) (k : Nat) :
    (ofSource connect src).outsideAfter n marts o k = src.after n o k := by
  induction k with
  | zero => rfl
  | succ k ih =>
      rw [outsideAfter, ih]
      rfl

/-- Sources that know of no mart answer by the query if their own answers do not depend on what was
before. -/
theorem answersByQuery_ofSource {connect : String → ω → Except Fault Unit × ω} {src : Source ω}
    {opens : String → Except Fault Unit} {answers : String → Nat → Except Fault Batch}
    (hopen : ∀ query o, (connect query o).1 = opens query)
    (hanswer : ∀ query o, opens query = .ok () → ∀ k,
      src.answer n (connect query o).2 k = answers query k) :
    (ofSource connect src).AnswersByQuery n opens answers where
  opened := hopen
  fetched query o hok marts k := by
    rw [answer, outsideAfter_ofSource]
    exact hanswer query o hok k

/-- Tables in memory answer by the query. -/
theorem answersByQuery_ofTables (m : MemoryTables) (n : Nat) :
    (ofTables m).AnswersByQuery n (fun query => (m.rowsOf query).map fun _ => ())
      (fun query => MemoryRows.source.answer n (m.connect query ⟨[], []⟩).2) := by
  apply answersByQuery_ofSource
  · intro query o
    unfold MemoryTables.connect
    cases m.rowsOf query <;> rfl
  · intro query o hok k
    unfold MemoryTables.connect
    cases hrows : m.rowsOf query with
    | error e =>
        rw [hrows] at hok
        cases hok
    | ok rows => rfl

end Connector

end DataMart
