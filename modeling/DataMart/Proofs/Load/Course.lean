import DataMart.Pipeline
import DataMart.Proofs.Store.Writing

/-!
# The course of a load

What a load makes of the answers of a source, said without the machines that carry it out. The
answers are taken in order. Batches of full size are written one after another; the load ends with
the first answer that is something else.

* `refusal?` says why a batch cannot be written to a table that earlier batches went into.
* `Fills` relates a source and a table to the batches that are written, to the `Ending`, and to the
  state that the source is left in; `Course` does so for a spec, with opening and closing.
* `exists_fills`, `exists_course`: every load has a course. `Fills.unique`, `Course.unique`: it has
  only one.
-/

namespace DataMart

/-- How a load comes to its end. -/
inductive Ending where
  /-- The source has no more rows. -/
  | drained
  /-- A fault breaks the load off. -/
  | broken (e : Fault)

/-- The fault of an ending, if there is one. -/
def Ending.fault? : Ending → Option Fault
  | drained => none
  | broken e => some e

/-- Why a batch cannot be written to a table after other batches of the same load, if there is a
reason: the first batch creates the table, and later ones need its columns. -/
def refusal? (table : String) (written : List Batch) (b : Batch) : Option Fault :=
  match written with
  | [] => Session.createFault? table b.columns
  | first :: _ =>
    if b.columns = first.columns then none
    else some (.schemaMismatch table (Column.describe first.columns) (Column.describe b.columns))

section fills

variable {ω : Type}

/-- `Fills src n table written s bs ending s'`: from state `s`, asked for `n` rows at a time, the
source fills a table that the batches `written` went into with the batches `bs`, which comes to
`ending` and leaves the source in state `s'`. -/
inductive Fills (src : Source ω) (n : Nat) (table : String) :
    List Batch → ω → List Batch → Ending → ω → Prop where
  /-- The fetch fails. -/
  | fault {written : List Batch} {s : ω} {e : Fault} (answer : (src.fetch n s).1 = .error e) :
      Fills src n table written s [] (.broken e) (src.fetch n s).2
  /-- There are no more rows. -/
  | empty {written : List Batch} {s : ω} {b : Batch} (answer : (src.fetch n s).1 = .ok b)
      (rows : b.isEmpty = true) : Fills src n table written s [] .drained (src.fetch n s).2
  /-- More rows come than were asked for. -/
  | overlong {written : List Batch} {s : ω} {b : Batch} (answer : (src.fetch n s).1 = .ok b)
      (rows : b.isEmpty = false) (size : n < b.size) :
      Fills src n table written s [] (.broken (overlong n b)) (src.fetch n s).2
  /-- The batch cannot be written. -/
  | refused {written : List Batch} {s : ω} {b : Batch} {e : Fault}
      (answer : (src.fetch n s).1 = .ok b) (rows : b.isEmpty = false) (size : b.size ≤ n)
      (reason : refusal? table written b = some e) :
      Fills src n table written s [] (.broken e) (src.fetch n s).2
  /-- A short batch is written, and the source is not asked again. -/
  | short {written : List Batch} {s : ω} {b : Batch} (answer : (src.fetch n s).1 = .ok b)
      (rows : b.isEmpty = false) (size : b.size < n) (reason : refusal? table written b = none) :
      Fills src n table written s [b] .drained (src.fetch n s).2
  /-- A full batch is written, and the load goes on. -/
  | full {written : List Batch} {s s' : ω} {b : Batch} {bs : List Batch} {ending : Ending}
      (answer : (src.fetch n s).1 = .ok b) (rows : b.isEmpty = false) (size : b.size = n)
      (reason : refusal? table written b = none)
      (rest : Fills src n table (written ++ [b]) (src.fetch n s).2 bs ending s') :
      Fills src n table written s (b :: bs) ending s'

variable {src : Source ω} {n : Nat} {table : String} {written bs : List Batch} {s s' : ω}
  {ending : Ending}

/-- Every filling comes to an end, since the source has fewer and fewer batches left. -/
theorem exists_fills (src : Source ω) (n : Nat) (table : String) (written : List Batch) (s : ω) :
    ∃ bs ending s', Fills src n table written s bs ending s' := by
  induction hleft : src.left s using Nat.strongRecOn generalizing written s with
  | ind left ih =>
      cases answer : (src.fetch n s).1 with
      | error e => exact ⟨_, _, _, .fault answer⟩
      | ok b =>
          cases rows : b.isEmpty with
          | true => exact ⟨_, _, _, .empty answer rows⟩
          | false =>
              rcases Nat.lt_trichotomy n b.size with size | size | size
              · exact ⟨_, _, _, .overlong answer rows size⟩
              · cases reason : refusal? table written b with
                | some e => exact ⟨_, _, _, .refused answer rows (by omega) reason⟩
                | none =>
                    have hlt : src.left (src.fetch n s).2 < left := by
                      rw [← hleft]
                      exact src.left_fetch answer rows
                    obtain ⟨bs, ending, s', rest⟩ :=
                      ih _ hlt (written ++ [b]) (src.fetch n s).2 rfl
                    exact ⟨_, _, _, .full answer rows size.symm reason rest⟩
              · cases reason : refusal? table written b with
                | some e => exact ⟨_, _, _, .refused answer rows (by omega) reason⟩
                | none => exact ⟨_, _, _, .short answer rows size reason⟩

/-- Every batch that fills a table has rows. -/
theorem Fills.isEmpty_eq_false (h : Fills src n table written s bs ending s') :
    ∀ b ∈ bs, b.isEmpty = false := by
  induction h with
  | fault | empty | overlong | refused => simp
  | short answer rows size reason => simpa using rows
  | full answer rows size reason rest ih => simpa using ⟨rows, ih⟩

/-- The answers of the source leave no choice. -/
theorem Fills.unique {bs' : List Batch} {ending' : Ending} {s'' : ω}
    (h : Fills src n table written s bs ending s')
    (h' : Fills src n table written s bs' ending' s'') :
    bs = bs' ∧ ending = ending' ∧ s' = s'' := by
  induction h generalizing bs' ending' s'' with
  | fault answer => cases h' <;> simp_all
  | empty answer rows => cases h' <;> simp_all
  | overlong answer rows size =>
      cases h' <;> simp_all
      all_goals omega
  | refused answer rows size reason =>
      cases h' <;> simp_all
      all_goals omega
  | short answer rows size reason =>
      cases h' <;> simp_all
      all_goals omega
  | full answer rows size reason rest ih =>
      cases h' with
      | full answer' rows' size' reason' rest' =>
          rw [answer] at answer'
          cases answer'
          obtain ⟨rfl, rfl, rfl⟩ := ih rest'
          exact ⟨rfl, rfl, rfl⟩
      | _ => simp_all

end fills

section course

variable {ω : Type}

/-- The course of the load of a spec from what is known outside: its source is opened, fills the
table, and is closed. A source that cannot be opened breaks the load off before the first batch. -/
inductive Course (connect : String → ω → Except Fault Unit × ω) (src : Source ω) (n : Nat)
    (spec : TableSpec) (o : ω) : List Batch → Ending → ω → Prop where
  /-- The source is not opened. -/
  | unopened {e : Fault} (answer : (connect spec.query o).1 = .error e) :
      Course connect src n spec o [] (.broken e) (connect spec.query o).2
  /-- The source is opened, and released at the end. -/
  | opened {bs : List Batch} {ending : Ending} {s : ω} (answer : (connect spec.query o).1 = .ok ())
      (fills : Fills src n spec.table [] (connect spec.query o).2 bs ending s) :
      Course connect src n spec o bs ending (src.close s).2

variable {connect : String → ω → Except Fault Unit × ω} {src : Source ω} {n : Nat}
  {spec : TableSpec} {o o' : ω} {bs : List Batch} {ending : Ending}

/-- Every load has a course. -/
theorem exists_course (connect : String → ω → Except Fault Unit × ω) (src : Source ω) (n : Nat)
    (spec : TableSpec) (o : ω) : ∃ bs ending o', Course connect src n spec o bs ending o' := by
  cases answer : (connect spec.query o).1 with
  | error e => exact ⟨_, _, _, .unopened answer⟩
  | ok _ =>
      obtain ⟨bs, ending, s, fills⟩ :=
        exists_fills src n spec.table [] (connect spec.query o).2
      exact ⟨_, _, _, .opened answer fills⟩

/-- Every batch of a course has rows. -/
theorem Course.isEmpty_eq_false (h : Course connect src n spec o bs ending o') :
    ∀ b ∈ bs, b.isEmpty = false := by
  cases h with
  | unopened answer => simp
  | opened answer fills => exact fills.isEmpty_eq_false

/-- A load has only one course. -/
theorem Course.unique {bs' : List Batch} {ending' : Ending} {o'' : ω}
    (h : Course connect src n spec o bs ending o')
    (h' : Course connect src n spec o bs' ending' o'') :
    bs = bs' ∧ ending = ending' ∧ o' = o'' := by
  cases h with
  | unopened answer =>
      cases h' with
      | unopened answer' =>
          rw [answer] at answer'
          cases answer'
          exact ⟨rfl, rfl, rfl⟩
      | opened answer' _ =>
          rw [answer] at answer'
          cases answer'
  | opened answer fills =>
      cases h' with
      | unopened answer' =>
          rw [answer] at answer'
          cases answer'
      | opened _ fills' =>
          obtain ⟨rfl, rfl, rfl⟩ := fills.unique fills'
          exact ⟨rfl, rfl, rfl⟩

end course

/-! ## What is reported, and what is left -/

/-- The number of rows of some batches. -/
def rowCount : List Batch → Nat
  | [] => 0
  | b :: rest => b.size + rowCount rest

/-- What is reported of a load that wrote the given batches and came to the given end. -/
def outcomeOf : List Batch → Ending → TableOutcome
  | [], .drained => .noData
  | b :: bs, .drained => .loaded (rowCount (b :: bs)) (b :: bs).length
  | bs, .broken e => .failed (rowCount bs) e.message

/-- A load that was broken off is told with the rows written before. -/
theorem outcomeOf_broken (bs : List Batch) (e : Fault) :
    outcomeOf bs (.broken e) = .failed (rowCount bs) e.message := by
  cases bs <;> rfl

/-- What a load that wrote the batches `bs` and came to `ending` makes of the mart `before`. -/
structure Leaves (table : String) (before : Mart) (bs : List Batch) (ending : Ending)
    (after : Mart) : Prop where
  /-- The table has the columns of the first batch, and the rows of all of them in order. -/
  filled : ∀ b rest, bs = b :: rest → after.Holds table b.columns (bs.flatMap Batch.rows)
  /-- A source without rows leaves no table. -/
  absent : bs = [] → ending = .drained → after.table? table = none
  /-- A load that breaks off before its first batch leaves everything as it was. -/
  kept : ∀ e, bs = [] → ending = .broken e → after = before
  /-- No other table is touched. -/
  others : before.UnchangedBut table after

end DataMart
