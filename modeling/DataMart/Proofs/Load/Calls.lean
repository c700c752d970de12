import DataMart.Proofs.Load.Progress
import DataMart.Proofs.Store.Writing

/-!
# Calls on a load

A load is driven by calls that come in any order: in turn or out of turn, and with batches that can
be written or not. `TableLoad.History` keeps, beside the load and its session, the batches of the
calls that succeeded.

* `Call.refusal?` is what stands against a call. It depends on the batches written so far and not on
  the mart; `call_of_refusal` and `exists_call` say what the call does in either case.
* `History.accepted` are the batches of the calls that nothing stands against, and these are the
  ones that succeed (`History.written_run`).
* `History.accounted_run`: after any calls, the counters of the load, the table in the mart and the
  next calls are as the batches written so far say.
-/

namespace DataMart

namespace TableLoad

/-- A call on the load of a table. -/
inductive Call where
  | create (b : Batch)
  | append (b : Batch)
  | write (b : Batch)

/-- The batch that a call brings. -/
def Call.batch : Call → Batch
  | create b => b
  | append b => b
  | write b => b

/-- Make a call. -/
def call (l : TableLoad) (s : Session) : Call → Outcome
  | .create b => l.create s b
  | .append b => l.append s b
  | .write b => l.write s b

/-- What stands against a call after some batches were written: it comes out of turn, or its batch
cannot be written. -/
def Call.refusal? (table : String) : (written : List Batch) → Call → Option Fault
  | [], create b => DataMart.refusal? table [] b
  | _ :: _, create _ => some (.loadOrder table "table already created in this run")
  | [], append _ => some (.loadOrder table "append before create")
  | first :: rest, append b => DataMart.refusal? table (first :: rest) b
  | written, write b => DataMart.refusal? table written b

section call

variable {table : String} {written : List Batch} {before m : Mart} {c : Call}

/-- A call that something stands against fails for that reason and changes nothing. -/
theorem call_of_refusal {e : Fault} (hm : Mart.After before table written m)
    (h : c.refusal? table written = some e) :
    (after table written).call { mart := m } c = ⟨.error e, after table written, { mart := m }⟩ := by
  cases c with
  | create b =>
      cases written with
      | nil => exact write_of_refusal hm h
      | cons first rest =>
          cases h
          rfl
  | append b =>
      cases written with
      | nil =>
          cases h
          rfl
      | cons first rest => exact write_of_refusal hm h
  | write b =>
      cases written with
      | nil => exact write_of_refusal hm h
      | cons first rest => exact write_of_refusal hm h

/-- A call that nothing stands against writes its batch. -/
theorem call_eq_write (h : c.refusal? table written = none) (s : Session) :
    (after table written).call s c = (after table written).write s c.batch := by
  cases c with
  | create b =>
      cases written with
      | nil => rfl
      | cons first rest => cases h
  | append b =>
      cases written with
      | nil => cases h
      | cons first rest => rfl
  | write b => rfl

/-- Nothing stands against the batch of such a call. -/
theorem Call.refusal?_batch (h : c.refusal? table written = none) :
    DataMart.refusal? table written c.batch = none := by
  cases c <;> cases written <;> first | exact h | cases h

/-- A call that nothing stands against succeeds. -/
theorem exists_call (hname : Text.sameName stagingName table = false)
    (hm : Mart.After before table written m) (h : c.refusal? table written = none) :
    ∃ m', (after table written).call { mart := m } c =
        ⟨.ok c.batch.size, after table (written ++ [c.batch]), { mart := m' }⟩ ∧
      Mart.After before table (written ++ [c.batch]) m' := by
  rw [call_eq_write h]
  exact exists_write hname hm (Call.refusal?_batch h)

/-- Whatever is called, no table but the load's own is touched. -/
theorem unchangedBut_call (l : TableLoad) (s : Session) (c : Call) :
    s.mart.UnchangedBut l.table (l.call s c).session.mart := by
  have hwrite := l.unchangedBut_write s c.batch
  -- a call is a write, or it comes out of turn and changes nothing
  have hcases : l.call s c = l.write s c.batch ∨ (l.call s c).session = s := by
    cases hl : l.state with
    | notStarted =>
        cases c with
        | create b => exact Or.inl (by simp only [call, write, hl, Call.batch])
        | append b => exact Or.inr (by simp only [call, append, hl])
        | write b => exact Or.inl rfl
    | loaded rows batches =>
        cases c with
        | create b => exact Or.inr (by simp only [call, create, hl])
        | append b => exact Or.inl (by simp only [call, write, hl, Call.batch])
        | write b => exact Or.inl rfl
  rcases hcases with h | h
  · rw [h]
    exact hwrite
  · rw [h]
    exact .refl l.table s.mart

end call

/-! ## Histories -/

/-- A load in the middle of its calls: the load, the session that it writes to, and the batches of
the calls that succeeded, in order. -/
structure History where
  load : TableLoad
  session : Session
  written : List Batch

namespace History

/-- A fresh load of a table of a mart. -/
def start (table : String) (m : Mart) : History := ⟨{ table := table }, { mart := m }, []⟩

/-- One more call. -/
def step (h : History) (c : Call) : History :=
  let o := h.load.call h.session c
  ⟨o.load, o.session,
    match o.result with
    | .ok _ => h.written ++ [c.batch]
    | .error _ => h.written⟩

/-- Some more calls. -/
def run (h : History) (calls : List Call) : History := calls.foldl step h

/-- The batches written after some calls, if every call that nothing stands against writes its
own. -/
def accepted (table : String) : (written : List Batch) → List Call → List Batch
  | written, [] => written
  | written, c :: rest =>
    match c.refusal? table written with
    | some _ => accepted table written rest
    | none => accepted table (written ++ [c.batch]) rest

/-- The load has counted the batches written, the mart holds their rows, and no other table was
touched. -/
structure Consistent (table : String) (before : Mart) (h : History) : Prop where
  load : h.load = after table h.written
  session : h.session = { mart := h.session.mart }
  mart : Mart.After before table h.written h.session.mart
  others : before.UnchangedBut table h.session.mart

variable {table : String} {before : Mart} {h : History} {c : Call}

/-- A fresh load has counted nothing, and nothing was written. -/
theorem consistent_start (table : String) (m : Mart) : (start table m).Consistent table m where
  load := rfl
  session := rfl
  mart := rfl
  others := .refl table m

/-- A call that something stands against leaves the history as it is. -/
theorem Consistent.step_of_refusal {e : Fault} (hc : h.Consistent table before)
    (he : c.refusal? table h.written = some e) :
    h.load.call h.session c = ⟨.error e, h.load, h.session⟩ ∧ h.step c = h := by
  have hcall := call_of_refusal hc.mart he
  rw [← hc.load, ← hc.session] at hcall
  exact ⟨hcall, by simp only [step, hcall]⟩

/-- A call that nothing stands against adds its batch. -/
theorem Consistent.step_of_none (hname : Text.sameName stagingName table = false)
    (hc : h.Consistent table before) (he : c.refusal? table h.written = none) :
    (h.load.call h.session c).result = .ok c.batch.size ∧
      (h.step c).written = h.written ++ [c.batch] ∧ (h.step c).Consistent table before := by
  obtain ⟨m', hcall, hm'⟩ := exists_call hname hc.mart he
  have hothers := unchangedBut_call h.load h.session c
  rw [← hc.load, ← hc.session] at hcall
  have hstep : h.step c =
      ⟨after table (h.written ++ [c.batch]), { mart := m' }, h.written ++ [c.batch]⟩ := by
    simp only [step, hcall]
  rw [hcall, hc.load] at hothers
  rw [hstep, hcall]
  exact ⟨rfl, rfl, rfl, rfl, hm', hc.others.trans hothers⟩

/-- Any calls keep the load and its table consistent, and which of them succeed is said by the calls
alone. -/
theorem Consistent.run (hname : Text.sameName stagingName table = false)
    (hc : h.Consistent table before) (calls : List Call) :
    (h.run calls).Consistent table before ∧
      (h.run calls).written = accepted table h.written calls := by
  induction calls generalizing h with
  | nil => exact ⟨hc, rfl⟩
  | cons c rest ih =>
      cases he : c.refusal? table h.written with
      | some e =>
          have haccepted : accepted table h.written (c :: rest) = accepted table h.written rest := by
            simp only [accepted, he]
          have hrun : h.run (c :: rest) = h.run rest := by
            show (h.step c).run rest = h.run rest
            rw [(hc.step_of_refusal he).2]
          rw [haccepted, hrun]
          exact ih hc
      | none =>
          obtain ⟨-, hwritten, hstep⟩ := hc.step_of_none hname he
          have hrest := ih hstep
          have haccepted : accepted table h.written (c :: rest) =
              accepted table (h.written ++ [c.batch]) rest := by
            simp only [accepted, he]
          rw [hwritten] at hrest
          rw [haccepted]
          exact hrest

/-- What is the case after any calls on the load of a table of the mart `before`. -/
structure Accounted (table : String) (before : Mart) (h : History) : Prop where
  /-- The load has not started exactly while no call has succeeded. -/
  notStarted : h.load.state = .notStarted ↔ h.written = []
  /-- Afterwards it counts the rows and the number of the batches of the calls that succeeded. -/
  loaded : h.written ≠ [] → h.load.state = .loaded (rowCount h.written) h.written.length
  /-- While no call has succeeded the mart is as it was. -/
  untouched : h.written = [] → h.session.mart = before
  /-- The other tables are as they were. -/
  others : before.UnchangedBut table h.session.mart
  /-- A call that succeeds gives the number of rows of its batch. -/
  succeeds : ∀ c n, (h.load.call h.session c).result = .ok n → n = c.batch.size
  /-- A call that fails changes neither the load nor the mart. -/
  fails : ∀ c e, (h.load.call h.session c).result = .error e →
    (h.load.call h.session c).load = h.load ∧ (h.load.call h.session c).session = h.session
  /-- Nothing is appended before the first success. -/
  appendEarly : h.written = [] → ∀ b,
    (h.load.append h.session b).result = .error (.loadOrder table "append before create")
  /-- Nothing is created after it. -/
  createLate : h.written ≠ [] → ∀ b, (h.load.create h.session b).result =
    .error (.loadOrder table "table already created in this run")
  /-- Until the first success a write tries to create the table, whatever has failed before. -/
  retried : h.written = [] → ∀ b, h.load.write h.session b = h.load.create h.session b ∧
    ((∃ n, (h.load.write h.session b).result = .ok n) ↔
      Session.createFault? table b.columns = none)
  /-- The table has the columns of the first batch, and the rows of all of them in order. -/
  holds : ∀ first rest, h.written = first :: rest →
    h.session.mart.Holds table first.columns (h.written.flatMap Batch.rows)
  /-- The rows of the table are those that were counted. -/
  counted : h.written ≠ [] → h.session.countRows table = .ok h.load.rows
  /-- The columns of the first batch are read back. -/
  schema : ∀ first rest, h.written = first :: rest →
    h.session.tableSchema table = .ok first.columns
  /-- A batch of these columns is never refused. -/
  welcome : ∀ first rest, h.written = first :: rest → ∀ b, b.columns = first.columns →
    (h.load.append h.session b).result = .ok b.size ∧
      (h.load.write h.session b).result = .ok b.size

/-- A mart that holds the rows of some batches, the first of which is known. -/
theorem Consistent.holds (hc : h.Consistent table before) {first : Batch} {rest : List Batch}
    (hw : h.written = first :: rest) :
    h.session.mart.Holds table first.columns (h.written.flatMap Batch.rows) := by
  have hm := hc.mart
  rw [hw] at hm ⊢
  exact hm

/-- Of every call it is known whether it succeeds. -/
theorem Consistent.call_cases (hname : Text.sameName stagingName table = false)
    (hc : h.Consistent table before) (c : Call) :
    (∃ e, c.refusal? table h.written = some e ∧
      h.load.call h.session c = ⟨.error e, h.load, h.session⟩) ∨
    (c.refusal? table h.written = none ∧
      (h.load.call h.session c).result = .ok c.batch.size) := by
  cases he : c.refusal? table h.written with
  | some e => exact Or.inl ⟨e, rfl, (hc.step_of_refusal he).1⟩
  | none => exact Or.inr ⟨rfl, (hc.step_of_none hname he).1⟩

/-- A batch of the columns of the first one is written, by an append as well as by a write. -/
theorem Consistent.welcome (hname : Text.sameName stagingName table = false)
    (hc : h.Consistent table before) {first : Batch} {rest : List Batch}
    (hw : h.written = first :: rest) {b : Batch} (hb : b.columns = first.columns) :
    (h.load.append h.session b).result = .ok b.size ∧
      (h.load.write h.session b).result = .ok b.size := by
  have hnone : DataMart.refusal? table (first :: rest) b = none := if_pos hb
  have happend : (Call.append b).refusal? table h.written = none := by
    rw [hw]
    exact hnone
  have hwrite : (Call.write b).refusal? table h.written = none := by
    rw [hw]
    exact hnone
  exact ⟨(hc.step_of_none hname happend).1, (hc.step_of_none hname hwrite).1⟩

/-- While nothing was written, a write is an attempt to create the table. -/
theorem Consistent.retried (hname : Text.sameName stagingName table = false)
    (hc : h.Consistent table before) (hw : h.written = []) (b : Batch) :
    h.load.write h.session b = h.load.create h.session b ∧
      ((∃ n, (h.load.write h.session b).result = .ok n) ↔
        Session.createFault? table b.columns = none) := by
  have hload := hc.load
  have hrefusal : (Call.write b).refusal? table h.written =
      Session.createFault? table b.columns := by
    rw [hw]
    rfl
  rw [hw] at hload
  refine ⟨by rw [hload]; rfl, ?_⟩
  rw [← hrefusal]
  rcases hc.call_cases hname (.write b) with ⟨e, he, hcall⟩ | ⟨he, hcall⟩
  · have hresult : (h.load.write h.session b).result = .error e :=
      congrArg Outcome.result hcall
    rw [he, hresult]
    simp
  · have hresult : (h.load.write h.session b).result = .ok b.size := hcall
    rw [he, hresult]
    simp

/-- What is consistent is accounted for. -/
theorem Consistent.accounted (hname : Text.sameName stagingName table = false)
    (hc : h.Consistent table before) : h.Accounted table before where
  notStarted := by
    rw [hc.load]
    cases h.written <;> simp [after]
  loaded hw := by
    obtain ⟨first, rest, hcons⟩ := List.exists_cons_of_ne_nil hw
    rw [hc.load, hcons]
    rfl
  untouched hw := by
    have hm := hc.mart
    rw [hw] at hm
    exact hm
  others := hc.others
  succeeds c n hn := by
    rcases hc.call_cases hname c with ⟨e, -, hcall⟩ | ⟨-, hcall⟩
    · rw [hcall] at hn
      cases hn
    · rw [hcall] at hn
      cases hn
      rfl
  fails c e he := by
    rcases hc.call_cases hname c with ⟨e', -, hcall⟩ | ⟨-, hcall⟩
    · rw [hcall]
      exact ⟨rfl, rfl⟩
    · rw [hcall] at he
      cases he
  appendEarly hw b := by
    have he : (Call.append b).refusal? table h.written =
        some (.loadOrder table "append before create") := by
      rw [hw]
      rfl
    exact congrArg Outcome.result (hc.step_of_refusal he).1
  createLate hw b := by
    obtain ⟨first, rest, hcons⟩ := List.exists_cons_of_ne_nil hw
    have he : (Call.create b).refusal? table h.written =
        some (.loadOrder table "table already created in this run") := by
      rw [hcons]
      rfl
    exact congrArg Outcome.result (hc.step_of_refusal he).1
  retried hw b := hc.retried hname hw b
  holds first rest hw := hc.holds hw
  counted hw := by
    obtain ⟨first, rest, hcons⟩ := List.exists_cons_of_ne_nil hw
    have hcount := Session.countRows_of_holds (hc.holds hcons)
    rw [length_flatMap_rows] at hcount
    rw [hc.load, rows_after, hc.session]
    exact hcount
  schema first rest hw := by
    rw [hc.session]
    exact Session.tableSchema_of_holds (hc.holds hw)
  welcome first rest hw b hb := hc.welcome hname hw hb

/-- **Every load is accounted for.** Whatever calls come on a fresh load of a table, in turn or out
of turn and with any batches, the load has counted exactly the batches of the calls that succeeded,
the table has the columns of the first of them and the rows of all, and a call that fails changes
nothing. -/
theorem accounted_run (hname : Text.sameName stagingName table = false) (m : Mart)
    (calls : List Call) : ((start table m).run calls).Accounted table m :=
  ((consistent_start table m).run hname calls).1.accounted hname

/-- A batch without rows whose columns have one name. -/
def twins : Batch where
  columns := [⟨"id", .integer⟩, ⟨"ID", .text⟩]
  rows := []

/-- Some sales. -/
def someSales (rows : List (List Value)) (h : ∀ row ∈ rows, fits [⟨"id", .integer⟩] row = true) :
    Batch := ⟨[⟨"id", .integer⟩], rows, h⟩

/-- Calls of which the first, the second, the fourth and the fifth fail. -/
def awkwardCalls : List Call :=
  [.append (someSales [[.int 0]] (by decide)), .create twins,
    .write (someSales [[.int 1], [.int 2]] (by decide)),
    .create (someSales [[.int 3]] (by decide)), .write twins,
    .append (someSales [] (by decide)), .write (someSales [[.int 4]] (by decide))]

/-- The load counts the three batches that went into the table, one of them without rows. -/
theorem awkwardCalls_accounted :
    Text.sameName stagingName "fct_sales" = false ∧
    ((start "fct_sales" {}).run awkwardCalls).load.state = .loaded 3 3 ∧
    ((start "fct_sales" {}).run awkwardCalls).session.countRows "fct_sales" = .ok 3 := by
  have hname : Text.sameName stagingName "fct_sales" = false := by decide +kernel
  have h := accounted_run hname {} awkwardCalls
  have hwritten := ((consistent_start "fct_sales" {}).run hname awkwardCalls).2
  have hlength : ((start "fct_sales" {}).run awkwardCalls).written.length = 3 := by
    rw [hwritten]
    decide +kernel
  have hrows : rowCount ((start "fct_sales" {}).run awkwardCalls).written = 3 := by
    rw [hwritten]
    decide +kernel
  have hne : ((start "fct_sales" {}).run awkwardCalls).written ≠ [] := by
    intro e
    rw [e] at hlength
    cases hlength
  have hstate := h.loaded hne
  rw [hlength, hrows] at hstate
  have hcount := h.counted hne
  rw [rows, hstate] at hcount
  exact ⟨hname, hstate, hcount⟩

end History

end TableLoad

end DataMart
