import DataMart.Proofs.Steps
import DataMart.Store.Connection

/-!
# Work that may fail at every statement

Work on a connection is compared with a function of sessions that says what the engine makes of it
(`Work.Follows`): where the work succeeds it does what the function does, whatever trouble there is
on the way, and where there is none it fails only with what the engine has against it. This holds of
single statements (`follows_execute`) and of work that is put together (`Follows.bind`).

`settled_transact` is what follows for a transaction: it is done, or the session is as it was.
-/

namespace DataMart

/-- What a write comes to of which the engine makes something, with the session after it. -/
def Session.settle {α : Type} (s : Session) (table : String)
    (r : Except EngineError (α × Session)) : Except Fault α × Session :=
  match r with
  | .ok (a, s') => (.ok a, s')
  | .error e => (.error (.load table e.message), s)

/-- What the engine does without objection is the answer. -/
theorem Session.settle_ok {α : Type} (s : Session) (table : String) (a : α) (s' : Session) :
    s.settle table (.ok (a, s')) = (.ok a, s') := rfl

/-- An objection of the engine is a fault in loading the table. -/
theorem Session.settle_error {α : Type} (s : Session) (table : String) (e : EngineError) :
    s.settle table (.error e : Except EngineError (α × Session)) =
      (.error (.load table e.message), s) := rfl

namespace Work

variable {α β : Type} {trouble : Trouble} {table : String}

/-- Work goes on where it succeeded, and ends where it failed. -/
theorem bind_apply (w : Work α) (f : α → Work β) (c : Connection) :
    (w >>= f) c =
      match w c with
      | (.ok a, c') => f a c'
      | (.error e, c') => (.error e, c') := by
  have hbind : (w >>= f) c = ExceptT.bindCont f (w c).1 (w c).2 := rfl
  rw [hbind]
  rcases w c with ⟨r, c'⟩
  cases r <;> rfl

/-- A statement is asked for, and it may fail. -/
theorem issue_apply (statement : Statement) (c : Connection) :
    issue trouble table statement c =
      match trouble c statement with
      | none => (.ok (), c.ask statement)
      | some failure => (.error (.load table failure.reason), (c.ask statement).fail failure) := rfl

/-- A statement fails, or it has its effect, or the engine has something against it. -/
theorem execute_apply (statement : Statement)
    (effect : Session → Except EngineError (α × Session)) (c : Connection) :
    execute trouble table statement effect c =
      match trouble c statement with
      | some failure => (.error (.load table failure.reason), (c.ask statement).fail failure)
      | none =>
        match effect c.session with
        | .ok (a, s) => (.ok a, { c.ask statement with session := s })
        | .error e => (.error (.load table e.message), c.ask statement) := by
  rw [execute, bind_apply, issue_apply]
  cases trouble c statement with
  | some failure => rfl
  | none =>
      have hget : ∀ f : Connection → Work α,
          (get >>= f) (c.ask statement) = f (c.ask statement) (c.ask statement) := fun _ => rfl
      dsimp only
      rw [hget]
      have hsession : (c.ask statement).session = c.session := rfl
      rw [hsession]
      rcases effect c.session with e | ⟨a, s⟩ <;> rfl

/-! ## What work comes to -/

/-- How work has ended that was begun on a connection and of which the engine makes `expected`: it has
done that, or it has failed with a fault in loading the table. Without trouble only the engine's own
objection is left. -/
inductive Ended (trouble : Trouble) (table : String) (c : Connection)
    (expected : Except EngineError (α × Session)) : Except Fault α × Connection → Prop
  | done (a : α) (c' : Connection) (begun : c'.begun = c.begun)
      (h : expected = .ok (a, c'.session)) : Ended trouble table c expected (.ok a, c')
  | failed (reason : String) (c' : Connection) (begun : c'.begun = c.begun)
      (h : trouble = .never → ∃ e, expected = .error e ∧ e.message = reason) :
      Ended trouble table c expected (.error (.load table reason), c')

/-- Work does what the engine makes of the session, or it fails. -/
def Follows (trouble : Trouble) (table : String) (w : Work α)
    (effect : Session → Except EngineError (α × Session)) : Prop :=
  ∀ c, Ended trouble table c (effect c.session) (w c)

/-- Work that succeeded has had its effect. -/
theorem Follows.eq_ok {w : Work α} {effect : Session → Except EngineError (α × Session)}
    (h : Follows trouble table w effect) {c c' : Connection} {a : α} (hw : w c = (.ok a, c')) :
    effect c.session = .ok (a, c'.session) := by
  have hc := h c
  rw [hw] at hc
  cases hc with
  | done _ _ _ hdone => exact hdone

/-- The effect may be put otherwise. -/
theorem Follows.congr {w : Work α} {effect effect' : Session → Except EngineError (α × Session)}
    (h : Follows trouble table w effect) (he : ∀ s, effect s = effect' s) :
    Follows trouble table w effect' :=
  funext he ▸ h

/-- A statement that fails does not end the transaction. -/
theorem begun_fail (c : Connection) (failure : Failure) : (c.fail failure).begun = c.begun := by
  unfold Connection.fail
  split
  · rfl
  · rfl

/-- A single statement has its effect, or it fails. -/
theorem follows_execute (statement : Statement)
    (effect : Session → Except EngineError (α × Session)) :
    Follows trouble table (execute trouble table statement effect) effect := by
  intro c
  rw [execute_apply]
  cases ht : trouble c statement with
  | some failure =>
      refine .failed _ _ (begun_fail _ _) ?_
      rintro rfl
      cases ht
  | none =>
      cases he : effect c.session with
      | ok r => exact .done r.1 _ rfl rfl
      | error e => exact .failed _ _ rfl fun _ => ⟨e, rfl, rfl⟩

/-- A statement without an answer has its effect, or it fails. -/
theorem follows_perform (statement : Statement) (effect : Session → Except EngineError Session) :
    Follows trouble table (perform trouble table statement effect)
      fun s => (effect s).map ((), ·) :=
  follows_execute statement _

/-- Work that is done comes to its effect. -/
theorem follows_pure (a : α) :
    Follows trouble table (pure a) fun s => .ok (a, s) :=
  fun c => .done a c rfl rfl

/-- Pieces of work one after the other. -/
theorem Follows.bind {w : Work α} {next : α → Work β}
    {effect : Session → Except EngineError (α × Session)}
    {effects : α → Session → Except EngineError (β × Session)}
    (h : Follows trouble table w effect) (hnext : ∀ a, Follows trouble table (next a) (effects a)) :
    Follows trouble table (w >>= next) fun s => effect s >>= fun r => effects r.1 r.2 := by
  intro c
  show Ended trouble table c (effect c.session >>= fun r => effects r.1 r.2) ((w >>= next) c)
  rw [bind_apply]
  have hc := h c
  generalize w c = ended at hc
  cases hc with
  | failed reason c' begun hfailed =>
      refine .failed reason c' begun fun hnever => ?_
      obtain ⟨e, he, hreason⟩ := hfailed hnever
      exact ⟨e, by rw [he, error_bind], hreason⟩
  | done a c' begun hdone =>
      rw [hdone, ok_bind]
      show Ended trouble table c (effects a c'.session) (next a c')
      have hc' := hnext a c'
      generalize next a c' = ended at hc'
      cases hc' with
      | done b c'' begun' hdone' => exact .done b c'' (begun'.trans begun) hdone'
      | failed reason c'' begun' hfailed =>
          exact .failed reason c'' (begun'.trans begun) hfailed

/-- Statements one after the other. -/
theorem follows_forM {effect : Statement → Session → Except EngineError Session}
    (statements : List Statement) :
    Follows trouble table
      (statements.forM fun statement => perform trouble table statement (effect statement))
      fun s => (statements.foldlM (fun s statement => effect statement s) s).map ((), ·) := by
  induction statements with
  | nil => exact follows_pure ()
  | cons statement rest ih =>
      refine ((follows_perform statement (effect statement)).bind fun _ => ih).congr fun s => ?_
      rw [List.foldlM_cons]
      cases effect statement s <;> rfl

/-! ## Transactions -/

/-- A fault is handed to the handler, with the connection as the work has left it. -/
theorem tryCatch_apply (w : Work α) (handle : Fault → Work α) (c : Connection) :
    tryCatch w handle c =
      match w c with
      | (.ok a, c') => (.ok a, c')
      | (.error e, c') => handle e c' := by
  show ExceptT.tryCatch w handle c = _
  simp only [ExceptT.tryCatch, ExceptT.mk, bind, StateT.bind]
  rcases w c with ⟨e | a, c'⟩ <;> rfl

/-- A transaction that cannot be begun is none; one that was begun is kept if its work succeeds and
can be committed, and rolled back otherwise. -/
theorem transact_apply (w : Work α) (c : Connection) :
    transact trouble table w c =
      match trouble c ⟨"BEGIN", []⟩ with
      | some failure => (.error (.load table failure.reason), (c.ask ⟨"BEGIN", []⟩).fail failure)
      | none =>
        match w (c.ask ⟨"BEGIN", []⟩).start with
        | (.error e, c') => (.error e, c'.rollback)
        | (.ok a, c') =>
          match trouble c' ⟨"COMMIT", []⟩ with
          | some failure =>
            (.error (.load table failure.reason), ((c'.ask ⟨"COMMIT", []⟩).fail failure).rollback)
          | none => (.ok a, (c'.ask ⟨"COMMIT", []⟩).keep) := by
  rw [transact, bind_apply, issue_apply]
  cases trouble c ⟨"BEGIN", []⟩ with
  | some failure => rfl
  | none =>
      have hstart : ∀ rest : Work α, (do modify Connection.start; rest) (c.ask ⟨"BEGIN", []⟩) =
          rest (c.ask ⟨"BEGIN", []⟩).start := fun _ => rfl
      dsimp only
      rw [hstart, tryCatch_apply, bind_apply]
      rcases w (c.ask ⟨"BEGIN", []⟩).start with ⟨e | a, c'⟩
      · rfl
      · dsimp only
        rw [bind_apply, issue_apply]
        cases trouble c' ⟨"COMMIT", []⟩ <;> rfl

/-- How a write has ended that was begun in a session and of which the engine makes `expected`: it has
done that, or the session is as it was. -/
inductive Settled (trouble : Trouble) (table : String) (s : Session)
    (expected : Except EngineError (α × Session)) : Except Fault α × Session → Prop
  | done (a : α) (s' : Session) (h : expected = .ok (a, s')) :
      Settled trouble table s expected (.ok a, s')
  | undone (reason : String)
      (h : trouble = .never → ∃ e, expected = .error e ∧ e.message = reason) :
      Settled trouble table s expected (.error (.load table reason), s)

/-- Without trouble there is one way for it to end. -/
theorem Settled.eq_settle {s : Session} {expected : Except EngineError (α × Session)}
    {answer : Except Fault α × Session} (h : Settled .never table s expected answer) :
    answer = s.settle table expected := by
  cases h with
  | done a s' h =>
      rw [h]
      rfl
  | undone reason h =>
      obtain ⟨e, he, rfl⟩ := h rfl
      rw [he]
      rfl

/-- A transaction is done, or the session is as it was. -/
theorem settled_transact {w : Work α} {effect : Session → Except EngineError (α × Session)}
    (h : Follows trouble table w effect) {c : Connection} (hc : c.begun = none) :
    Settled trouble table c.session (effect c.session)
      ((transact trouble table w c).1, (transact trouble table w c).2.session) := by
  rw [transact_apply]
  cases hbegin : trouble c ⟨"BEGIN", []⟩ with
  | some failure =>
      have halone : (c.ask ⟨"BEGIN", []⟩).fail failure = c.ask ⟨"BEGIN", []⟩ := by
        have hnone : (c.ask ⟨"BEGIN", []⟩).begun = none := hc
        rw [Connection.fail, hnone]
      dsimp only
      rw [halone]
      refine .undone failure.reason ?_
      rintro rfl
      cases hbegin
  | none =>
      have hw := h (c.ask ⟨"BEGIN", []⟩).start
      generalize w (c.ask ⟨"BEGIN", []⟩).start = ended at hw
      -- whatever is left of the session, the rollback goes back to the one at the beginning
      have hback : ∀ {c' : Connection}, c'.begun = some c.session →
          c'.rollback.session = c.session := by
        intro c' hb
        rw [Connection.rollback, hb, Option.getD_some]
      cases hw with
      | failed reason c' begun hfailed =>
          dsimp only
          rw [hback begun]
          exact .undone reason hfailed
      | done a c' begun hdone =>
          dsimp only
          cases hcommit : trouble c' ⟨"COMMIT", []⟩ with
          | some failure =>
              have hfail : ((c'.ask ⟨"COMMIT", []⟩).fail failure).begun = some c.session :=
                (begun_fail _ _).trans begun
              dsimp only
              rw [hback hfail]
              refine .undone failure.reason ?_
              rintro rfl
              cases hcommit
          | none => exact .done a c'.session hdone

/-- A statement by itself is done, or the session is as it was. -/
theorem settled_execute (statement : Statement)
    (effect : Session → Except EngineError (α × Session)) (s : Session) :
    Settled trouble table s (effect s) ((execute trouble table statement effect).on s) := by
  rw [on, execute_apply]
  cases ht : trouble { session := s } statement with
  | some failure =>
      refine .undone failure.reason ?_
      rintro rfl
      cases ht
  | none =>
      cases he : effect s with
      | ok r => exact .done r.1 r.2 rfl
      | error e => exact .undone e.message fun _ => ⟨e, rfl, rfl⟩

end Work

end DataMart
