import DataMart.Proofs.Store.Transactions
import DataMart.Store.Writer

/-!
# What the engine makes of a write

`Session.created` and `Session.appended` say in one go what the statements of a write do to a session.
A write without trouble comes to just that (`create_eq`, `append_eq`, `dropTable_eq`). Under any
trouble it comes to the same, or it fails and leaves the session as it was (`createUnder_cases`,
`appendUnder_cases`, `dropTableUnder_cases`).
-/

namespace DataMart

namespace Session

/-- What the engine makes of staging a batch. -/
def stage (s : Session) (b : Batch) : Except EngineError Session := do
  let made ← s.clearStaging.createStaging b.columns
  (stagingStatements b).foldlM (fun s insert => s.insertStaged b.columns insert) made

/-- What it makes of copying the staged rows over. -/
def copyStaged (s : Session) (name : String) : Except EngineError (Nat × Session) := do
  let copied ← s.insertSelected name
  let left ← copied.2.dropStaging
  return (copied.1, left)

/-- What it makes of creating a table from a batch. -/
def created (s : Session) (table : String) (b : Batch) : Except EngineError (Nat × Session) := do
  let staged ← s.stage b
  let emptied ← (staged.dropIfExists table).createTable table b.columns
  emptied.copyStaged table

/-- What it makes of appending a batch to a table. -/
def appended (s : Session) (table : String) (b : Batch) : Except EngineError (Nat × Session) := do
  let staged ← s.stage b
  staged.copyStaged table

/-- The staged rows go to the end of a table, and the staging relation goes. -/
theorem copyStaged_eq (s : Session) (name : String) :
    s.copyStaged name =
      match s.resolve? name, s.staging with
      | none, _ => .error (.noSuchTable name)
      | some _, none => .error (.noSuchTable ("temp." ++ stagingName))
      | some target, some staged =>
        if Text.sameName staged.name name then
          .ok (staged.rows.length, { s with staging := none })
        else
          let filled := { target with rows := target.rows ++ staged.rows }
          .ok (staged.rows.length, { mart := s.mart.put filled, staging := none }) := by
  unfold copyStaged insertSelected
  cases s.resolve? name with
  | none => rfl
  | some target =>
      cases hs : s.staging with
      | none => rfl
      | some staged =>
          dsimp only
          split
          · rfl
          · rw [ok_bind]
            simp only [dropStaging]
            rfl

end Session

namespace Work

variable {trouble : Trouble} {table : String}

/-- A fresh staging relation is what the engine makes of it, or making it fails. -/
theorem follows_renewStaging (columns : List Column) :
    Follows trouble table (renewStaging trouble table columns)
      fun s => (s.clearStaging.createStaging columns).map ((), ·) :=
  (follows_perform clearStatement _).bind fun _ => follows_perform (relationStatement columns) _

/-- Staging does what the engine makes of it, or it fails. -/
theorem follows_stage (b : Batch) :
    Follows trouble table (stage trouble table b) fun s => (s.stage b).map ((), ·) := by
  refine ((follows_renewStaging b.columns).bind fun _ =>
    follows_forM (stagingStatements b)).congr fun s => ?_
  unfold Session.stage
  cases s.clearStaging.createStaging b.columns <;> rfl

/-- Copying the staged rows over does what the engine makes of it, or it fails. -/
theorem follows_copyStaged :
    Follows trouble table (copyStaged trouble table) (·.copyStaged table) := by
  refine ((follows_execute (copyStatement table) _).bind fun count =>
    (follows_perform dischargeStatement _).bind fun _ => follows_pure count).congr fun s => ?_
  unfold Session.copyStaged
  rcases s.insertSelected table with e | ⟨count, filled⟩
  · rfl
  · rw [ok_bind, ok_bind]
    dsimp only
    cases filled.dropStaging <;> rfl

/-- So does the work by which a table is created. -/
theorem follows_created (b : Batch) :
    Follows trouble table
      (do
        stage trouble table b
        perform trouble table (dropStatement table) fun s => .ok (s.dropIfExists table)
        perform trouble table (createStatement table b.columns) (·.createTable table b.columns)
        copyStaged trouble table)
      (·.created table b) := by
  refine ((follows_stage b).bind fun _ => (follows_perform (dropStatement table) _).bind fun _ =>
    (follows_perform (createStatement table b.columns) _).bind fun _ =>
      follows_copyStaged).congr fun s => ?_
  unfold Session.created
  cases s.stage b with
  | error e => rfl
  | ok staged =>
      simp only [Except.map, ok_bind]
      cases (staged.dropIfExists table).createTable table b.columns <;> rfl

/-- And the work by which a batch is appended. -/
theorem follows_appended (b : Batch) :
    Follows trouble table
      (do
        stage trouble table b
        copyStaged trouble table)
      (·.appended table b) := by
  refine ((follows_stage b).bind fun _ => follows_copyStaged).congr fun s => ?_
  unfold Session.appended
  cases s.stage b <;> rfl

end Work

namespace Session

variable {trouble : Trouble} {s : Session} {table : String}

/-! ## Writes under some trouble -/

/-- A table is created as the engine makes it, or the session is as it was. -/
theorem createUnder_eq (trouble : Trouble) (s : Session) (table : String) (b : Batch) :
    ∃ answer, Work.Settled trouble table s (s.created table b) answer ∧
      s.createUnder trouble table b =
        if b.columns.isEmpty then
          (.error (.load table "cannot create a table from a batch with no columns"), s)
        else answer := by
  refine ⟨_, Work.settled_transact (Work.follows_created b) (c := { session := s }) rfl, ?_⟩
  unfold createUnder Work.create Work.createWith
  split <;> rfl

/-- Nothing is appended to a table whose columns cannot be asked for. -/
theorem appendUnder_of_failure {failure : Failure}
    (h : trouble { session := s } (schemaStatement table) = some failure) (b : Batch) :
    s.appendUnder trouble table b = (.error (.load table failure.reason), s) := by
  unfold appendUnder Work.append Work.appendWith Work.tableSchema
  rw [Work.on, Work.bind_apply, Work.bind_apply, Work.issue_apply, h]
  rfl

/-- To a table with the columns of the batch its rows are appended as the engine does it, or the
session is as it was. -/
theorem appendUnder_eq (h : trouble { session := s } (schemaStatement table) = none) (b : Batch) :
    ∃ answer, Work.Settled trouble table s (s.appended table b) answer ∧
      s.appendUnder trouble table b =
        match s.tableSchema table with
        | .error e => (.error e, s)
        | .ok existing =>
          if existing.isEmpty then (.error (.missingTable table), s)
          else if !b.sameSchema existing then
            (.error (.schemaMismatch table (Column.describe existing)
              (Column.describe b.columns)), s)
          else answer := by
  refine ⟨_, Work.settled_transact (Work.follows_appended b)
    (c := Connection.ask { session := s } (schemaStatement table)) rfl, ?_⟩
  unfold appendUnder Work.append Work.appendWith Work.tableSchema
  rw [Work.on, Work.bind_apply, Work.bind_apply, Work.issue_apply, h]
  have hget : ∀ {α : Type} (f : Connection → Work α) (c : Connection), (get >>= f) c = f c c :=
    fun _ _ => rfl
  have hsession : (Connection.ask { session := s } (schemaStatement table)).session = s := rfl
  dsimp only
  rw [hget, hsession]
  cases s.tableSchema table with
  | error e => rfl
  | ok existing =>
      have hread : ∀ c : Connection,
          (MonadExcept.ofExcept (.ok existing) : Work (List Column)) c = (.ok existing, c) :=
        fun _ => rfl
      rw [hread]
      dsimp only
      by_cases hnone : existing.isEmpty
      · rw [if_pos hnone, if_pos hnone]
        rfl
      · rw [if_neg hnone, if_neg hnone]
        by_cases hdiffers : !b.sameSchema existing
        · rw [if_pos hdiffers, if_pos hdiffers]
          rfl
        · rw [if_neg hdiffers, if_neg hdiffers]
          rfl

/-! ## Writes without trouble -/

/-- A table is created as the engine makes it. -/
theorem create_eq (s : Session) (table : String) (b : Batch) :
    s.create table b =
      if b.columns.isEmpty then
        (.error (.load table "cannot create a table from a batch with no columns"), s)
      else s.settle table (s.created table b) := by
  obtain ⟨answer, hanswer, h⟩ := createUnder_eq .never s table b
  rw [create, h, hanswer.eq_settle]

/-- A batch is appended as the engine does it. -/
theorem append_eq (s : Session) (table : String) (b : Batch) :
    s.append table b =
      match s.tableSchema table with
      | .error e => (.error e, s)
      | .ok existing =>
        if existing.isEmpty then (.error (.missingTable table), s)
        else if !b.sameSchema existing then
          (.error (.schemaMismatch table (Column.describe existing)
            (Column.describe b.columns)), s)
        else s.settle table (s.appended table b) := by
  have hnever : Trouble.never { session := s } (schemaStatement table) = none := rfl
  obtain ⟨answer, hanswer, h⟩ := appendUnder_eq hnever b
  rw [append, h, hanswer.eq_settle]

/-- A table is dropped as the engine does it. -/
theorem dropTable_eq (s : Session) (table : String) : s.dropTable table = s.dropIfExists table := rfl

/-! ## With and without trouble -/

/-- Creating a table under some trouble comes to the same as without, or the session is as it was. -/
theorem createUnder_cases (trouble : Trouble) (s : Session) (table : String) (b : Batch) :
    s.createUnder trouble table b = s.create table b ∨
      ∃ reason, s.createUnder trouble table b = (.error (.load table reason), s) := by
  obtain ⟨answer, hanswer, h⟩ := createUnder_eq trouble s table b
  rw [h, create_eq]
  by_cases hnone : b.columns.isEmpty
  · rw [if_pos hnone, if_pos hnone]
    exact .inl rfl
  · rw [if_neg hnone, if_neg hnone]
    cases hanswer with
    | done n s' hdone => exact .inl (by rw [hdone, settle_ok])
    | undone reason _ => exact .inr ⟨reason, rfl⟩

/-- Appending a batch under some trouble comes to the same as without, or the session is as it was. A
batch that would be refused for its columns is refused for them. -/
theorem appendUnder_cases (h : trouble { session := s } (schemaStatement table) = none)
    (b : Batch) :
    s.appendUnder trouble table b = s.append table b ∨
      s.append table b = s.settle table (s.appended table b) ∧
        ∃ reason, s.appendUnder trouble table b = (.error (.load table reason), s) := by
  obtain ⟨answer, hanswer, h⟩ := appendUnder_eq h b
  rw [h, append_eq]
  cases s.tableSchema table with
  | error e => exact .inl rfl
  | ok existing =>
      dsimp only
      by_cases hnone : existing.isEmpty
      · rw [if_pos hnone, if_pos hnone]
        exact .inl rfl
      · rw [if_neg hnone, if_neg hnone]
        by_cases hdiffers : !b.sameSchema existing
        · rw [if_pos hdiffers, if_pos hdiffers]
          exact .inl rfl
        · rw [if_neg hdiffers, if_neg hdiffers]
          cases hanswer with
          | done n s' hdone => exact .inl (by rw [hdone, settle_ok])
          | undone reason _ => exact .inr ⟨rfl, reason, rfl⟩

/-- Dropping a table under some trouble comes to the same as without, or the session is as it was. -/
theorem dropTableUnder_cases (trouble : Trouble) (s : Session) (table : String) :
    s.dropTableUnder trouble table = (.ok (), s.dropTable table) ∨
      ∃ reason, s.dropTableUnder trouble table = (.error (.load table reason), s) := by
  have h : Work.Settled trouble table s ((Except.ok (s.dropIfExists table)).map ((), ·))
      (s.dropTableUnder trouble table) :=
    Work.settled_execute (dropStatement table)
      (fun s => (Except.ok (s.dropIfExists table)).map ((), ·)) s
  generalize s.dropTableUnder trouble table = answer at h ⊢
  cases h with
  | done a s' hdone =>
      cases hdone
      exact .inl rfl
  | undone reason _ => exact .inr ⟨reason, rfl⟩

end Session

end DataMart
