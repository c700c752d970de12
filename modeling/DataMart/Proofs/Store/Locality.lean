import DataMart.Proofs.Store.Writing

/-!
# What a write depends on

Of all that a mart holds, a write looks at the table under its own name only, and it leaves no
staging relation to the next write.

* `session_create`, `session_append`: the session after a write is its mart.
* `create_of_staged`: nothing can be created under the name of the staging relation. What the engine
  has against it depends on whether a table of that name is there.
* `create_cases`: creating a table from a batch makes the same table of whatever is found, or fails
  for the same reason; only under the name of the staging relation are there two reasons.
* `append_congr`: appending gives the same for the same table.
-/

namespace DataMart

namespace Session

variable {table : String} {b : Batch} {m m' : Mart} {s s' : Session}

/-! ## The staging relation -/

/-- Copying the staged rows drops the staging relation. -/
theorem staging_of_copyStaged {n : Nat} (h : s.copyStaged table = .ok (n, s')) :
    s'.staging = none := by
  rw [copyStaged_eq] at h
  split at h
  · cases h
  · cases h
  · split at h <;> cases h <;> rfl

/-- A write that drops the staging relation at its end leaves none. -/
theorem staging_of_settle {effect : Except EngineError (Nat × Session)} (hs : s.staging = none)
    (h : ∀ n s', effect = .ok (n, s') → s'.staging = none) :
    (s.settle table effect).2.staging = none := by
  cases effect with
  | error e => exact hs
  | ok r => exact h r.1 r.2 rfl

/-- A session without a staging relation is its mart. -/
theorem eq_of_staging (h : s.staging = none) : s = { mart := s.mart } := by
  cases s
  cases h
  rfl

/-- After a table was created, or was not, there is no staging relation. -/
theorem session_create (m : Mart) (table : String) (b : Batch) :
    (create { mart := m } table b).2 = { mart := (create { mart := m } table b).2.mart } := by
  apply eq_of_staging
  rw [create_eq]
  split
  · rfl
  · apply staging_of_settle rfl
    intro n s' h
    obtain ⟨staged, -, h⟩ := bind_eq_ok h
    obtain ⟨emptied, -, h⟩ := bind_eq_ok h
    exact staging_of_copyStaged h

/-- After a batch was appended, or was not, there is no staging relation. -/
theorem session_append (m : Mart) (table : String) (b : Batch) :
    (append { mart := m } table b).2 = { mart := (append { mart := m } table b).2.mart } := by
  apply eq_of_staging
  rw [append_eq]
  split
  · rfl
  · split
    · rfl
    · split
      · rfl
      · apply staging_of_settle rfl
        intro n s' h
        obtain ⟨staged, -, h⟩ := bind_eq_ok h
        exact staging_of_copyStaged h

/-! ## Creating -/

/-- What the engine has against a table under the name of the staging relation. Its drop takes away
the staged rows, so that either the table of the mart is in the way or there is nothing to copy. -/
def stagedFault (table : String) (m : Mart) : Fault :=
  .load table (if (m.table? table).isSome then EngineError.tableExists table
    else .noSuchTable ("temp." ++ stagingName)).message

/-- It has the same against it where it finds the same table. -/
theorem stagedFault_congr (h : m.table? table = m'.table? table) :
    stagedFault table m = stagedFault table m' := by
  rw [stagedFault, stagedFault, h]

/-- Under the name of the staging relation nothing is created. -/
theorem create_of_staged (hname : Text.sameName stagingName table = true)
    (h : createFault? table b.columns = none) (m : Mart) :
    create { mart := m } table b = (.error (stagedFault table m), { mart := m }) := by
  obtain ⟨hne, hd, hr⟩ := (createFault?_eq_none_iff table b.columns).1 h
  have hf := (columnsFault?_eq_none_iff b.columns).2 ⟨hne, hd⟩
  obtain ⟨staged, hs, hsname, -⟩ := stage_eq_ok hf { mart := m }
  have hself : Text.sameName staged.name table = true := by rw [hsname]; exact hname
  have hdropped : dropIfExists { mart := m, staging := some staged } table = { mart := m } := by
    simp only [dropIfExists, hself, if_true]
  rw [create_eq, if_neg (by simpa using hne), created, hs, ok_bind, hdropped, stagedFault]
  cases ht : m.table? table with
  | some t =>
      have hthere : createTable { mart := m } table b.columns = .error (.tableExists table) := by
        simp only [createTable, hr, Bool.false_eq_true, if_false, ht, Option.isSome_some, if_true]
      rw [hthere, error_bind, settle_error]
      rfl
  | none =>
      obtain ⟨t, hnew, htname, -, -⟩ := exists_newTable hf table
      have hmade : createTable { mart := m } table b.columns = .ok { mart := m.put t } := by
        simp only [createTable, hr, Bool.false_eq_true, if_false, ht, Option.isSome_none, hnew,
          Except.map]
      have hfound : (m.put t).table? table = some t := by
        rw [← htname]
        exact Mart.table?_put_self m t
      rw [hmade, ok_bind]
      simp only [copyStaged_eq, resolve?, hfound, settle_error, Option.isSome_none,
        Bool.false_eq_true, if_false]

/-- What creating a table from a batch comes to, whatever the mart holds: the same table, or the
same fault, or the one that the engine has under the name of the staging relation. -/
theorem create_cases (table : String) (b : Batch) :
    (Text.sameName stagingName table = false ∧ ∃ t, ∀ m, ∃ m',
      create { mart := m } table b = (.ok b.size, { mart := m' }) ∧ m'.table? table = some t) ∨
    (∃ e, ∀ m, create { mart := m } table b = (.error e, { mart := m })) ∨
    (Text.sameName stagingName table = true ∧ ∀ m,
      create { mart := m } table b = (.error (stagedFault table m), { mart := m })) := by
  cases hf : createFault? table b.columns with
  | some e =>
      right
      left
      exact ⟨e, fun m => create_of_fault hf { mart := m }⟩
  | none =>
      cases hname : Text.sameName stagingName table with
      | false =>
          left
          obtain ⟨t, -, -, hcreated⟩ := exists_created hname hf
          exact ⟨rfl, t, fun m => hcreated { mart := m }⟩
      | true =>
          right
          right
          exact ⟨rfl, create_of_staged hname hf⟩

/-! ## Appending -/

/-- Appending a batch gives the same answer and leaves the same table where it finds the same
table. -/
theorem append_congr (hname : Text.sameName stagingName table = false)
    (h : m.table? table = m'.table? table) (b : Batch) :
    (append { mart := m } table b).1 = (append { mart := m' } table b).1 ∧
      (append { mart := m } table b).2.mart.table? table =
        (append { mart := m' } table b).2.mart.table? table := by
  cases ht' : m'.table? table with
  | none =>
      have ht := h.trans ht'
      rw [append_of_absent ht, append_of_absent ht']
      exact ⟨rfl, h⟩
  | some t =>
      have ht := h.trans ht'
      cases hs : t.schema? with
      | none =>
          obtain ⟨c, -, he⟩ := readColumns_eq_error table hs
          have hread := tableSchema_of_table? ht
          have hread' := tableSchema_of_table? ht'
          simp only [append_eq, hread, hread', he]
          exact ⟨trivial, h⟩
      | some existing =>
          by_cases hcolumns : b.columns = existing
          · subst hcolumns
            obtain ⟨n, hn, hafter⟩ := exists_append hname ht hs
            obtain ⟨n', hn', hafter'⟩ := exists_append hname ht' hs
            rw [hn, hn']
            exact ⟨rfl, hafter.trans hafter'.symm⟩
          · rw [append_of_ne ht hs hcolumns, append_of_ne ht' hs hcolumns]
            exact ⟨rfl, h⟩

end Session

namespace TableLoad

/-- Whatever a load writes, it leaves no staging relation. -/
theorem session_write (l : TableLoad) (m : Mart) (b : Batch) :
    (l.write { mart := m } b).session = { mart := (l.write { mart := m } b).session.mart } := by
  have hcreate := Session.session_create m l.table b
  have happend := Session.session_append m l.table b
  cases hl : l.state with
  | notStarted =>
      simp only [write, create, hl]
      split <;> rename_i h <;> rw [h] at hcreate <;> exact hcreate
  | loaded rows batches =>
      simp only [write, append, hl]
      split <;> rename_i h <;> rw [h] at happend <;> exact happend

/-- A load that has started does the same where it finds the same table. -/
theorem write_congr {l : TableLoad} (hname : Text.sameName stagingName l.table = false)
    (hl : l.state ≠ .notStarted) {m m' : Mart} (h : m.table? l.table = m'.table? l.table)
    (b : Batch) :
    (l.write { mart := m } b).result = (l.write { mart := m' } b).result ∧
      (l.write { mart := m } b).load = (l.write { mart := m' } b).load ∧
      (l.write { mart := m } b).session.mart.table? l.table =
        (l.write { mart := m' } b).session.mart.table? l.table := by
  obtain ⟨hanswer, htable⟩ := Session.append_congr hname h b
  cases hs : l.state with
  | notStarted => exact absurd hs hl
  | loaded rows batches =>
      simp only [write, append, hs]
      rcases hw : Session.append { mart := m } l.table b with ⟨a, s⟩
      rcases hw' : Session.append { mart := m' } l.table b with ⟨a', s'⟩
      rw [hw, hw'] at hanswer htable
      subst hanswer
      cases a with
      | error e => exact ⟨rfl, rfl, htable⟩
      | ok n => exact ⟨rfl, rfl, htable⟩

end TableLoad

end DataMart
