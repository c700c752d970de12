import DataMart.Proofs.Store.Locality

/-!
# What a write answers

Whatever a session finds in the mart, and under every name of a table:

* a batch that is written is counted whole (`eq_size_of_create`, `eq_size_of_append`);
* a batch that is not written meets with a fault of the table it goes to (`error_of_create`,
  `error_of_append`).
-/

namespace DataMart

namespace Session

variable {s s' : Session} {table : String} {b : Batch} {n : Nat} {e : Fault}

/-- What the engine has against a write is a fault in loading the table. -/
theorem error_of_settle {effect : Except EngineError (Nat × Session)}
    (h : (s.settle table effect).1 = .error e) : ∃ reason, e = .load table reason := by
  cases effect with
  | error engine =>
      cases h
      exact ⟨_, rfl⟩
  | ok r => cases h

/-- A table that cannot be created is one that cannot be loaded. -/
theorem error_of_create (h : (s.create table b).1 = .error e) : ∃ reason, e = .load table reason := by
  rw [create_eq] at h
  split at h
  · cases h
    exact ⟨_, rfl⟩
  · exact error_of_settle h

/-- Why columns cannot be read. -/
theorem error_of_readColumns {columns : List TableColumn} (h : readColumns table columns = .error e) :
    ∃ reason, e = .load table reason := by
  induction columns with
  | nil => cases h
  | cons c rest ih =>
      unfold readColumns at h
      split at h
      · cases h
        exact ⟨_, rfl⟩
      · cases hrest : readColumns table rest with
        | error e' =>
            rw [hrest] at h
            cases h
            exact ih hrest
        | ok columns =>
            rw [hrest] at h
            cases h

/-- A batch that cannot be appended meets no table, a table with other columns, or one that cannot
be loaded. -/
theorem error_of_append (h : (s.append table b).1 = .error e) :
    (∃ reason, e = .load table reason) ∨ e = .missingTable table ∨
      ∃ expected found, e = .schemaMismatch table expected found := by
  rw [append_eq] at h
  split at h
  · rename_i hread
    cases h
    exact .inl (error_of_readColumns hread)
  · split at h
    · cases h
      exact .inr (.inl rfl)
    · split at h
      · cases h
        exact .inr (.inr ⟨_, _, rfl⟩)
      · exact .inl (error_of_settle h)

/-- A batch of which a table was created is counted whole. -/
theorem eq_size_of_create {m : Mart} (h : (create { mart := m } table b).1 = .ok n) :
    n = b.size := by
  rcases create_cases table b with ⟨-, t, hcreate⟩ | ⟨e, hcreate⟩ | ⟨-, hcreate⟩
  · obtain ⟨m', hm', -⟩ := hcreate m
    rw [hm'] at h
    cases h
    rfl
  · rw [hcreate] at h
    cases h
  · rw [hcreate] at h
    cases h

/-- All staged rows are copied. -/
theorem eq_length_of_copyStaged {t : Table} (hs : s.staging = some t)
    (h : s.copyStaged table = .ok (n, s')) : n = t.rows.length := by
  rw [copyStaged_eq, hs] at h
  split at h
  · cases h
  · rename_i hnone
    cases hnone
  · rename_i hsome
    cases hsome
    split at h <;> cases h <;> rfl

/-- A batch that was appended is counted whole. -/
theorem eq_size_of_append (h : (s.append table b).1 = .ok n) : n = b.size := by
  rw [append_eq] at h
  split at h
  · cases h
  · split at h
    · cases h
    · split at h
      · cases h
      · cases hw : s.appended table b with
        | error engine =>
            rw [hw] at h
            cases h
        | ok r =>
            rw [hw] at h
            cases h
            obtain ⟨staged, hstaged, hcopied⟩ := bind_eq_ok hw
            cases hf : columnsFault? b.columns with
            | some engine =>
                rw [stage_eq_error hf] at hstaged
                cases hstaged
            | none =>
                obtain ⟨t, ht, -, hrows⟩ := stage_eq_ok hf s
                rw [ht] at hstaged
                cases hstaged
                rw [eq_length_of_copyStaged rfl hcopied, hrows, length_stored]

end Session

end DataMart
