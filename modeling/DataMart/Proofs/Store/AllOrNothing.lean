import DataMart.Proofs.Store.Writing

/-!
# Writing a batch is all or nothing

A write is a sequence of statements, each of which may fail, and so may the beginning and the commit
of its transaction. Whatever fails, with whatever the statement leaves behind, the mart is as it was,
also where the old table was gone already (`create_after_drop`).

`create_append_allOrNothing`: either the write is done, or the mart is as it was; in both cases the
other tables are untouched and no staging relation is left.
-/

namespace DataMart

namespace Session

variable {table : String} {b : Batch} {m : Mart} {trouble : Trouble}

/-- A write of a batch to a table of the mart `m` was done, with a result as `done` says, or the
mart is as it was. In both cases the other tables are untouched and no staging relation is left. -/
structure AllOrNothing (m : Mart) (table : String) (b : Batch)
    (answer : Except Fault Nat × Session) (done : Mart → Prop) : Prop where
  ok : ∀ n, answer.1 = .ok n → n = b.size ∧ done answer.2.mart
  error : ∀ e, answer.1 = .error e → answer.2.mart = m
  others : m.UnchangedBut table answer.2.mart
  unstaged : answer.2.staging = none

/-- A write that fails leaves the mart as it was. -/
theorem AllOrNothing.refused {e : Fault} {done : Mart → Prop} :
    AllOrNothing m table b (.error e, { mart := m }) done where
  ok n h := by cases h
  error _ _ := rfl
  others := .refl table m
  unstaged := rfl

/-- A write that is done. -/
theorem AllOrNothing.made {m' : Mart} {done : Mart → Prop} (hothers : m.UnchangedBut table m')
    (hdone : done m') : AllOrNothing m table b (.ok b.size, { mart := m' }) done where
  ok n h := by
    cases h
    exact ⟨rfl, hdone⟩
  error e h := by cases h
  others := hothers
  unstaged := rfl

/-- Creating a table is all or nothing. -/
theorem create_allOrNothing (hname : Text.sameName stagingName table = false) (trouble : Trouble)
    (m : Mart) (b : Batch) :
    AllOrNothing m table b (createUnder trouble { mart := m } table b) fun m' =>
      m'.Holds table b.columns b.rows := by
  rcases createUnder_cases trouble { mart := m } table b with h | ⟨reason, h⟩ <;> rw [h]
  · cases hf : createFault? table b.columns with
    | some e =>
        rw [create_of_fault hf]
        exact .refused
    | none =>
        have hothers := unchangedBut_create { mart := m } table b
        obtain ⟨m', ha, hm'⟩ := exists_create hname hf { mart := m }
        rw [ha] at hothers ⊢
        exact .made hothers hm'
  · exact .refused

/-- Appending a batch is all or nothing. -/
theorem append_allOrNothing (hname : Text.sameName stagingName table = false) (trouble : Trouble)
    (m : Mart) (b : Batch) :
    AllOrNothing m table b (appendUnder trouble { mart := m } table b) fun m' =>
      ∃ t t', m.table? table = some t ∧ m'.table? table = some t' ∧
        t'.columns = t.columns ∧ t'.rows = t.rows ++ b.stored := by
  cases hanswered : trouble { session := { mart := m } } (schemaStatement table) with
  | some failure =>
      rw [appendUnder_of_failure hanswered]
      exact .refused
  | none =>
      rcases appendUnder_cases hanswered b with h | ⟨-, reason, h⟩ <;> rw [h]
      · have hothers := unchangedBut_append { mart := m } table b
        rcases append_cases hname m b with ⟨-, ha⟩ | ⟨t, -, -, reason, ha⟩ |
          ⟨t, existing, -, -, -, ha⟩ | ⟨t, m', ht, -, ha, hm'⟩ <;> rw [ha] at hothers ⊢
        · exact .refused
        · exact .refused
        · exact .refused
        · exact .made hothers ⟨t, _, ht, hm', rfl, rfl⟩
      · exact .refused

/-! ## Which fault it is -/

/-- Appending a batch under some trouble meets with the same fault as without, where that fault is
not one in loading the table. -/
theorem appendUnder_eq_error_iff
    (h : trouble { session := { mart := m } } (schemaStatement table) = none) {e : Fault}
    (he : ∀ reason, e ≠ .load table reason) (b : Batch) :
    (appendUnder trouble { mart := m } table b).1 = .error e ↔
      (append { mart := m } table b).1 = .error e := by
  rcases appendUnder_cases h b with h | ⟨hsettled, reason, h⟩ <;> rw [h]
  rw [hsettled]
  cases appended { mart := m } table b with
  | error engine =>
      rw [settle_error]
      simp [Ne.symm (he _)]
  | ok r => simp [settle, Ne.symm (he _)]

/-- A table is reported missing exactly if it is absent. -/
theorem append_eq_missingTable_iff (hname : Text.sameName stagingName table = false) (m : Mart)
    (b : Batch) (name : String) :
    (append { mart := m } table b).1 = .error (.missingTable name) ↔
      name = table ∧ m.table? table = none := by
  rcases append_cases hname m b with ⟨ht, ha⟩ | ⟨t, ht, hs, reason, ha⟩ |
    ⟨t, existing, ht, hs, hne, ha⟩ | ⟨t, m', ht, hs, ha, -⟩ <;> rw [ha]
  · simp [ht, eq_comm]
  · simp [ht]
  · simp [ht]
  · simp [ht]

/-- Columns are reported to differ exactly if the table has other columns of known types; the
report tells both lists. -/
theorem append_eq_schemaMismatch_iff (hname : Text.sameName stagingName table = false) (m : Mart)
    (b : Batch) (name expected found : String) :
    (append { mart := m } table b).1 = .error (.schemaMismatch name expected found) ↔
      name = table ∧ ∃ t existing, m.table? table = some t ∧ t.schema? = some existing ∧
        b.columns ≠ existing ∧ expected = Column.describe existing ∧
        found = Column.describe b.columns := by
  rcases append_cases hname m b with ⟨ht, ha⟩ | ⟨t, ht, hs, reason, ha⟩ |
    ⟨t, existing, ht, hs, hne, ha⟩ | ⟨t, m', ht, hs, ha, -⟩ <;> rw [ha]
  · simp [ht]
  · simp [ht, hs]
  · constructor
    · intro h
      cases h
      exact ⟨rfl, t, existing, ht, hs, hne, rfl, rfl⟩
    · rintro ⟨rfl, t', existing', ht', hs', -, rfl, rfl⟩
      rw [ht] at ht'
      cases ht'
      rw [hs] at hs'
      cases hs'
      rfl
  · simp [ht, hs]

/-! ## A failure after the old table was dropped -/

end Session

namespace Work

variable {α β : Type} {trouble : Trouble} {table : String}

/-- Work fails if whatever follows its first piece does. -/
theorem bind_fails {w : Work α} {next : α → Work β} {c : Connection}
    (h : ∀ a c', w c = (.ok a, c') → ∃ e, (next a c').1 = .error e) :
    ∃ e, ((w >>= next) c).1 = .error e := by
  rw [bind_apply]
  rcases hw : w c with ⟨e | a, c'⟩
  · exact ⟨e, rfl⟩
  · exact h a c' hw

/-- A transaction fails if its work does. -/
theorem transact_fails {w : Work α} (h : ∀ c, ∃ e, (w c).1 = .error e) (c : Connection) :
    ∃ e, (transact trouble table w c).1 = .error e := by
  rw [transact_apply]
  cases trouble c ⟨"BEGIN", []⟩ with
  | some failure => exact ⟨_, rfl⟩
  | none =>
      obtain ⟨e, he⟩ := h (c.ask ⟨"BEGIN", []⟩).start
      rcases hw : w (c.ask ⟨"BEGIN", []⟩).start with ⟨e' | a, c'⟩
      · exact ⟨e', rfl⟩
      · rw [hw] at he
        cases he

/-- What a staged batch leaves of the session. -/
theorem session_stage {b : Batch} {c c' : Connection} (h : stage trouble table b c = (.ok (), c')) :
    ∃ t, c'.session = { c.session with staging := some t } ∧ t.name = stagingName := by
  have hdone : (c.session.stage b).map ((), ·) = .ok ((), c'.session) := (follows_stage b).eq_ok h
  cases hf : columnsFault? b.columns with
  | some e =>
      rw [Session.stage_eq_error hf] at hdone
      cases hdone
  | none =>
      obtain ⟨t, ht, hname, -⟩ := Session.stage_eq_ok hf c.session
      rw [ht] at hdone
      cases c'
      cases hdone
      exact ⟨t, rfl, hname⟩

end Work

namespace Session

variable {table : String} {trouble : Trouble}

/-- Where every statement fails once a table is gone, the table cannot be created anew, and the old
one is back. -/
theorem create_after_drop (hname : Text.sameName stagingName table = false)
    (h : ∀ c statement, c.session.mart.table? table = none →
      ∃ failure, trouble c statement = some failure) (m : Mart) (b : Batch) :
    ∃ reason, createUnder trouble { mart := m } table b =
      (.error (.load table reason), { mart := m }) := by
  have hfails : ∃ e, (createUnder trouble { mart := m } table b).1 = .error e := by
    unfold createUnder Work.create Work.createWith
    split
    · exact ⟨_, rfl⟩
    · refine Work.transact_fails (fun c => ?_) _
      -- the work goes wrong at the latest where the table is to be created
      refine Work.bind_fails fun _ staged hstaged => Work.bind_fails fun _ dropped hdropped =>
        Work.bind_fails fun _ created hcreated => ?_
      obtain ⟨t, hsession, ht⟩ := Work.session_stage hstaged
      have hdrop : (Except.ok (staged.session.dropIfExists table)).map ((), ·) =
          (.ok ((), dropped.session) : Except EngineError (Unit × Session)) :=
        (Work.follows_perform (dropStatement table) _).eq_ok hdropped
      have hgone : dropped.session.mart.table? table = none := by
        injection hdrop with hdrop
        rw [← (Prod.mk.inj hdrop).2, hsession, dropIfExists_beside (by rw [ht]; exact hname)]
        exact Mart.table?_drop_self _ table
      obtain ⟨failure, hfailure⟩ :=
        h dropped (createStatement table b.columns) hgone
      rw [Work.perform, Work.execute_apply, hfailure] at hcreated
      cases hcreated
  obtain ⟨answer, hanswer, h⟩ := createUnder_eq trouble { mart := m } table b
  rw [h] at hfails ⊢
  split
  · exact ⟨_, rfl⟩
  · rename_i hcolumns
    rw [if_neg hcolumns] at hfails
    cases hanswer with
    | done n s' _ =>
        obtain ⟨e, he⟩ := hfails
        cases he
    | undone reason _ => exact ⟨reason, rfl⟩

/-! ## All or nothing -/

/-- **A write is all or nothing.** Under every name but the staging relation's own, and whatever
trouble there is with the statements, creating a table from a batch and appending a batch either do
all of their work or leave the mart as it was, and touch no other table; `create` leaves exactly the
batch, `append` adds its rows at the end. A table whose columns cannot be asked for is not appended
to. Otherwise an absent table and differing columns are reported exactly as such, whatever else goes
wrong. -/
theorem create_append_allOrNothing (hname : Text.sameName stagingName table = false)
    (trouble : Trouble) (m : Mart) (b : Batch) :
    (AllOrNothing m table b (createUnder trouble { mart := m } table b) fun m' =>
      m'.Holds table b.columns b.rows) ∧
    (AllOrNothing m table b (appendUnder trouble { mart := m } table b) fun m' =>
      ∃ t t', m.table? table = some t ∧ m'.table? table = some t' ∧
        t'.columns = t.columns ∧ t'.rows = t.rows ++ b.stored) ∧
    (∀ failure, trouble { session := { mart := m } } (schemaStatement table) = some failure →
      appendUnder trouble { mart := m } table b =
        (.error (.load table failure.reason), { mart := m })) ∧
    (trouble { session := { mart := m } } (schemaStatement table) = none →
      (∀ name, (appendUnder trouble { mart := m } table b).1 = .error (.missingTable name) ↔
        name = table ∧ m.table? table = none) ∧
      ∀ name expected found,
        (appendUnder trouble { mart := m } table b).1 =
            .error (.schemaMismatch name expected found) ↔
          name = table ∧ ∃ t existing, m.table? table = some t ∧ t.schema? = some existing ∧
            b.columns ≠ existing ∧ expected = Column.describe existing ∧
            found = Column.describe b.columns) := by
  refine ⟨create_allOrNothing hname trouble m b, append_allOrNothing hname trouble m b,
    fun failure h => appendUnder_of_failure h b, fun h => ⟨fun name => ?_, ?_⟩⟩
  · rw [appendUnder_eq_error_iff h (by simp), append_eq_missingTable_iff hname]
  · intro name expected found
    rw [appendUnder_eq_error_iff h (by simp), append_eq_schemaMismatch_iff hname]

/-- A batch of two numbers. -/
def twoSales : Batch := ⟨[⟨"sale_id", .integer⟩], [[.int 8], [.int 9]], by decide⟩

/-- A mart with one row in its table of sales. -/
def salesMart : Mart where
  tables := [⟨"fct_sales", [⟨"sale_id", "BIGINT"⟩], [[.int 7]], by decide, by decide⟩]

/-- The disk is full as soon as the table of sales is gone. -/
def fullDisk : Trouble := fun c _ =>
  match c.session.mart.table? "fct_sales" with
  | some _ => none
  | none => some ⟨"error returned from database: (code: 13) database or disk is full", c.session⟩

/-- Creating the table of sales anew drops the old one and then fails on the full disk: the old one
is back. To a table that is not there nothing is appended, and to the table of sales the two are
where nothing goes wrong. -/
theorem sales_kept_on_full_disk :
    Text.sameName stagingName "fct_sales" = false ∧
    (∃ e, (createUnder fullDisk { mart := salesMart } "fct_sales" twoSales).1 = .error e) ∧
    (createUnder fullDisk { mart := salesMart } "fct_sales" twoSales).2.mart = salesMart ∧
    (appendUnder fullDisk { mart := salesMart } "dim_store" twoSales).1 =
      .error (.missingTable "dim_store") ∧
    (appendUnder .never { mart := salesMart } "fct_sales" twoSales).1 = .ok 2 ∧
    ∃ t', (appendUnder .never { mart := salesMart } "fct_sales" twoSales).2.mart.table?
      "fct_sales" = some t' ∧ t'.rows = [[.int 7], [.int 8], [.int 9]] := by
  have hsales : Text.sameName stagingName "fct_sales" = false := by decide +kernel
  have hstores : Text.sameName stagingName "dim_store" = false := by decide +kernel
  have hfull : ∀ c statement, c.session.mart.table? "fct_sales" = none →
      ∃ failure, fullDisk c statement = some failure := by
    intro c statement hgone
    unfold fullDisk
    rw [hgone]
    exact ⟨_, rfl⟩
  obtain ⟨reason, hcreate⟩ := create_after_drop hsales hfull salesMart twoSales
  have hkept := (create_append_allOrNothing hsales fullDisk salesMart twoSales).1.error
    (.load "fct_sales" reason) (by rw [hcreate])
  obtain ⟨-, -, -, hanswered⟩ := create_append_allOrNothing hstores fullDisk salesMart twoSales
  obtain ⟨hmissing, -⟩ := hanswered rfl
  obtain ⟨-, happend, -⟩ := create_append_allOrNothing hsales .never salesMart twoSales
  obtain ⟨m', hok, -⟩ := exists_append (b := twoSales) hsales (m := salesMart) rfl rfl
  have htwo : (appendUnder .never { mart := salesMart } "fct_sales" twoSales).1 = .ok 2 :=
    congrArg Prod.fst hok
  obtain ⟨-, t, t', ht, ht', -, hrows⟩ := happend.ok 2 htwo
  cases ht
  exact ⟨hsales, ⟨_, by rw [hcreate]⟩, hkept, (hmissing _).2 ⟨rfl, rfl⟩, htwo, t', ht', hrows⟩

end Session

end DataMart
