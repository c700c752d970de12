import DataMart.Proofs.Load.Run

/-!
# Tables that are there

A run that starts on an empty mart leaves just the tables that its report tells of: those that were
loaded, and those of which rows were written before the load was broken off (`isSome_table?_run_iff`).
The sources know of no mart, and no two specs are of one table.
-/

namespace DataMart

/-- A report of rows in the table: it was loaded, or broken off behind some of them. -/
def TableOutcome.HoldsRows : TableOutcome → Prop
  | .loaded _ _ => True
  | .noData => False
  | .failed rows _ => 0 < rows

/-- A report tells of rows in the table of a name. -/
def RunReport.HoldsRows (r : RunReport) (name : String) : Prop :=
  ∃ t ∈ r.tables, Text.sameName t.table name = true ∧ t.outcome.HoldsRows

/-- What is reported of a load tells of rows exactly if a batch was written. -/
theorem holdsRows_outcomeOf_iff {bs : List Batch} (hrows : ∀ b ∈ bs, b.isEmpty = false)
    (ending : Ending) : (outcomeOf bs ending).HoldsRows ↔ bs ≠ [] := by
  cases bs with
  | nil => cases ending <;> simp [outcomeOf, TableOutcome.HoldsRows, rowCount]
  | cons b rest =>
      have hpos := rowCount_pos (hrows b List.mem_cons_self) rest
      cases ending <;> simp [outcomeOf, TableOutcome.HoldsRows, hpos]

/-- A load into a table that was not there leaves one exactly if a batch was written. -/
theorem Leaves.isSome_table?_iff {table : String} {before after : Mart} {bs : List Batch}
    {ending : Ending} (h : Leaves table before bs ending after)
    (habsent : before.table? table = none) : (after.table? table).isSome ↔ bs ≠ [] := by
  cases bs with
  | nil =>
      have hnone : after.table? table = none := by
        cases ending with
        | drained => exact h.absent rfl rfl
        | broken e => rw [h.kept e rfl rfl, habsent]
      simp [hnone]
  | cons b rest =>
      obtain ⟨t, ht, -⟩ := h.filled b rest rfl
      simp [ht]

namespace Pipeline

variable {ω : Type} {specs : List TableSpec}

/-- Specs of which no two are of one table, and none is of the staging relation. -/
structure Apart (specs : List TableSpec) : Prop where
  distinct : specs.Pairwise fun a b => Text.sameName a.table b.table = false
  unstaged : ∀ spec ∈ specs, Text.sameName stagingName spec.table = false

/-- The specs of a layout are so. -/
theorem apart_tableSpecs (policy : FlattenPolicy) (l : Layout) : Apart (l.tableSpecs policy) := by
  cases l with
  | flat => exact ⟨List.pairwise_singleton _ _, by simp [Layout.tableSpecs]; decide +kernel⟩
  | split =>
      constructor
      · simp [Layout.tableSpecs]
        decide +kernel
      · simp [Layout.tableSpecs]
        decide +kernel

/-- A table that is found under two names of specs is that of one. -/
theorem Apart.eq_of_sameName (h : Apart specs) {i j : Nat} (hi : i < specs.length)
    (hj : j < specs.length) (hsame : Text.sameName specs[i].table specs[j].table = true) : i = j := by
  have hpairs := List.pairwise_iff_getElem.1 h.distinct
  rcases Nat.lt_trichotomy i j with hlt | heq | hlt
  · rw [hpairs i j hi hj hlt] at hsame
    cases hsame
  · exact heq
  · rw [Text.sameName_comm, hpairs j i hj hi hlt] at hsame
    cases hsame

/-- A run of such specs that starts on an empty mart leaves a table for each spec of which its report
tells rows. -/
theorem isSome_table?_run_getElem (h : Apart specs) (p : Pipeline)
    (connect : String → ω → Except Fault Unit × ω) (src : Source ω) (o : ω) {i : Nat}
    (hi : i < specs.length) :
    ∃ outcome,
      (p.run (Connector.ofSource connect src) specs ⟨o, {}⟩).1.tables[i]? =
        some ⟨specs[i].table, outcome⟩ ∧
      (((p.run (Connector.ofSource connect src) specs ⟨o, {}⟩).2.mart.table? specs[i].table).isSome ↔
        outcome.HoldsRows) := by
  obtain ⟨-, -, hloads⟩ := run_follows_courses p connect src specs h.unstaged ⟨o, {}⟩
  obtain ⟨bs, ending, hcourse, hentry, hleaves, hlast⟩ := hloads i hi
  -- the specs before this one are of other tables, and so its table was not there
  have habsent : (p.sceneAt (Connector.ofSource connect src) specs ⟨o, {}⟩ i).mart.table?
      specs[i].table = none := by
    refine table?_run_of_unused (Connector.leavesMart_ofSource connect src) p (fun spec hspec => ?_) _
    obtain ⟨j, hj, rfl⟩ := List.getElem_of_mem hspec
    rw [List.length_take] at hj
    rw [List.getElem_take]
    exact List.pairwise_iff_getElem.1 h.distinct j i (by omega) hi (by omega)
  refine ⟨outcomeOf bs ending, hentry, ?_⟩
  rw [hlast fun j hj hij => ?_, hleaves.isSome_table?_iff habsent,
    holdsRows_outcomeOf_iff hcourse.isEmpty_eq_false]
  rw [Text.sameName_comm]
  exact List.pairwise_iff_getElem.1 h.distinct i j hi hj hij

/-- **A run of such specs that starts on an empty mart leaves exactly the tables of which its report
tells rows.** -/
theorem isSome_table?_run_iff (h : Apart specs) (p : Pipeline)
    (connect : String → ω → Except Fault Unit × ω) (src : Source ω) (o : ω) (name : String) :
    ((p.run (Connector.ofSource connect src) specs ⟨o, {}⟩).2.mart.table? name).isSome ↔
      (p.run (Connector.ofSource connect src) specs ⟨o, {}⟩).1.HoldsRows name := by
  have hloads := fun i => isSome_table?_run_getElem (i := i) h p connect src o
  have hnames := tables_run p (Connector.ofSource connect src) specs ⟨o, {}⟩
  have hunused (hfree : ∀ spec ∈ specs, Text.sameName spec.table name = false) :
      (p.run (Connector.ofSource connect src) specs ⟨o, {}⟩).2.mart.table? name = none :=
    table?_run_of_unused (Connector.leavesMart_ofSource connect src) p hfree ⟨o, {}⟩
  revert hloads hnames hunused
  generalize p.run (Connector.ofSource connect src) specs ⟨o, {}⟩ = r
  intro hloads hnames hunused
  by_cases hused : ∃ spec ∈ specs, Text.sameName spec.table name = true
  · obtain ⟨spec, hspec, hsame⟩ := hused
    obtain ⟨i, hi, rfl⟩ := List.getElem_of_mem hspec
    obtain ⟨outcome, hentry, hiff⟩ := hloads i hi
    rw [← r.2.mart.table?_congr hsame, hiff]
    constructor
    · exact fun hrows => ⟨_, List.mem_of_getElem? hentry, hsame, hrows⟩
    · rintro ⟨t, ht, htname, hrows⟩
      -- the entry of that name is the one of the spec
      obtain ⟨j, hj, rfl⟩ := List.getElem_of_mem ht
      have hj' : j < specs.length := by
        rw [← List.length_map, ← hnames, List.length_map]
        exact hj
      obtain ⟨outcome', hentry', -⟩ := hloads j hj'
      rw [List.getElem?_eq_getElem hj, Option.some.injEq] at hentry'
      rw [hentry'] at htname hrows
      obtain rfl : i = j := h.eq_of_sameName hi hj' (by
        rw [Text.sameName_congr hsame, Text.sameName_comm, htname])
      rw [List.getElem?_eq_getElem hj, Option.some.injEq, hentry'] at hentry
      cases hentry
      exact hrows
  · -- no spec is of that name, and so no entry is either
    have hfree : ∀ spec ∈ specs, Text.sameName spec.table name = false := by
      intro spec hspec
      rw [← Bool.not_eq_true]
      exact fun hsame => hused ⟨spec, hspec, hsame⟩
    rw [hunused hfree]
    refine ⟨nofun, ?_⟩
    rintro ⟨t, ht, htname, -⟩
    have hmem : t.table ∈ specs.map TableSpec.table := hnames ▸ List.mem_map_of_mem ht
    obtain ⟨spec, hspec, hst⟩ := List.mem_map.1 hmem
    exact absurd ⟨spec, hspec, hst ▸ htname⟩ hused

end Pipeline

end DataMart
