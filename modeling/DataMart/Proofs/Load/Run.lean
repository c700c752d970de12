import DataMart.Proofs.Load.Progress

/-!
# Runs

A run loads its specs one after another, and every load stays with its own table.

* `Pipeline.sceneAt` is what a run has come to after so many specs; `sceneAt_succ` is one load, and
  `getElem?_tables_run` the entry that it adds to the report.
* `table?_run_of_unused`: a run leaves alone what no spec names. `exists_run_of_lone`: a spec whose
  table no other spec uses is loaded as if alone.
* `run_follows_courses`: every entry of the report, and the table that is left, say what the course
  of that load is.
-/

namespace DataMart

namespace Pipeline

section steps

variable {ω : Type}

/-- Loading two lists of specs is loading them one after the other. -/
theorem run_append (p : Pipeline) (c : Connector ω) (before after : List TableSpec)
    (scene : Scene ω) :
    p.run c (before ++ after) scene =
      (⟨(p.run c before scene).1.tables ++ (p.run c after (p.run c before scene).2).1.tables⟩,
        (p.run c after (p.run c before scene).2).2) := by
  induction before generalizing scene with
  | nil => rfl
  | cons spec rest ih =>
      simp only [List.cons_append, run]
      rw [ih]

/-- A report has as many entries as there are specs. -/
theorem length_tables_run (p : Pipeline) (c : Connector ω) (specs : List TableSpec)
    (scene : Scene ω) : (p.run c specs scene).1.tables.length = specs.length := by
  have h := congrArg List.length (tables_run p c specs scene)
  rwa [List.length_map, List.length_map] at h

/-- The scene that a run has come to after the first `i` specs. -/
def sceneAt (p : Pipeline) (c : Connector ω) (specs : List TableSpec) (scene : Scene ω) (i : Nat) :
    Scene ω :=
  (p.run c (specs.take i) scene).2

variable (p : Pipeline) (c : Connector ω) (specs : List TableSpec) (scene : Scene ω)

/-- One more spec is one more load. -/
theorem sceneAt_succ {i : Nat} (hi : i < specs.length) :
    p.sceneAt c specs scene (i + 1) = (p.loadTable c specs[i] (p.sceneAt c specs scene i)).2 := by
  unfold sceneAt
  rw [List.take_succ_eq_append_getElem hi, run_append]
  rfl

/-- The rest of the specs is loaded from there. -/
theorem run_eq_of_sceneAt (i : Nat) :
    p.run c specs scene =
      (⟨(p.run c (specs.take i) scene).1.tables ++
          (p.run c (specs.drop i) (p.sceneAt c specs scene i)).1.tables⟩,
        (p.run c (specs.drop i) (p.sceneAt c specs scene i)).2) := by
  unfold sceneAt
  rw [← run_append, List.take_append_drop]

/-- The entry of a spec tells the outcome of its load. -/
theorem getElem?_tables_run {i : Nat} (hi : i < specs.length) :
    (p.run c specs scene).1.tables[i]? =
      some ⟨specs[i].table, (p.loadTable c specs[i] (p.sceneAt c specs scene i)).1⟩ := by
  have hlen := length_tables_run p c (specs.take i) scene
  rw [List.length_take_of_le (Nat.le_of_lt hi)] at hlen
  rw [run_eq_of_sceneAt p c specs scene i, List.drop_eq_getElem_cons hi]
  rw [List.getElem?_append_right (Nat.le_of_eq hlen), hlen, Nat.sub_self]
  rfl

end steps

section frame

variable {ω : Type} {c : Connector ω}

/-- A run leaves alone what none of its specs names. -/
theorem table?_run_of_unused (hc : c.LeavesMart) (p : Pipeline) {specs : List TableSpec}
    {name : String} (hname : ∀ spec ∈ specs, Text.sameName spec.table name = false)
    (scene : Scene ω) : (p.run c specs scene).2.mart.table? name = scene.mart.table? name := by
  induction specs generalizing scene with
  | nil => rfl
  | cons spec rest ih =>
      obtain ⟨hspec, hrest⟩ := List.forall_mem_cons.1 hname
      exact (ih hrest _).trans (unchangedBut_loadTable hc p spec scene name hspec)

/-- What a load left is still there at the end if no later spec is of the same table. -/
theorem table?_run_of_last (hc : c.LeavesMart) (p : Pipeline) {specs : List TableSpec} {i : Nat}
    {name : String}
    (hlast : ∀ j (hj : j < specs.length), i < j → Text.sameName specs[j].table name = false)
    (scene : Scene ω) :
    (p.run c specs scene).2.mart.table? name =
      (p.sceneAt c specs scene (i + 1)).mart.table? name := by
  rw [run_eq_of_sceneAt p c specs scene (i + 1)]
  refine table?_run_of_unused hc p (fun spec hspec => ?_) _
  obtain ⟨j, hj, rfl⟩ := List.getElem_of_mem hspec
  rw [List.getElem_drop]
  exact hlast _ _ (by omega)

/-- A spec whose table no other spec uses is loaded as if alone: from what stood under its name
before the run, and nothing is done to its table afterwards. -/
theorem exists_run_of_lone (hc : c.LeavesMart) (p : Pipeline) {before after : List TableSpec}
    {spec : TableSpec}
    (hlone : ∀ other ∈ before ++ after, Text.sameName other.table spec.table = false)
    (scene : Scene ω) :
    ∃ start : Scene ω, start.mart.table? spec.table = scene.mart.table? spec.table ∧
      (p.run c (before ++ spec :: after) scene).1.tables[before.length]? =
        some ⟨spec.table, (p.loadTable c spec start).1⟩ ∧
      (p.run c (before ++ spec :: after) scene).2.mart.table? spec.table =
        (p.loadTable c spec start).2.mart.table? spec.table := by
  obtain ⟨hbefore, hafter⟩ := List.forall_mem_append.1 hlone
  have hlen := length_tables_run p c before scene
  refine ⟨(p.run c before scene).2, table?_run_of_unused hc p hbefore scene, ?_, ?_⟩
  · rw [run_append, List.getElem?_append_right (Nat.le_of_eq hlen), hlen, Nat.sub_self]
    rfl
  · rw [run_append]
    exact table?_run_of_unused hc p hafter _

end frame

section courses

variable {ω : Type}

/-- **A run does what the courses of its loads say.** The report has one entry for each spec, in
order. Each load starts from what the ones before it left, takes the answers of its source up to the
first that ends it, reports the batches written before, and leaves exactly their rows; a source
without rows leaves no table, and a load that breaks off before its first batch leaves the mart as
it was. What a load left stays until another spec of the same table is loaded, and a table that no
spec names is left alone. -/
theorem run_follows_courses (p : Pipeline) (connect : String → ω → Except Fault Unit × ω)
    (src : Source ω) (specs : List TableSpec)
    (hnames : ∀ spec ∈ specs, Text.sameName stagingName spec.table = false) (scene : Scene ω) :
    let c := Connector.ofSource connect src
    (p.run c specs scene).1.tables.length = specs.length ∧
    (∀ name, (∀ spec ∈ specs, Text.sameName spec.table name = false) →
      (p.run c specs scene).2.mart.table? name = scene.mart.table? name) ∧
    ∀ i (hi : i < specs.length), ∃ bs ending,
      Course connect src p.chunk specs[i] (p.sceneAt c specs scene i).outside bs ending
        (p.sceneAt c specs scene (i + 1)).outside ∧
      (p.run c specs scene).1.tables[i]? = some ⟨specs[i].table, outcomeOf bs ending⟩ ∧
      Leaves specs[i].table (p.sceneAt c specs scene i).mart bs ending
        (p.sceneAt c specs scene (i + 1)).mart ∧
      ((∀ j (hj : j < specs.length), i < j →
          Text.sameName specs[j].table specs[i].table = false) →
        (p.run c specs scene).2.mart.table? specs[i].table =
          (p.sceneAt c specs scene (i + 1)).mart.table? specs[i].table) := by
  intro c
  have hc : c.LeavesMart := Connector.leavesMart_ofSource connect src
  refine ⟨length_tables_run p c specs scene, fun name hunused =>
    table?_run_of_unused hc p hunused scene, fun i hi => ?_⟩
  obtain ⟨bs, ending, o', hcourse⟩ :=
    exists_course connect src p.chunk specs[i] (p.sceneAt c specs scene i).outside
  obtain ⟨m', hload, hleaves⟩ :=
    loadTable_of_course p hcourse (hnames specs[i] (List.getElem_mem hi))
      (p.sceneAt c specs scene i).mart
  have hsucc := sceneAt_succ p c specs scene hi
  have hentry := getElem?_tables_run p c specs scene hi
  replace hload : p.loadTable c specs[i] (p.sceneAt c specs scene i) =
      (outcomeOf bs ending, ⟨o', m'⟩) := hload
  rw [hload] at hsucc hentry
  rw [hsucc]
  refine ⟨bs, ending, hcourse, hentry, hleaves, fun hlast => ?_⟩
  rw [table?_run_of_last hc p hlast scene]
  exact congrArg (fun s : Scene ω => s.mart.table? specs[i].table) hsucc

/-- One table in memory, of which the third row does not fit. -/
def brokenSales : MemoryTables where
  tables := [("sales", ⟨[⟨"id", .integer⟩], [[.int 1], [.int 2], [.text "x"]]⟩)]

/-- A run that loads it, two rows at a time, into an empty mart. -/
def brokenRun : RunReport × Scene MemoryRows :=
  run ⟨2, Nat.two_pos⟩ (Connector.ofTables brokenSales) [⟨"sales", "sales_mart"⟩] ⟨⟨[], []⟩, {}⟩

/-- The load is broken off after the first batch, whose rows stay. -/
theorem brokenRun_keeps_first_batch :
    Text.sameName stagingName "sales_mart" = false ∧
    ∃ error, brokenRun.1.tables[0]? = some ⟨"sales_mart", .failed 2 error⟩ ∧
      brokenRun.2.mart.Holds "sales_mart" [⟨"id", .integer⟩] [[.int 1], [.int 2]] := by
  have hname : Text.sameName stagingName "sales_mart" = false := by decide +kernel
  obtain ⟨-, -, hloads⟩ := run_follows_courses ⟨2, Nat.two_pos⟩ brokenSales.connect MemoryRows.source
    [⟨"sales", "sales_mart"⟩] (by simpa using hname) ⟨⟨[], []⟩, {}⟩
  obtain ⟨bs, ending, hcourse, hentry, hleaves, -⟩ := hloads 0 (by decide)
  obtain ⟨rfl, rfl, -⟩ := hcourse.unique (.opened rfl (.full
    (b := ⟨[⟨"id", .integer⟩], [[.int 1], [.int 2]], by decide⟩) rfl rfl rfl
    (by decide +kernel) (.fault rfl)))
  exact ⟨hname, _, hentry, hleaves.filled _ _ rfl⟩

end courses

end Pipeline

end DataMart
