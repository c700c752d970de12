import DataMart.Proofs.Load.Effect
import DataMart.Proofs.Load.Reach
import DataMart.Proofs.Load.Run

/-!
# Running again

To what stands under a name, a run either does the same wherever it starts, or nothing
(`run_settles_or_keeps`); so a second run finds its work done (`table?_run_again`). What is told of
a load does not depend on where it starts either, but for one name: that of the staging relation,
under which nothing can be created, and the reason depends on whether there is a table.
`entry_run_again` says when that shows in the report of a second run, and `run_again` asks of the
connector what it needs in the states only that the runs come to.
-/

namespace DataMart

namespace Pipeline

variable {ω : Type} {c : Connector ω} {p : Pipeline} {opens : String → Except Fault Unit}
  {answers : String → Nat → Except Fault Batch}

/-! ## What is left -/

/-- Under a name, a run leaves what the last of its specs that settles it leaves, or else what was
there. -/
theorem run_settles_or_keeps (hc : c.LeavesMart) (ha : c.AnswersByQuery p.chunk opens answers)
    (specs : List TableSpec) (name : String) :
    (∃ spec ∈ specs, Text.sameName spec.table name = true ∧ p.Settles c spec ∧
      ∀ scene scene', (p.run c specs scene).2.mart.table? name =
        (p.loadTable c spec scene').2.mart.table? spec.table) ∨
    ∀ scene, (p.run c specs scene).2.mart.table? name = scene.mart.table? name := by
  induction specs with
  | nil =>
      right
      intro scene
      rfl
  | cons spec rest ih =>
      rcases ih with ⟨other, hother, hname, hsettles, hleft⟩ | hkept
      · left
        exact ⟨other, List.mem_cons_of_mem _ hother, hname, hsettles,
          fun scene scene' => hleft _ scene'⟩
      · cases hname : Text.sameName spec.table name with
        | false =>
            right
            intro scene
            exact (hkept _).trans (unchangedBut_loadTable hc p spec scene name hname)
        | true =>
            rcases load_cases hc ha spec with hsettles | hpasses | hbalks
            · left
              refine ⟨spec, List.mem_cons_self, hname, hsettles, fun scene scene' => ?_⟩
              refine (hkept _).trans ?_
              rw [← Mart.table?_congr _ hname]
              exact (hsettles.alike scene scene').2
            · right
              intro scene
              refine (hkept _).trans ?_
              rw [← Mart.table?_congr _ hname, ← Mart.table?_congr _ hname]
              exact hpasses.left scene
            · right
              intro scene
              refine (hkept _).trans ?_
              rw [← Mart.table?_congr _ hname, ← Mart.table?_congr _ hname]
              exact hbalks.left scene

/-- A second run leaves every table as the first has left it. -/
theorem table?_run_again (hc : c.LeavesMart) (ha : c.AnswersByQuery p.chunk opens answers)
    (specs : List TableSpec) (scene : Scene ω) (name : String) :
    (p.run c specs (p.run c specs scene).2).2.mart.table? name =
      (p.run c specs scene).2.mart.table? name := by
  rcases run_settles_or_keeps hc ha specs name with ⟨spec, -, -, -, hleft⟩ | hkept
  · rw [hleft _ scene, hleft scene scene]
  · rw [hkept]

/-! ## What is told -/

/-- Under the name of the staging relation, a run leaves no table if one of its specs is told to have
no data; else it leaves what was there. -/
theorem run_clears_or_keeps (hc : c.LeavesMart) (ha : c.AnswersByQuery p.chunk opens answers)
    (specs : List TableSpec) :
    ((∃ spec ∈ specs, Text.sameName stagingName spec.table = true ∧
        ∀ scene, (p.loadTable c spec scene).1 = .noData) ∧
      ∀ scene, (p.run c specs scene).2.mart.table? stagingName = none) ∨
    ∀ scene, (p.run c specs scene).2.mart.table? stagingName = scene.mart.table? stagingName := by
  rcases run_settles_or_keeps hc ha specs stagingName with ⟨spec, hspec, hname, hsettles, hleft⟩ | hkept
  · left
    rw [Text.sameName_comm] at hname
    refine ⟨⟨spec, hspec, hname, fun scene => (hsettles.staged hname scene).1⟩, fun scene => ?_⟩
    rw [hleft scene scene]
    exact (hsettles.staged hname scene).2
  · right
    exact hkept

/-- A spec is told of otherwise by a second run: its table has the name of the staging relation, a
table of that name was there before the first run, and the first run dropped it for a later spec. So
the first run fails on the table that is there, and the second for want of one. -/
structure ToldOtherwise (specs : List TableSpec) (before : Mart) (first second : RunReport)
    (i : Nat) (hi : i < specs.length) : Prop where
  staged : Text.sameName stagingName specs[i].table = true
  found : before.table? stagingName ≠ none
  dropped : ∃ j, ∃ hj : j < specs.length, i < j ∧ Text.sameName stagingName specs[j].table = true ∧
    first.tables[j]? = some ⟨specs[j].table, .noData⟩
  told : first.tables[i]? = some ⟨specs[i].table, .failed 0 (Fault.load specs[i].table
    (EngineError.tableExists specs[i].table).message).message⟩
  toldAgain : second.tables[i]? = some ⟨specs[i].table, .failed 0 (Fault.load specs[i].table
    (EngineError.noSuchTable ("temp." ++ stagingName)).message).message⟩

/-- A load that balks is told of alike by a second run, or there was a table under the name of the
staging relation, and a later spec has dropped it. -/
theorem entry_of_balks (hc : c.LeavesMart) (ha : c.AnswersByQuery p.chunk opens answers)
    {specs : List TableSpec} (scene : Scene ω) {i : Nat} (hi : i < specs.length)
    (hbalks : p.Balks c specs[i]) :
    (p.run c specs (p.run c specs scene).2).1.tables[i]? = (p.run c specs scene).1.tables[i]? ∨
      ToldOtherwise specs scene.mart (p.run c specs scene).1
        (p.run c specs (p.run c specs scene).2).1 i hi := by
  have hname := hbalks.staged
  have hentry : ∀ s, (p.run c specs s).1.tables[i]? = some ⟨specs[i].table, .failed 0
      (Session.stagedFault specs[i].table (p.sceneAt c specs s i).mart).message⟩ := by
    intro s
    rw [getElem?_tables_run p c specs s hi, hbalks.told]
  have hsame : (p.sceneAt c specs (p.run c specs scene).2 i).mart.table? specs[i].table =
      (p.sceneAt c specs scene i).mart.table? specs[i].table →
      (p.run c specs (p.run c specs scene).2).1.tables[i]? =
        (p.run c specs scene).1.tables[i]? := by
    intro h
    rw [hentry, hentry, Session.stagedFault_congr h]
  -- what the specs before leave under the name is nothing in either run, or what they found
  rcases run_clears_or_keeps hc ha (specs.take i) with ⟨-, habsent⟩ | hbefore
  · left
    apply hsame
    rw [← Mart.table?_congr _ hname, ← Mart.table?_congr _ hname, sceneAt, sceneAt, habsent,
      habsent]
  · have hat : ∀ s, (p.sceneAt c specs s i).mart.table? specs[i].table =
        s.mart.table? stagingName := by
      intro s
      rw [← Mart.table?_congr _ hname]
      exact hbefore s
    have hthrough : (p.sceneAt c specs scene (i + 1)).mart.table? stagingName =
        scene.mart.table? stagingName := by
      rw [sceneAt_succ p c specs scene hi, Mart.table?_congr _ hname, hbalks.left, hat]
    have hend : (p.run c specs scene).2 =
        (p.run c (specs.drop (i + 1)) (p.sceneAt c specs scene (i + 1))).2 := by
      rw [run_eq_of_sceneAt p c specs scene (i + 1)]
    -- so what counts is what the specs behind leave
    rcases run_clears_or_keeps hc ha (specs.drop (i + 1)) with
      ⟨⟨spec, hspec, hstaged, hempty⟩, habsent⟩ | hkept
    · by_cases hnone : scene.mart.table? stagingName = none
      · left
        apply hsame
        rw [hat, hat, hend, habsent, hnone]
      · right
        obtain ⟨k, hk, rfl⟩ := List.getElem_of_mem hspec
        have hj : i + 1 + k < specs.length := by
          rw [List.length_drop] at hk
          omega
        rw [List.getElem_drop] at hstaged hempty
        refine ⟨hname, hnone, ⟨i + 1 + k, hj, by omega, hstaged, ?_⟩, ?_, ?_⟩
        · rw [getElem?_tables_run p c specs scene hj, hempty]
        · rw [hentry, Session.stagedFault, hat, if_pos (Option.isSome_iff_ne_none.2 hnone)]
        · rw [hentry, Session.stagedFault, hat, hend, habsent]
          rfl
    · left
      apply hsame
      rw [hat, hat, hend, hkept, hthrough]

/-- The entry of a spec is the same in the report of a second run, unless the spec is told of
otherwise. -/
theorem entry_run_again (hc : c.LeavesMart) (ha : c.AnswersByQuery p.chunk opens answers)
    (specs : List TableSpec) (scene : Scene ω) (i : Nat) (hi : i < specs.length) :
    (p.run c specs (p.run c specs scene).2).1.tables[i]? = (p.run c specs scene).1.tables[i]? ∨
      ToldOtherwise specs scene.mart (p.run c specs scene).1
        (p.run c specs (p.run c specs scene).2).1 i hi := by
  have hentry := getElem?_tables_run p c specs scene hi
  have hentry' := getElem?_tables_run p c specs (p.run c specs scene).2 hi
  rcases load_cases hc ha specs[i] with hsettles | hpasses | hbalks
  · left
    rw [hentry, hentry', (hsettles.alike _ (p.sceneAt c specs scene i)).1]
  · left
    rw [hentry, hentry', hpasses.alike _ (p.sceneAt c specs scene i)]
  · exact entry_of_balks hc ha scene hi hbalks

/-- A second run, right after the first, changes nothing in the mart, and nothing in the report but
where a spec is told of otherwise. -/
structure Repeats (p : Pipeline) (c : Connector ω) (specs : List TableSpec) (scene : Scene ω) :
    Prop where
  /-- Every table is left as it was. -/
  left : ∀ name, (p.run c specs (p.run c specs scene).2).2.mart.table? name =
    (p.run c specs scene).2.mart.table? name
  /-- Every entry is the same, or the spec is told of otherwise. -/
  told : ∀ i (hi : i < specs.length),
    (p.run c specs (p.run c specs scene).2).1.tables[i]? = (p.run c specs scene).1.tables[i]? ∨
      ToldOtherwise specs scene.mart (p.run c specs scene).1
        (p.run c specs (p.run c specs scene).2).1 i hi
  /-- The report is the same if no table was there under the name of the staging relation, or if at
  most one spec is of that name. -/
  report : (scene.mart.table? stagingName = none ∨
      specs.Pairwise (fun a b => ¬ (Text.sameName stagingName a.table = true ∧
        Text.sameName stagingName b.table = true))) →
    (p.run c specs (p.run c specs scene).2).1 = (p.run c specs scene).1

/-- Every run may be repeated over a connector that leaves the mart alone and answers by the
query. -/
theorem repeats_of_leavesMart (hc : c.LeavesMart) (ha : c.AnswersByQuery p.chunk opens answers)
    (specs : List TableSpec) (scene : Scene ω) : Repeats p c specs scene := by
  refine ⟨table?_run_again hc ha specs scene, entry_run_again hc ha specs scene, ?_⟩
  intro hfree
  have htables : (p.run c specs (p.run c specs scene).2).1.tables =
      (p.run c specs scene).1.tables := by
    apply List.ext_getElem?
    intro i
    by_cases hi : i < specs.length
    · rcases entry_run_again hc ha specs scene i hi with hsame | hother
      · exact hsame
      · obtain ⟨j, hj, hij, hstaged, -⟩ := hother.dropped
        rcases hfree with hnone | hpairwise
        · exact absurd hnone hother.found
        · exact absurd ⟨hother.staged, hstaged⟩ (List.pairwise_iff_getElem.1 hpairwise i j hi hj hij)
    · rw [List.getElem?_eq_none, List.getElem?_eq_none]
      · rw [length_tables_run]
        exact Nat.le_of_not_lt hi
      · rw [length_tables_run]
        exact Nat.le_of_not_lt hi
  exact congrArg RunReport.mk htables

/-- What may be repeated over the states that are reached may be repeated. -/
theorem Repeats.forget {o : ω} {specs : List TableSpec} {s : Scene { o' // c.Reaches o o' }}
    (h : Repeats p (c.reached o) specs s) : Repeats p c specs s.forget := by
  obtain ⟨hleft, htold, hreport⟩ := h
  constructor
  · simpa only [run_forget, Scene.mart_forget] using hleft
  · simpa only [run_forget, Scene.mart_forget] using htold
  · simpa only [run_forget, Scene.mart_forget] using hreport

/-- **Running again changes no table, and nothing in the report.** Over a connector that leaves the
mart alone and answers by the query, in the states that it comes to, a second run leaves under every
name what the first has left, whatever the specs and the mart at the start are. Its report is the
same, entry by entry, but for failures under the name of the staging relation: where a table of that
name was there at the start and was dropped for a later spec of that name, the reason that is told
is another. -/
theorem run_again (scene : Scene ω) (hc : c.LeavesMartFrom scene.outside)
    (ha : c.AnswersByQueryFrom p.chunk scene.outside opens answers) (specs : List TableSpec) :
    Repeats p c specs scene := by
  have hreached : Repeats p (c.reached scene.outside) specs ⟨⟨scene.outside, .start⟩, scene.mart⟩ :=
    repeats_of_leavesMart (Connector.leavesMart_reached hc) (Connector.answersByQuery_reached ha)
      specs _
  exact hreached.forget

/-- Two specs under the name of the staging relation: some sales, and shifts without rows. -/
def clashSpecs : List TableSpec := [⟨"sales", stagingName⟩, ⟨"shifts", stagingName⟩]

/-- The sales and the shifts in memory. -/
def clashTables : MemoryTables where
  tables := [("sales", ⟨[⟨"id", .integer⟩], [[.int 1]]⟩), ("shifts", ⟨[⟨"id", .integer⟩], []⟩)]

/-- A mart in which somebody has made a table of that name. -/
def clashScene : Scene MemoryRows where
  outside := ⟨[], []⟩
  mart := ⟨[⟨stagingName, [⟨"id", "BIGINT"⟩], [], by decide, by decide⟩]⟩

/-- A run that loads them into the mart. -/
def clashRun (scene : Scene MemoryRows) : RunReport × Scene MemoryRows :=
  run ⟨2, Nat.two_pos⟩ (Connector.ofTables clashTables) clashSpecs scene

/-- The sales balk at the name. -/
theorem clash_sales_balks :
    Balks ⟨2, Nat.two_pos⟩ (Connector.ofTables clashTables) ⟨"sales", stagingName⟩ := by
  have hc : (Connector.ofTables clashTables).LeavesMart := Connector.leavesMart_ofSource _ _
  have ha := Connector.answersByQuery_ofTables clashTables 2
  have hdrawn : DrawsFirst ⟨2, Nat.two_pos⟩ (Connector.ofTables clashTables) ⟨"sales", stagingName⟩
      (.ok (some ⟨[⟨"id", .integer⟩], [[.int 1]], by decide⟩)) _ _ :=
    drawsFirst_of_opened (p := ⟨2, Nat.two_pos⟩) hc ha rfl
  have hname : Text.sameName stagingName stagingName = true := by decide +kernel
  apply hdrawn.balks_of_refused hc hname
  apply Session.create_of_staged hname
  decide +kernel

/-- The shifts have no rows. -/
theorem clash_shifts_settles :
    Settles ⟨2, Nat.two_pos⟩ (Connector.ofTables clashTables) ⟨"shifts", stagingName⟩ := by
  have hc : (Connector.ofTables clashTables).LeavesMart := Connector.leavesMart_ofSource _ _
  have ha := Connector.answersByQuery_ofTables clashTables 2
  have hdrawn : DrawsFirst ⟨2, Nat.two_pos⟩ (Connector.ofTables clashTables)
      ⟨"shifts", stagingName⟩ (.ok none) _ _ :=
    drawsFirst_of_opened (p := ⟨2, Nat.two_pos⟩) hc ha rfl
  exact hdrawn.settles_of_none

/-- The first run finds the table in the way of the sales and drops it for the shifts; the second
does not find it. -/
theorem clashRun_tells_otherwise :
    (Connector.ofTables clashTables).LeavesMart ∧
    (∃ opens answers, (Connector.ofTables clashTables).AnswersByQuery 2 opens answers) ∧
    (clashRun (clashRun clashScene).2).1 ≠ (clashRun clashScene).1 := by
  refine ⟨Connector.leavesMart_ofSource clashTables.connect MemoryRows.source,
    ⟨_, _, Connector.answersByQuery_ofTables clashTables 2⟩, ?_⟩
  have hfirst : ∀ scene, (clashRun scene).1.tables[0]? = some ⟨stagingName, .failed 0
      (Session.stagedFault stagingName scene.mart).message⟩ := by
    intro scene
    rw [← clash_sales_balks.told scene]
    rfl
  have hdropped : (clashRun clashScene).2.mart.table? stagingName = none :=
    (clash_shifts_settles.staged (by decide +kernel) _).2
  intro h
  have h0 : (clashRun (clashRun clashScene).2).1.tables[0]? = (clashRun clashScene).1.tables[0]? := by
    rw [h]
  rw [hfirst, hfirst, Session.stagedFault, hdropped] at h0
  revert h0
  decide +kernel

/-- Sales that break off, loaded twice under one name, and between them some that are not there. -/
def repeatedSpecs : List TableSpec :=
  [⟨"sales", "sales_mart"⟩, ⟨"lines", "lines_mart"⟩, ⟨"sales", "SALES_MART"⟩]

/-- A run that loads them, two rows at a time. -/
def repeatedRun (scene : Scene MemoryRows) : RunReport × Scene MemoryRows :=
  run ⟨2, Nat.two_pos⟩ (Connector.ofTables brokenSales) repeatedSpecs scene

/-- It may be repeated. -/
theorem repeatedRun_again :
    (Connector.ofTables brokenSales).LeavesMartFrom ⟨[], []⟩ ∧
    (∃ opens answers,
      (Connector.ofTables brokenSales).AnswersByQueryFrom 2 ⟨[], []⟩ opens answers) ∧
    (repeatedRun (repeatedRun ⟨⟨[], []⟩, {}⟩).2).1 = (repeatedRun ⟨⟨[], []⟩, {}⟩).1 ∧
    ∀ name, (repeatedRun (repeatedRun ⟨⟨[], []⟩, {}⟩).2).2.mart.table? name =
      (repeatedRun ⟨⟨[], []⟩, {}⟩).2.mart.table? name := by
  have hc : (Connector.ofTables brokenSales).LeavesMartFrom ⟨[], []⟩ :=
    (Connector.leavesMart_ofSource brokenSales.connect MemoryRows.source).leavesMartFrom _
  have ha := (Connector.answersByQuery_ofTables brokenSales 2).answersByQueryFrom
    (⟨[], []⟩ : MemoryRows)
  have hrepeats :=
    run_again (p := ⟨2, Nat.two_pos⟩) (⟨⟨[], []⟩, {}⟩ : Scene MemoryRows) hc ha repeatedSpecs
  exact ⟨hc, ⟨_, _, ha⟩, hrepeats.report (.inl rfl), hrepeats.left⟩

end Pipeline

end DataMart
