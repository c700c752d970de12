import DataMart.Proofs.Load.Effect
import DataMart.Proofs.Load.Memory
import DataMart.Proofs.Load.Reach

/-!
# Tables load independently

A load depends on nothing in the mart but what stands under its own name (`loadTable_congr`), and it
leaves everything else alone. So the loads of a run over different tables might each have been run
alone (`run_of_distinct`), and in any order (`run_eq_alone`). The connector need keep to its part
in the states only that it comes to.
-/

namespace DataMart

namespace Pipeline

variable {ω : Type} {c : Connector ω} {p : Pipeline} {opens : String → Except Fault Unit}
  {answers : String → Nat → Except Fault Batch}

/-- Loads of a spec that find the same table tell the same and leave the same table. -/
theorem loadTable_congr (hc : c.LeavesMart) (ha : c.AnswersByQuery p.chunk opens answers)
    {spec : TableSpec} {scene scene' : Scene ω}
    (h : scene.mart.table? spec.table = scene'.mart.table? spec.table) :
    (p.loadTable c spec scene).1 = (p.loadTable c spec scene').1 ∧
      (p.loadTable c spec scene).2.mart.table? spec.table =
        (p.loadTable c spec scene').2.mart.table? spec.table := by
  rcases load_cases hc ha spec with hsettles | hpasses | hbalks
  · exact hsettles.alike scene scene'
  · rw [hpasses.left, hpasses.left]
    exact ⟨hpasses.alike scene scene', h⟩
  · rw [hbalks.told, hbalks.told, hbalks.left, hbalks.left, Session.stagedFault_congr h]
    exact ⟨rfl, h⟩

/-- Each spec alone is told of by one entry. -/
theorem tables_run_alone (p : Pipeline) (c : Connector ω) (specs : List TableSpec)
    (scene : Scene ω) :
    (specs.flatMap fun spec => (p.run c [spec] scene).1.tables) =
      specs.map fun spec => ⟨spec.table, (p.loadTable c spec scene).1⟩ :=
  List.map_eq_flatMap.symm

/-- The loads of a run over different tables tell and leave what they would from the start. -/
theorem run_of_distinct (hc : c.LeavesMart) (ha : c.AnswersByQuery p.chunk opens answers)
    {specs : List TableSpec}
    (hdistinct : specs.Pairwise fun a b => Text.sameName a.table b.table = false)
    (scene start : Scene ω)
    (h : ∀ spec ∈ specs, scene.mart.table? spec.table = start.mart.table? spec.table) :
    (p.run c specs scene).1.tables =
        specs.map (fun spec => ⟨spec.table, (p.loadTable c spec start).1⟩) ∧
      ∀ spec ∈ specs, (p.run c specs scene).2.mart.table? spec.table =
        (p.loadTable c spec start).2.mart.table? spec.table := by
  induction specs generalizing scene with
  | nil => exact ⟨rfl, nofun⟩
  | cons spec rest ih =>
      obtain ⟨hspec, hrest⟩ := List.pairwise_cons.1 hdistinct
      obtain ⟨hfirst, hothers⟩ := List.forall_mem_cons.1 h
      obtain ⟨htold, hleft⟩ := loadTable_congr hc ha hfirst
      -- the first load leaves the tables of the others as they were
      have hkept : ∀ other ∈ rest, (p.loadTable c spec scene).2.mart.table? other.table =
          start.mart.table? other.table := by
        intro other hother
        rw [← hothers other hother]
        exact unchangedBut_loadTable hc p spec scene other.table (hspec other hother)
      obtain ⟨htables, hfinal⟩ := ih hrest _ hkept
      have hrun : p.run c (spec :: rest) scene =
          (⟨⟨spec.table, (p.loadTable c spec scene).1⟩ ::
              (p.run c rest (p.loadTable c spec scene).2).1.tables⟩,
            (p.run c rest (p.loadTable c spec scene).2).2) := rfl
      rw [hrun, List.map_cons, htables, htold, List.forall_mem_cons]
      refine ⟨rfl, ?_, hfinal⟩
      rw [← hleft]
      refine table?_run_of_unused hc p (fun other hother => ?_) _
      rw [Text.sameName_comm]
      exact hspec other hother

/-- What a run over different tables leaves under a name: what the spec of that name leaves, or else
what was there. -/
theorem table?_run_of_distinct (hc : c.LeavesMart) (ha : c.AnswersByQuery p.chunk opens answers)
    {specs specs' : List TableSpec} (hsame : ∀ spec, spec ∈ specs ↔ spec ∈ specs')
    (hdistinct : specs.Pairwise fun a b => Text.sameName a.table b.table = false)
    (hdistinct' : specs'.Pairwise fun a b => Text.sameName a.table b.table = false)
    (scene : Scene ω) (name : String) :
    (p.run c specs scene).2.mart.table? name = (p.run c specs' scene).2.mart.table? name := by
  by_cases hnamed : ∃ spec ∈ specs, Text.sameName spec.table name = true
  · obtain ⟨spec, hspec, hname⟩ := hnamed
    obtain ⟨-, hleft⟩ := run_of_distinct hc ha hdistinct scene scene (fun _ _ => rfl)
    obtain ⟨-, hleft'⟩ := run_of_distinct hc ha hdistinct' scene scene (fun _ _ => rfl)
    rw [← Mart.table?_congr _ hname, ← Mart.table?_congr _ hname, hleft spec hspec,
      hleft' spec ((hsame spec).1 hspec)]
  · have hunused : ∀ spec ∈ specs, Text.sameName spec.table name = false := by
      intro spec hspec
      cases hname : Text.sameName spec.table name with
      | false => rfl
      | true => exact absurd ⟨spec, hspec, hname⟩ hnamed
    rw [table?_run_of_unused hc p hunused,
      table?_run_of_unused hc p (fun spec hspec => hunused spec ((hsame spec).2 hspec))]

/-- The loads of a run do not depend on each other: each is told and leaves what it does when it is
run alone, and their order shows in the order of the report only. -/
structure LoadsApart (p : Pipeline) (c : Connector ω) (specs : List TableSpec) (scene : Scene ω) :
    Prop where
  /-- Of each spec is told what is told when it is run alone. -/
  told : (p.run c specs scene).1.tables = specs.flatMap fun spec => (p.run c [spec] scene).1.tables
  /-- Each table is left as it is when its spec is run alone. -/
  left : ∀ spec ∈ specs, (p.run c specs scene).2.mart.table? spec.table =
    (p.run c [spec] scene).2.mart.table? spec.table
  /-- What no spec names is left alone. -/
  unnamed : ∀ name, (∀ spec ∈ specs, Text.sameName spec.table name = false) →
    (p.run c specs scene).2.mart.table? name = scene.mart.table? name
  /-- In another order the specs are told of in that order, and leave the same. -/
  reordered : ∀ specs', specs.Perm specs' →
    (p.run c specs' scene).1.tables =
        specs'.flatMap (fun spec => (p.run c [spec] scene).1.tables) ∧
      ∀ name, (p.run c specs' scene).2.mart.table? name =
        (p.run c specs scene).2.mart.table? name

/-- Specs of different tables load apart over a connector that leaves the mart alone and answers by
the query. -/
theorem loadsApart_of_leavesMart (hc : c.LeavesMart) (ha : c.AnswersByQuery p.chunk opens answers)
    {specs : List TableSpec}
    (hdistinct : specs.Pairwise fun a b => Text.sameName a.table b.table = false)
    (scene : Scene ω) : LoadsApart p c specs scene := by
  obtain ⟨htables, hleft⟩ := run_of_distinct hc ha hdistinct scene scene (fun _ _ => rfl)
  refine ⟨htables.trans (tables_run_alone p c specs scene).symm, hleft, ?_, ?_⟩
  · intro name hunused
    exact table?_run_of_unused hc p hunused scene
  · intro specs' hperm
    have hdistinct' : specs'.Pairwise fun a b => Text.sameName a.table b.table = false :=
      hperm.pairwise hdistinct (fun h => (Text.sameName_comm _ _).trans h)
    obtain ⟨htables', -⟩ := run_of_distinct hc ha hdistinct' scene scene (fun _ _ => rfl)
    refine ⟨htables'.trans (tables_run_alone p c specs' scene).symm, ?_⟩
    intro name
    exact table?_run_of_distinct hc ha (fun spec => hperm.mem_iff.symm) hdistinct' hdistinct scene
      name

/-- Loads that are apart over the states that are reached are apart. -/
theorem LoadsApart.forget {o : ω} {specs : List TableSpec} {s : Scene { o' // c.Reaches o o' }}
    (h : LoadsApart p (c.reached o) specs s) : LoadsApart p c specs s.forget := by
  obtain ⟨htold, hleft, hunnamed, hreordered⟩ := h
  constructor
  · simpa only [run_forget] using htold
  · simpa only [run_forget, Scene.mart_forget] using hleft
  · simpa only [run_forget, Scene.mart_forget] using hunnamed
  · simpa only [run_forget, Scene.mart_forget] using hreordered

/-- **Tables load independently.** Over a connector that leaves the mart alone and answers by the
query, in the states that it comes to, specs of different tables load apart. No write of a batch
leaves rows in the staging relation for a later one. -/
theorem run_eq_alone (scene : Scene ω) (hc : c.LeavesMartFrom scene.outside)
    (ha : c.AnswersByQueryFrom p.chunk scene.outside opens answers) {specs : List TableSpec}
    (hdistinct : specs.Pairwise fun a b => Text.sameName a.table b.table = false) :
    LoadsApart p c specs scene ∧
      ∀ (l : TableLoad) (m : Mart) (b : Batch),
        (l.write { mart := m } b).session.staging = none := by
  constructor
  · have hreached : LoadsApart p (c.reached scene.outside) specs
        ⟨⟨scene.outside, .start⟩, scene.mart⟩ :=
      loadsApart_of_leavesMart (Connector.leavesMart_reached hc)
        (Connector.answersByQuery_reached ha) hdistinct _
    exact hreached.forget
  · intro l m b
    rw [l.session_write]

/-- Three sales in memory, beside a table of which the third row does not fit, and an empty one. -/
def mixedTables : MemoryTables where
  tables := [("sales", ⟨[⟨"id", .integer⟩], [[.int 1], [.int 2], [.int 3]]⟩),
    ("lines", ⟨[⟨"id", .integer⟩], [[.int 1], [.int 2], [.text "x"]]⟩),
    ("shifts", ⟨[⟨"id", .integer⟩], []⟩)]

/-- A load that breaks off, one that cannot be opened and one without rows, before the sales. -/
def mixedSpecs : List TableSpec :=
  [⟨"lines", "fct_product_sales"⟩, ⟨"delivery", "fct_delivery"⟩, ⟨"shifts", "dim_shifts"⟩,
    ⟨"sales", "fct_sales"⟩]

/-- A run that loads them, two rows at a time, into an empty mart. -/
def mixedRun : RunReport × Scene MemoryRows :=
  run ⟨2, Nat.two_pos⟩ (Connector.ofTables mixedTables) mixedSpecs ⟨⟨[], []⟩, {}⟩

/-- The sales are loaded in full between the others, as they are alone. -/
theorem mixedRun_loads_sales :
    (mixedSpecs.Pairwise fun a b => Text.sameName a.table b.table = false) ∧
    (Connector.ofTables mixedTables).LeavesMartFrom ⟨[], []⟩ ∧
    (∃ opens answers,
      (Connector.ofTables mixedTables).AnswersByQueryFrom 2 ⟨[], []⟩ opens answers) ∧
    mixedRun.2.mart.Holds "fct_sales" [⟨"id", .integer⟩] [[.int 1], [.int 2], [.int 3]] := by
  have hdistinct : mixedSpecs.Pairwise fun a b => Text.sameName a.table b.table = false := by
    decide +kernel
  have hc : (Connector.ofTables mixedTables).LeavesMartFrom ⟨[], []⟩ :=
    (Connector.leavesMart_ofSource mixedTables.connect MemoryRows.source).leavesMartFrom _
  have ha := (Connector.answersByQuery_ofTables mixedTables 2).answersByQueryFrom
    (⟨[], []⟩ : MemoryRows)
  refine ⟨hdistinct, hc, ⟨_, _, ha⟩, ?_⟩
  obtain ⟨hapart, -⟩ :=
    run_eq_alone (p := ⟨2, Nat.two_pos⟩) (⟨⟨[], []⟩, {}⟩ : Scene MemoryRows) hc ha hdistinct
  have hsales : LoneLoad mixedTables [] ⟨"sales", "fct_sales"⟩ [] [⟨"id", .integer⟩]
      [[.int 1], [.int 2], [.int 3]] :=
    { registered := rfl
      columns_ne := by decide
      names_distinct := by decide
      unreserved := by decide +kernel
      unstaged := by decide +kernel
      lone := nofun }
  obtain ⟨-, t, ht, hrest⟩ := hsales.run_of_fits ⟨2, Nat.two_pos⟩ (by decide) (by decide)
    ⟨⟨[], []⟩, {}⟩
  exact ⟨t, (hapart.left ⟨"sales", "fct_sales"⟩ (by decide)).trans ht, hrest⟩

end Pipeline

end DataMart
