import DataMart.Proofs.Store.Staging

/-!
# What writing leaves alone

Whatever is done to the table under one name, the tables under all other names stay as they are
(`Mart.UnchangedBut`). This holds of every statement of a transaction, hence of the transaction, and
it holds under any name, also the staging relation's own.
-/

namespace DataMart

namespace Mart

/-- The tables under all names but one are the same in both marts. -/
def UnchangedBut (table : String) (m m' : Mart) : Prop :=
  ∀ other, Text.sameName table other = false → m'.table? other = m.table? other

variable {table : String} {m m' m'' : Mart}

/-- Nothing has changed where nothing was done. -/
theorem UnchangedBut.refl (table : String) (m : Mart) : UnchangedBut table m m := fun _ _ => rfl

/-- What two steps leave alone, both together leave alone. -/
theorem UnchangedBut.trans (h : UnchangedBut table m m') (h' : UnchangedBut table m' m'') :
    UnchangedBut table m m'' :=
  fun other ho => (h' other ho).trans (h other ho)

/-- A table stands under its name. -/
theorem sameName_of_table? {t : Table} (h : m.table? table = some t) :
    Text.sameName t.name table = true := by
  have := List.find?_some h
  exact this

/-- Dropping a table touches that table only. -/
theorem unchangedBut_drop (m : Mart) (table : String) : UnchangedBut table m (m.drop table) :=
  fun _ ho => table?_drop_of_ne m ho

/-- Putting a table touches what stood under its name only. -/
theorem unchangedBut_put (m : Mart) (t : Table) : UnchangedBut t.name m (m.put t) :=
  fun _ ho => table?_put_of_ne m t ho

/-- A name may be spelled otherwise. -/
theorem UnchangedBut.respell {name : String} (h : UnchangedBut name m m')
    (hn : Text.sameName name table = true) : UnchangedBut table m m' :=
  fun other ho => h other ((Text.sameName_congr hn other).trans ho)

end Mart

namespace Session

variable {s s' : Session} {table : String}

/-- Dropping what a name means touches no other table. -/
theorem unchangedBut_dropIfExists (s : Session) (table : String) :
    s.mart.UnchangedBut table (s.dropIfExists table).mart := by
  unfold dropIfExists
  split
  · split
    · exact .refl table s.mart
    · exact s.mart.unchangedBut_drop table
  · exact s.mart.unchangedBut_drop table

/-- Creating a table touches no other. -/
theorem unchangedBut_createTable {columns : List Column}
    (h : s.createTable table columns = .ok s') : s.mart.UnchangedBut table s'.mart := by
  unfold createTable at h
  split at h
  · cases h
  · split at h
    · cases h
    · cases hf : columnsFault? columns with
      | some e =>
          rw [newTable_of_fault hf] at h
          cases h
      | none =>
          obtain ⟨t, ht, hname, -, -⟩ := exists_newTable hf table
          rw [ht] at h
          cases h
          rw [← hname]
          exact s.mart.unchangedBut_put t

/-- Copying the staged rows into a table touches no other. -/
theorem unchangedBut_copyStaged {n : Nat} (h : s.copyStaged table = .ok (n, s')) :
    s.mart.UnchangedBut table s'.mart := by
  rw [copyStaged_eq] at h
  split at h
  · cases h
  · cases h
  · rename_i target staged htarget hstaged
    split at h
    · cases h
      exact .refl table s.mart
    · rename_i hname
      cases h
      have hm : s.mart.table? table = some target := by
        unfold resolve? at htarget
        rw [hstaged] at htarget
        simpa [hname] using htarget
      have hput := s.mart.unchangedBut_put { target with rows := target.rows ++ staged.rows }
      have hname' : Text.sameName target.name table = true := Mart.sameName_of_table? hm
      exact hput.respell hname'

/-- A write of which every success leaves the other tables alone does so in any case. -/
theorem unchangedBut_settle {effect : Except EngineError (Nat × Session)}
    (h : ∀ n s', effect = .ok (n, s') → s.mart.UnchangedBut table s'.mart) :
    s.mart.UnchangedBut table (s.settle table effect).2.mart := by
  cases effect with
  | error e => exact .refl table s.mart
  | ok r => exact h r.1 r.2 rfl

/-- Creating a table from a batch touches no other. -/
theorem unchangedBut_create (s : Session) (table : String) (b : Batch) :
    s.mart.UnchangedBut table (s.create table b).2.mart := by
  rw [create_eq]
  split
  · exact .refl table s.mart
  · refine unchangedBut_settle fun n s' h => ?_
    obtain ⟨staged, hstaged, h⟩ := bind_eq_ok h
    obtain ⟨emptied, hemptied, h⟩ := bind_eq_ok h
    have hdrop := unchangedBut_dropIfExists staged table
    rw [mart_of_stage hstaged] at hdrop
    exact hdrop.trans ((unchangedBut_createTable hemptied).trans (unchangedBut_copyStaged h))

/-- Appending a batch to a table touches no other. -/
theorem unchangedBut_append (s : Session) (table : String) (b : Batch) :
    s.mart.UnchangedBut table (s.append table b).2.mart := by
  rw [append_eq]
  split
  · exact .refl table s.mart
  · split
    · exact .refl table s.mart
    · split
      · exact .refl table s.mart
      · refine unchangedBut_settle fun n s' h => ?_
        obtain ⟨staged, hstaged, h⟩ := bind_eq_ok h
        have hcopy := unchangedBut_copyStaged h
        rw [mart_of_stage hstaged] at hcopy
        exact hcopy

/-- Dropping a table touches no other. -/
theorem unchangedBut_dropTable (s : Session) (table : String) :
    s.mart.UnchangedBut table (s.dropTable table).mart :=
  unchangedBut_dropIfExists s table

end Session

/-- Whatever a load writes, it writes to its own table. -/
theorem TableLoad.unchangedBut_write (l : TableLoad) (s : Session) (b : Batch) :
    s.mart.UnchangedBut l.table (l.write s b).session.mart := by
  have hc := s.unchangedBut_create l.table b
  have ha := s.unchangedBut_append l.table b
  cases hl : l.state with
  | notStarted =>
      simp only [write, create, hl]
      split <;> rename_i h <;> rw [h] at hc <;> exact hc
  | loaded rows batches =>
      simp only [write, append, hl]
      split <;> rename_i h <;> rw [h] at ha <;> exact ha

end DataMart
