import DataMart.Extract.Memory

/-!
# What a source over rows in memory answers

Rows in memory are checked against their columns when they are fetched. As long as they fit, a fetch
gives the next ones (`fetch_of_fits`); the first row that does not fit (`FirstMisfit`) is reported
with its place in the chunk (`exists_fetch_of_misfit`).
-/

namespace DataMart

variable {columns : List Column} {rows : List (List Value)} {q n : Nat} {row : List Value}

/-! ## The first row that does not fit -/

/-- At place `q` stands `row`, which does not fit the columns, and all rows before it do. -/
structure FirstMisfit (columns : List Column) (rows : List (List Value)) (q : Nat)
    (row : List Value) : Prop where
  row_at : rows[q]? = some row
  before : ∀ r ∈ rows.take q, fits columns r = true
  misfit : fits columns row = false

namespace FirstMisfit

/-- The row is one of the rows. -/
theorem lt_length (h : FirstMisfit columns rows q row) : q < rows.length :=
  (List.getElem?_eq_some_iff.1 h.row_at).1

/-- The first misfit of all rows is that of the chunk that it is in. -/
theorem take (h : FirstMisfit columns rows q row) (hqn : q < n) :
    FirstMisfit columns (rows.take n) q row where
  row_at := by rw [List.getElem?_take_of_lt hqn, h.row_at]
  before := by
    rw [List.take_take, Nat.min_eq_left (Nat.le_of_lt hqn)]
    exact h.before
  misfit := h.misfit

/-- Rows before the first misfit do not matter. -/
theorem drop {k : Nat} (h : FirstMisfit columns rows (k + q) row) :
    FirstMisfit columns (rows.drop k) q row where
  row_at := by rw [List.getElem?_drop, h.row_at]
  before r hr := by
    have hbefore := h.before
    rw [List.take_add] at hbefore
    exact hbefore r (List.mem_append_right _ hr)
  misfit := h.misfit

/-- Something is wrong with a misfit, whatever its place. -/
theorem exists_rowFault? (h : FirstMisfit columns rows q row) (i : Nat) :
    ∃ e, Batch.rowFault? columns i row = some e := by
  rw [← Option.ne_none_iff_exists', Ne, ← Batch.fits_iff_rowFault?_eq_none columns i row, h.misfit]
  simp

end FirstMisfit

/-! ## Checking rows -/

namespace Batch

/-- Rows that fit their columns are a batch. -/
theorem ofRows_of_fits (hfits : ∀ row ∈ rows, fits columns row = true) :
    ofRows columns rows = .ok ⟨columns, rows, hfits⟩ := by
  have hnone := (firstFault?_eq_none_iff columns 0 rows).2 hfits
  unfold ofRows
  split
  · rename_i fault hsome
    rw [hnone] at hsome
    cases hsome
  · rfl

/-- The first fault of some rows is that of the first row that does not fit. -/
theorem firstFault?_of_firstMisfit (i : Nat) (h : FirstMisfit columns rows q row) :
    firstFault? columns i rows = rowFault? columns (i + q) row := by
  induction rows generalizing i q with
  | nil => cases h.row_at
  | cons first rest ih =>
      cases q with
      | zero =>
          obtain ⟨e, he⟩ := h.exists_rowFault? i
          cases h.row_at
          simp only [firstFault?, he, Nat.add_zero]
      | succ q =>
          have hfirst := h.before first List.mem_cons_self
          rw [fits_iff_rowFault?_eq_none columns i first] at hfirst
          rw [Nat.add_comm q 1] at h ⊢
          have hrest := ih (i + 1) h.drop
          simp only [firstFault?, hfirst, hrest, Nat.add_assoc]

/-- Rows of which one does not fit are not a batch; the first such row is reported. -/
theorem exists_ofRows_of_firstMisfit (h : FirstMisfit columns rows q row) :
    ∃ e, rowFault? columns q row = some e ∧ ofRows columns rows = .error e := by
  obtain ⟨e, he⟩ := h.exists_rowFault? q
  have hfirst := firstFault?_of_firstMisfit 0 h
  rw [Nat.zero_add, he] at hfirst
  refine ⟨e, he, ?_⟩
  unfold ofRows
  split
  · rename_i e' he'
    rw [hfirst] at he'
    cases he'
    rfl
  · rename_i hnone
    rw [hfirst] at hnone
    cases hnone

end Batch

/-! ## Fetching -/

/-- The number of pieces of size `n` that `k` things are cut into. -/
theorem ceilDiv_eq {n : Nat} (hn : 0 < n) (k : Nat) :
    (k + n - 1) / n = k / n + if k % n = 0 then 0 else 1 := by
  have hk : k + n - 1 = (k % n + (n - 1)) + n * (k / n) := by
    have := Nat.mod_add_div k n
    omega
  rw [hk, Nat.add_mul_div_left _ _ hn, Nat.add_comm]
  congr 1
  have hlt := Nat.mod_lt k hn
  split
  · rename_i hmod
    rw [hmod]
    exact Nat.div_eq_of_lt (by omega)
  · exact Nat.div_eq_of_lt_le (by omega) (by omega)

namespace MemoryRows

/-- The first rows of some rows are some. -/
theorem isEmpty_take (hn : 0 < n) (hne : rows ≠ []) : (rows.take n).isEmpty = false := by
  simp [List.take_eq_nil_iff, Nat.ne_of_gt hn, hne]

/-- Without rows a fetch gives the empty batch. -/
theorem fetch_nil (n : Nat) (columns : List Column) :
    fetch n ⟨columns, []⟩ = (.ok .empty, ⟨columns, []⟩) := by
  simp [fetch]

/-- Rows that fit are given as they are. -/
theorem fetch_of_fits (hn : 0 < n) (hne : rows ≠ [])
    (hfits : ∀ row ∈ rows.take n, fits columns row = true) :
    fetch n ⟨columns, rows⟩ = (.ok ⟨columns, rows.take n, hfits⟩, ⟨columns, rows.drop n⟩) := by
  simp only [fetch, isEmpty_take hn hne, Bool.false_eq_true, if_false, Batch.ofRows_of_fits hfits]

/-- A row that does not fit is reported with its place among the rows that were asked for. -/
theorem exists_fetch_of_firstMisfit (h : FirstMisfit columns rows q row) (hqn : q < n) :
    ∃ e, Batch.rowFault? columns q row = some e ∧
      fetch n ⟨columns, rows⟩ = (.error e, ⟨columns, rows.drop n⟩) := by
  have hn : 0 < n := Nat.zero_lt_of_lt hqn
  have hne : rows ≠ [] := List.ne_nil_of_length_pos (Nat.zero_lt_of_lt h.lt_length)
  obtain ⟨e, he, hofRows⟩ := Batch.exists_ofRows_of_firstMisfit (h.take hqn)
  refine ⟨e, he, ?_⟩
  simp only [fetch, isEmpty_take hn hne, Bool.false_eq_true, if_false, hofRows]

end MemoryRows

end DataMart
