import DataMart.Proofs.Extract.Drain

/-!
# The sequence of draws

An extractor can be asked as often as one likes, and whatever answers its fetches may do so as it
likes: with batches of any length, with none, with faults, in any order and without end.

* `resultAt` is what a draw gives, counted from 0; `stateAt` is what the draws before it have left.
* `askedAt` are the sizes that were asked for so far, as a record beside the answers has them
  (`recorded`).
* `Ends` says of a result that it is the last one but for nothing. From then on the extractor stays
  as it is (`stateAt_of_exhausted`).
* `orderly_of_ofChunk`: so the draws of a new extractor are `Orderly`, whatever answers it.
-/

namespace DataMart

/-- Answers to fetches, with a record of the sizes that were asked for. -/
def recorded {ω : Type} (fetch : Nat → ω → Except Fault Batch × ω) (n : Nat) (s : ω × List Nat) :
    Except Fault Batch × (ω × List Nat) :=
  ((fetch n s.1).1, (fetch n s.1).2, s.2 ++ [n])

namespace Extractor

/-! ## One draw -/

/-- Whether a draw gave a batch. -/
def isBatch : Except Fault (Option Batch) → Bool
  | .ok (some _) => true
  | _ => false

/-- Whether a draw ends the sequence for batches of size `n`: it gave nothing, a fault, or a batch
that is short. -/
def Ends (n : Nat) : Except Fault (Option Batch) → Prop
  | .ok (some b) => b.size < n
  | _ => True

section draw

variable {ω : Type} {fetch : Nat → ω → Except Fault Batch × ω} {x : Extractor} {s : ω}

/-- What an extractor makes of an answer: it hands on a batch of up to the size asked for and counts
it, or it is finished. -/
theorem receive_cases (x : Extractor) (a : Except Fault Batch) :
    (∃ b, 0 < b.size ∧ b.size ≤ x.chunk ∧ x.receive a = (.ok (some b),
      { x with batches := x.batches + 1, exhausted := decide (b.size < x.chunk) })) ∨
    ∃ r, isBatch r = false ∧ x.receive a = (r, x.finish) := by
  cases a with
  | error e => exact .inr ⟨_, rfl, rfl⟩
  | ok b =>
      cases rows : b.isEmpty with
      | true => exact .inr ⟨_, rfl, receive_of_isEmpty rows⟩
      | false =>
          by_cases size : b.size ≤ x.chunk
          · have hpos : 0 < b.size := by
              rw [Batch.isEmpty, List.isEmpty_eq_false_iff] at rows
              exact List.length_pos_iff.2 rows
            exact .inl ⟨b, hpos, size, receive_of_le rows size⟩
          · right
            refine ⟨.error (overlong x.chunk b), rfl, ?_⟩
            simp only [receive, rows, Bool.false_eq_true, if_false, Nat.lt_of_not_le size, if_true]

/-- What one draw does: nothing, once the extractor is exhausted; otherwise it asks once, and hands a
batch on or is finished. -/
theorem draw_cases (fetch : Nat → ω → Except Fault Batch × ω) (x : Extractor) (s : ω) :
    (x.exhausted = true ∧ x.draw fetch s = (.ok none, x, s)) ∨
    (x.exhausted = false ∧ ∃ b, 0 < b.size ∧ b.size ≤ x.chunk ∧ x.draw fetch s = (.ok (some b),
      { x with batches := x.batches + 1, exhausted := decide (b.size < x.chunk) },
      (fetch x.chunk s).2)) ∨
    (x.exhausted = false ∧ ∃ r, isBatch r = false ∧
      x.draw fetch s = (r, x.finish, (fetch x.chunk s).2)) := by
  cases hx : x.exhausted with
  | true => exact .inl ⟨rfl, draw_of_exhausted hx fetch s⟩
  | false =>
      have hdraw : x.draw fetch s = _ := draw_of_fetch hx rfl
      rcases receive_cases x (fetch x.chunk s).1 with ⟨b, hpos, hle, hr⟩ | ⟨r, hr, hfinish⟩
      · rw [hr] at hdraw
        exact .inr (.inl ⟨rfl, b, hpos, hle, hdraw⟩)
      · rw [hfinish] at hdraw
        exact .inr (.inr ⟨rfl, r, hr, hdraw⟩)

/-- An extractor asks for the same size all the time. -/
theorem chunk_draw (fetch : Nat → ω → Except Fault Batch × ω) (x : Extractor) (s : ω) :
    (x.draw fetch s).2.1.chunk = x.chunk := by
  rcases draw_cases fetch x s with ⟨-, h⟩ | ⟨-, b, -, -, h⟩ | ⟨-, r, -, h⟩
  · rw [h]
  · rw [h]
  · rw [h]
    rfl

/-- A batch that was drawn has rows, and at most as many as are asked for. -/
theorem size_of_draw {b : Batch} (h : (x.draw fetch s).1 = .ok (some b)) :
    0 < b.size ∧ b.size ≤ x.chunk := by
  rcases draw_cases fetch x s with ⟨-, hd⟩ | ⟨-, c, hpos, hle, hd⟩ | ⟨-, r, hr, hd⟩ <;> rw [hd] at h
  · cases h
  · cases h
    exact ⟨hpos, hle⟩
  · cases h
    cases hr

/-- A draw counts the batch that it gives. -/
theorem batches_draw (fetch : Nat → ω → Except Fault Batch × ω) (x : Extractor) (s : ω) :
    (x.draw fetch s).2.1.batches = x.batches + if isBatch (x.draw fetch s).1 then 1 else 0 := by
  rcases draw_cases fetch x s with ⟨-, h⟩ | ⟨-, b, -, -, h⟩ | ⟨-, r, hr, h⟩ <;> rw [h]
  · rfl
  · rfl
  · rw [hr]
    rfl

/-- After a draw that ends the sequence the extractor is exhausted. -/
theorem exhausted_of_ends (h : Ends x.chunk (x.draw fetch s).1) :
    (x.draw fetch s).2.1.exhausted = true := by
  rcases draw_cases fetch x s with ⟨hx, hd⟩ | ⟨-, b, -, -, hd⟩ | ⟨-, r, -, hd⟩ <;> rw [hd] at h ⊢
  · exact hx
  · exact decide_eq_true h
  · rfl

/-- After any other draw it is not, if it was not before. -/
theorem not_exhausted_of_not_ends (h : ¬ Ends x.chunk (x.draw fetch s).1) :
    (x.draw fetch s).2.1.exhausted = false := by
  rcases draw_cases fetch x s with ⟨-, hd⟩ | ⟨-, b, -, -, hd⟩ | ⟨-, r, hr, hd⟩ <;> rw [hd] at h ⊢
  · exact absurd trivial h
  · exact decide_eq_false h
  · refine absurd ?_ h
    match r, hr with
    | .ok none, _ => trivial
    | .error _, _ => trivial

/-- The record changes nothing else, and has the size that was asked for. -/
theorem draw_recorded (fetch : Nat → ω → Except Fault Batch × ω) (x : Extractor)
    (s : ω × List Nat) :
    x.draw (recorded fetch) s = ((x.draw fetch s.1).1, (x.draw fetch s.1).2.1,
      (x.draw fetch s.1).2.2, s.2 ++ if x.exhausted then [] else [x.chunk]) := by
  cases hx : x.exhausted with
  | true =>
      rw [draw_of_exhausted hx, draw_of_exhausted hx]
      simp
  | false =>
      rw [draw_of_fetch hx rfl, draw_of_fetch hx rfl]
      rfl

end draw

/-! ## Draw after draw -/

section sequence

variable {ω : Type} (x : Extractor) (fetch : Nat → ω → Except Fault Batch × ω) (s : ω)

/-- The extractor and the state behind it after so many draws. -/
def stateAt : Nat → Extractor × ω
  | 0 => (x, s)
  | k + 1 => ((stateAt k).1.draw fetch (stateAt k).2).2

/-- What a draw gives, counted from 0. -/
def resultAt (k : Nat) : Except Fault (Option Batch) :=
  ((x.stateAt fetch s k).1.draw fetch (x.stateAt fetch s k).2).1

/-- The sizes that were asked for in the first draws, in order. -/
def askedAt (k : Nat) : List Nat := (x.stateAt (recorded fetch) (s, []) k).2.2

/-- The same size is asked for all the time. -/
theorem chunk_stateAt (k : Nat) : (x.stateAt fetch s k).1.chunk = x.chunk := by
  induction k with
  | zero => rfl
  | succ k ih => exact (chunk_draw fetch _ _).trans ih

/-- The batches that were given are counted. -/
theorem batches_stateAt (k : Nat) :
    (x.stateAt fetch s k).1.batches =
      x.batches + (List.range k).countP fun j => isBatch (x.resultAt fetch s j) := by
  induction k with
  | zero => rfl
  | succ k ih =>
      rw [List.range_succ, List.countP_append, List.countP_singleton, stateAt, batches_draw, ih,
        Nat.add_assoc]
      rfl

/-- The record changes nothing else. -/
theorem stateAt_recorded (asked : List Nat) (k : Nat) :
    (x.stateAt (recorded fetch) (s, asked) k).1 = (x.stateAt fetch s k).1 ∧
      (x.stateAt (recorded fetch) (s, asked) k).2.1 = (x.stateAt fetch s k).2 := by
  induction k with
  | zero => exact ⟨rfl, rfl⟩
  | succ k ih =>
      rw [stateAt, draw_recorded, ih.1, ih.2]
      exact ⟨rfl, rfl⟩

/-- A draw asks once unless the extractor is exhausted. -/
theorem askedAt_succ (k : Nat) :
    x.askedAt fetch s (k + 1) = x.askedAt fetch s k ++
      if (x.stateAt fetch s k).1.exhausted then [] else [x.chunk] := by
  rw [askedAt, stateAt, draw_recorded, (stateAt_recorded x fetch s [] k).1, chunk_stateAt]
  rfl

variable {x fetch s} {i j k n : Nat}

/-- An exhausted extractor stays as it is. -/
theorem stateAt_of_exhausted (h : (x.stateAt fetch s i).1.exhausted = true) (hij : i ≤ j) :
    x.stateAt fetch s j = x.stateAt fetch s i := by
  induction hij with
  | refl => rfl
  | step _ ih => rw [stateAt, ih, draw_of_exhausted h]

/-- It gives nothing more. -/
theorem resultAt_of_exhausted (h : (x.stateAt fetch s i).1.exhausted = true) (hij : i ≤ j) :
    x.resultAt fetch s j = .ok none := by
  rw [resultAt, stateAt_of_exhausted h hij, draw_of_exhausted h]

/-- It asks for nothing more. -/
theorem askedAt_of_exhausted (h : (x.stateAt fetch s i).1.exhausted = true) (hij : i ≤ j) :
    x.askedAt fetch s j = x.askedAt fetch s i := by
  have hrecorded : (x.stateAt (recorded fetch) (s, []) i).1.exhausted = true := by
    rw [(stateAt_recorded x fetch s [] i).1]
    exact h
  rw [askedAt, stateAt_of_exhausted hrecorded hij, askedAt]

/-- A draw that ends the sequence exhausts the extractor. -/
theorem exhausted_stateAt_of_ends (h : Ends x.chunk (x.resultAt fetch s i)) :
    (x.stateAt fetch s (i + 1)).1.exhausted = true := by
  apply exhausted_of_ends
  rw [chunk_stateAt]
  exact h

/-- Before any draw that ends the sequence, every draw has asked once. -/
theorem askedAt_of_not_ends (hx : x.exhausted = false)
    (h : ∀ j < k, ¬ Ends x.chunk (x.resultAt fetch s j)) :
    (x.stateAt fetch s k).1.exhausted = false ∧
      x.askedAt fetch s k = List.replicate k x.chunk := by
  induction k with
  | zero => exact ⟨hx, rfl⟩
  | succ k ih =>
      obtain ⟨hgo, hasked⟩ := ih fun j hj => h j (Nat.lt_succ_of_lt hj)
      constructor
      · apply not_exhausted_of_not_ends
        rw [chunk_stateAt]
        exact h k (Nat.lt_succ_self k)
      · rw [askedAt_succ, hgo, hasked, List.replicate_succ']
        rfl

end sequence

/-! ## The draws of a new extractor -/

/-- What holds of the draws of an extractor for batches of size `n`, whatever answers its fetches. -/
structure Orderly {ω : Type} (n : Nat) (x : Extractor)
    (fetch : Nat → ω → Except Fault Batch × ω) (s : ω) : Prop where
  /-- Every batch has rows, and at most as many as are asked for. -/
  bounded : ∀ k b, x.resultAt fetch s k = .ok (some b) → 1 ≤ b.size ∧ b.size ≤ n
  /-- The extractor has counted the batches that it gave so far. -/
  counted : ∀ k, (x.stateAt fetch s k).1.batches =
    (List.range k).countP fun j => isBatch (x.resultAt fetch s j)
  /-- Every fetch asks for `n` rows. -/
  asked : ∀ k, ∀ size ∈ x.askedAt fetch s k, size = n
  /-- Up to the draw that ends the sequence, each draw asks once. -/
  once : ∀ k, (∀ j < k, ¬ Ends n (x.resultAt fetch s j)) →
    x.askedAt fetch s k = List.replicate k n
  /-- After it no draw gives anything, and none asks again. -/
  final : ∀ i, Ends n (x.resultAt fetch s i) → ∀ j, i < j →
    x.resultAt fetch s j = .ok none ∧ x.askedAt fetch s j = x.askedAt fetch s (i + 1)
  /-- There is one fault at most. -/
  fault_unique : ∀ i j e e', x.resultAt fetch s i = .error e → x.resultAt fetch s j = .error e' →
    i = j

/-- After a fault no draw gives a fault. -/
theorem not_error_of_lt {ω : Type} {x : Extractor} {fetch : Nat → ω → Except Fault Batch × ω}
    {s : ω} {i j : Nat} {e e' : Fault} (hi : x.resultAt fetch s i = .error e)
    (hj : x.resultAt fetch s j = .error e') : ¬ i < j := by
  intro hlt
  have hends : Ends x.chunk (x.resultAt fetch s i) := by
    rw [hi]
    trivial
  rw [resultAt_of_exhausted (exhausted_stateAt_of_ends hends) hlt] at hj
  cases hj

/-- A new extractor has drawn nothing yet. -/
theorem eq_of_ofChunk {n : Nat} {x : Extractor} (hx : ofChunk n = .ok x) :
    ∃ hn : 0 < n, x = ⟨n, hn, 0, false⟩ := by
  unfold ofChunk at hx
  split at hx
  · rename_i hn
    exact ⟨hn, (Except.ok.inj hx).symm⟩
  · cases hx

/-- **Whatever answers it, a new extractor draws orderly**: batches of one row up to the size asked
for, counted as they come; and once it drew nothing, a fault or a short batch, it draws nothing more
and does not ask again. -/
theorem orderly_of_ofChunk {ω : Type} {n : Nat} {x : Extractor} (hx : ofChunk n = .ok x)
    (fetch : Nat → ω → Except Fault Batch × ω) (s : ω) : Orderly n x fetch s := by
  obtain ⟨hn, rfl⟩ := eq_of_ofChunk hx
  constructor
  · intro k b hb
    have hsize := size_of_draw hb
    rw [chunk_stateAt] at hsize
    exact hsize
  · intro k
    rw [batches_stateAt, Nat.zero_add]
  · -- by the draws: each adds one fetch of that size or none
    intro k
    induction k with
    | zero => exact List.forall_mem_nil _
    | succ k ih =>
        rw [askedAt_succ, List.forall_mem_append]
        refine ⟨ih, ?_⟩
        split
        · exact List.forall_mem_nil _
        · exact List.forall_mem_singleton.2 rfl
  · intro k hgo
    exact (askedAt_of_not_ends rfl hgo).2
  · intro i hends j hij
    have hexhausted := exhausted_stateAt_of_ends hends
    exact ⟨resultAt_of_exhausted hexhausted hij, askedAt_of_exhausted hexhausted hij⟩
  · intro i j e e' hi hj
    exact Nat.le_antisymm (Nat.le_of_not_lt (not_error_of_lt hj hi))
      (Nat.le_of_not_lt (not_error_of_lt hi hj))

/-- Answers that go on for ever: a sale, a fault, and then sales again. The state is the number of
fetches before. -/
def unsteady (_ : Nat) (k : Nat) : Except Fault Batch × Nat :=
  (if k = 1 then .error (.sourceQuery "connection lost") else .ok (oneSale k), k + 1)

/-- After the fault nothing is drawn, though there would be more. -/
theorem unsteady_drawn :
    ofChunk 1 = .ok ⟨1, Nat.one_pos, 0, false⟩ ∧
    (Extractor.mk 1 Nat.one_pos 0 false).resultAt unsteady 0 0 = .ok (some (oneSale 0)) ∧
    ∀ j, 1 < j → (Extractor.mk 1 Nat.one_pos 0 false).resultAt unsteady 0 j = .ok none ∧
      (Extractor.mk 1 Nat.one_pos 0 false).askedAt unsteady 0 j = [1, 1] := by
  have h := orderly_of_ofChunk (n := 1) (x := ⟨1, Nat.one_pos, 0, false⟩) rfl unsteady 0
  have hfault : (Extractor.mk 1 Nat.one_pos 0 false).resultAt unsteady 0 1 =
      .error (.sourceQuery "connection lost") := rfl
  refine ⟨rfl, rfl, fun j hj => ?_⟩
  refine h.final 1 ?_ j hj
  rw [hfault]
  trivial

end Extractor

end DataMart
