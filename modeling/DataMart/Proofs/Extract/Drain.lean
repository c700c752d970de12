import DataMart.Extract.Playback

/-!
# What an extractor draws

A source may cut its rows into batches as it likes, as long as no batch is larger than asked for and
only a drained source answers with an empty one (`Source.KeepsContract`). What it holds is what it
would give up to its first empty answer (`Source.supply`).

* `throughShort` is the part of a supply up to its first short batch, which is what an extractor
  draws: `batches_drain`.
* `rows_drain_eq_iff`: the extractor draws all rows exactly if every batch but the last is full.
* `halves_lost`: a source that keeps the contract and loses rows.
-/

namespace DataMart

/-! ## What a source holds -/

namespace Source

variable {ω : Type} {src : Source ω} {n : Nat} {s : ω} {b : Batch}

/-- The state of a source after so many fetches. -/
def after (src : Source ω) (n : Nat) (s : ω) : Nat → ω
  | 0 => s
  | k + 1 => (src.fetch n (src.after n s k)).2

/-- The answer to a fetch, counted from 0. -/
def answer (src : Source ω) (n : Nat) (s : ω) (k : Nat) : Except Fault Batch :=
  (src.fetch n (src.after n s k)).1

/-- What is promised of a source that does not fail: it gives at most the rows asked for, and an
empty batch only once it is drained. -/
structure KeepsContract (src : Source ω) (n : Nat) (s : ω) : Prop where
  bounded : ∀ k, ∃ b, src.answer n s k = .ok b ∧ b.size ≤ n
  drained : ∀ k b, src.answer n s k = .ok b → b.isEmpty = true →
    ∀ j, k ≤ j → ∃ c, src.answer n s j = .ok c ∧ c.isEmpty = true

/-- The batches that a source would give up to its first empty one. -/
def supply (src : Source ω) (n : Nat) (s : ω) : List Batch :=
  match _h : (src.fetch n s).1 with
  | .error _ => []
  | .ok b => if _hb : b.isEmpty = true then [] else b :: supply src n (src.fetch n s).2
termination_by src.left s
decreasing_by exact src.left_fetch _h (by simpa using _hb)

/-- A drained source has nothing left. -/
theorem supply_of_isEmpty (answer : (src.fetch n s).1 = .ok b) (rows : b.isEmpty = true) :
    src.supply n s = [] := by
  rw [supply]
  split
  · rfl
  · rename_i h
    rw [answer] at h
    cases h
    rw [dif_pos rows]

/-- A batch with rows comes before what the source holds after it. -/
theorem supply_eq_cons (answer : (src.fetch n s).1 = .ok b) (rows : b.isEmpty = false) :
    src.supply n s = b :: src.supply n (src.fetch n s).2 := by
  rw [supply]
  split
  · rename_i h
    rw [answer] at h
    cases h
  · rename_i h
    rw [answer] at h
    cases h
    rw [dif_neg (by simp [rows])]

/-- Fetches after the first are fetches from the second state. -/
theorem after_fetch (src : Source ω) (n : Nat) (s : ω) (k : Nat) :
    src.after n (src.fetch n s).2 k = src.after n s (k + 1) := by
  induction k with
  | zero => rfl
  | succ k ih =>
      simp only [after] at ih ⊢
      rw [ih]

/-- A source that keeps its contract goes on to keep it. -/
theorem KeepsContract.fetch (h : src.KeepsContract n s) :
    src.KeepsContract n (src.fetch n s).2 where
  bounded k := by
    simpa only [answer, after_fetch] using h.bounded (k + 1)
  drained k b hb rows j hj := by
    simp only [answer, after_fetch] at hb ⊢
    exact h.drained (k + 1) b hb rows (j + 1) (Nat.succ_le_succ hj)

/-- The next answer of a source that keeps its contract is a batch of at most the size asked for. -/
theorem KeepsContract.next (h : src.KeepsContract n s) :
    ∃ b, (src.fetch n s).1 = .ok b ∧ b.size ≤ n :=
  h.bounded 0

/-- Every batch of a supply has rows, and at most as many as were asked for. -/
theorem KeepsContract.size_of_mem_supply (h : src.KeepsContract n s) :
    ∀ b ∈ src.supply n s, 0 < b.size ∧ b.size ≤ n := by
  induction hleft : src.left s using Nat.strongRecOn generalizing s with
  | ind left ih =>
      obtain ⟨b, hb, hsize⟩ := h.next
      cases rows : b.isEmpty with
      | true => simp [supply_of_isEmpty hb rows]
      | false =>
          have hlt : src.left (src.fetch n s).2 < left := by
            rw [← hleft]
            exact src.left_fetch hb rows
          have hpos : 0 < b.size := by
            rw [Batch.isEmpty, List.isEmpty_eq_false_iff] at rows
            exact List.length_pos_iff.2 rows
          rw [supply_eq_cons hb rows]
          exact List.forall_mem_cons.2 ⟨⟨hpos, hsize⟩, ih _ hlt h.fetch rfl⟩

end Source

/-! ## Up to the first short batch -/

/-- The batches up to the first one of fewer than `n` rows, and with it. -/
def throughShort (n : Nat) : List Batch → List Batch
  | [] => []
  | b :: rest => if b.size < n then [b] else b :: throughShort n rest

/-- Nothing comes in another order, or twice. -/
theorem throughShort_isPrefix (n : Nat) (bs : List Batch) : throughShort n bs <+: bs := by
  induction bs with
  | nil => exact List.prefix_rfl
  | cons b rest ih =>
      unfold throughShort
      split
      · exact List.prefix_append [b] rest
      · exact List.cons_prefix_cons.2 ⟨rfl, ih⟩

/-- Nothing is left out exactly if no batch before the last is short. -/
theorem throughShort_eq_self_iff (n : Nat) (bs : List Batch) :
    throughShort n bs = bs ↔ ∀ b ∈ bs.dropLast, n ≤ b.size := by
  induction bs with
  | nil => simp [throughShort]
  | cons b rest ih =>
      cases rest with
      | nil =>
          unfold throughShort
          split <;> simp [throughShort]
      | cons c rest =>
          rw [List.dropLast_cons_cons, List.forall_mem_cons, ← ih]
          rw [throughShort]
          split
          · rename_i hshort
            simp [Nat.not_le.2 hshort]
          · rename_i hfull
            simp [Nat.not_lt.1 hfull]

/-- Batches with rows at the end of a list add rows. -/
theorem flatMap_rows_eq_iff_of_isPrefix {bs cs : List Batch} (h : bs <+: cs)
    (hrows : ∀ b ∈ cs, 0 < b.size) : bs.flatMap Batch.rows = cs.flatMap Batch.rows ↔ bs = cs := by
  constructor
  · intro heq
    obtain ⟨rest, rfl⟩ := h
    rw [List.flatMap_append, List.self_eq_append_right] at heq
    cases rest with
    | nil => rw [List.append_nil]
    | cons b rest =>
        have hnil : b.rows = [] := List.flatMap_eq_nil_iff.1 heq b List.mem_cons_self
        have hpos := hrows b (List.mem_append_right bs List.mem_cons_self)
        rw [Batch.size, hnil] at hpos
        cases hpos
  · rintro rfl
    rfl

/-! ## What is drawn -/

namespace Extractor

variable {ω : Type} {src : Source ω} {x x' : Extractor} {s s' : ω} {b : Batch}

/-- An exhausted extractor draws nothing. -/
theorem draw_of_exhausted (hx : x.exhausted = true) (fetch : Nat → ω → Except Fault Batch × ω)
    (s : ω) : x.draw fetch s = (.ok none, x, s) := by
  simp only [draw, hx, if_true]

/-- An extractor that is not exhausted takes in what its fetch is answered. -/
theorem draw_of_fetch (hx : x.exhausted = false) {fetch : Nat → ω → Except Fault Batch × ω}
    {a : Except Fault Batch} (answer : (fetch x.chunk s).1 = a) :
    x.draw fetch s = ((x.receive a).1, (x.receive a).2, (fetch x.chunk s).2) := by
  subst answer
  simp only [draw, hx, Bool.false_eq_true, if_false]

/-- An exhausted extractor draws nothing from a source. -/
theorem next_of_exhausted (hx : x.exhausted = true) (src : Source ω) (s : ω) :
    x.next src s = (.ok none, x, s) :=
  draw_of_exhausted hx src.fetch s

/-- An extractor that is not exhausted takes in the answer of its source. -/
theorem next_of_fetch (hx : x.exhausted = false) {a : Except Fault Batch}
    (answer : (src.fetch x.chunk s).1 = a) :
    x.next src s = ((x.receive a).1, (x.receive a).2, (src.fetch x.chunk s).2) :=
  draw_of_fetch hx answer

/-- An empty batch is the end. -/
theorem receive_of_isEmpty (rows : b.isEmpty = true) :
    x.receive (.ok b) = (.ok none, x.finish) := by
  simp only [receive, rows, if_true]

/-- A batch of at most the size asked for is handed on; a short one is the last. -/
theorem receive_of_le (rows : b.isEmpty = false) (size : b.size ≤ x.chunk) :
    x.receive (.ok b) = (.ok (some b),
      { x with batches := x.batches + 1, exhausted := decide (b.size < x.chunk) }) := by
  simp only [receive, rows, Bool.false_eq_true, if_false, Nat.not_lt.2 size]

/-- An extractor asks for the same number of rows all the time. -/
theorem chunk_receive (x : Extractor) (a : Except Fault Batch) :
    (x.receive a).2.chunk = x.chunk := by
  cases a with
  | error e => rfl
  | ok b =>
      simp only [receive]
      split
      · rfl
      · split <;> rfl

/-- A fault ends the drawing. -/
theorem drain_of_next_error {e : Fault} (h : x.next src s = (.error e, x', s')) :
    x.drain src s = ([], some e, x', s') := by
  rw [drain]
  split <;> rename_i h' <;> rw [h] at h' <;> cases h'
  rfl

/-- A drained source ends the drawing. -/
theorem drain_of_next_none (h : x.next src s = (.ok none, x', s')) :
    x.drain src s = ([], none, x', s') := by
  rw [drain]
  split <;> rename_i h' <;> rw [h] at h' <;> cases h'
  rfl

/-- A batch that is drawn comes before those drawn after it. -/
theorem drain_of_next_some (h : x.next src s = (.ok (some b), x', s')) :
    x.drain src s =
      (b :: (x'.drain src s').1, (x'.drain src s').2.1, (x'.drain src s').2.2) := by
  rw [drain]
  split <;> rename_i h' <;> rw [h] at h' <;> cases h'
  rfl

/-- What is drawn from a source that keeps its contract: its batches up to the first short one,
without a fault. -/
theorem batches_drain (hx : x.exhausted = false) (h : src.KeepsContract x.chunk s) :
    (x.drain src s).1 = throughShort x.chunk (src.supply x.chunk s) ∧
      (x.drain src s).2.1 = none := by
  induction hleft : src.left s using Nat.strongRecOn generalizing x s with
  | ind left ih =>
      obtain ⟨b, hb, hsize⟩ := h.next
      have hnext := next_of_fetch hx hb
      cases rows : b.isEmpty with
      | true =>
          rw [receive_of_isEmpty rows] at hnext
          rw [drain_of_next_none hnext, Source.supply_of_isEmpty hb rows]
          exact ⟨rfl, rfl⟩
      | false =>
          rw [receive_of_le rows hsize] at hnext
          rw [drain_of_next_some hnext, Source.supply_eq_cons hb rows, throughShort]
          split
          · rename_i hshort
            rw [drain_of_next_none (next_of_exhausted (decide_eq_true hshort) src _)]
            exact ⟨rfl, rfl⟩
          · rename_i hfull
            have hlt : src.left (src.fetch x.chunk s).2 < left := by
              rw [← hleft]
              exact src.left_fetch hb rows
            obtain ⟨hbatches, hfault⟩ := ih _ hlt (x := { x with
              batches := x.batches + 1
              exhausted := decide (b.size < x.chunk) }) (decide_eq_false hfull) h.fetch rfl
            exact ⟨congrArg (b :: ·) hbatches, hfault⟩

/-- **When an extractor draws everything.** From a source that keeps its contract an extractor draws
a first part of what the source holds, in its order and without a fault. These are all of the rows
exactly if every batch but the last is as large as was asked for. -/
theorem rows_drain_eq_iff (hx : x.exhausted = false) (h : src.KeepsContract x.chunk s) :
    (x.drain src s).2.1 = none ∧
    (x.drain src s).1 <+: src.supply x.chunk s ∧
    ((x.drain src s).1.flatMap Batch.rows = (src.supply x.chunk s).flatMap Batch.rows ↔
      ∀ b ∈ (src.supply x.chunk s).dropLast, b.size = x.chunk) := by
  obtain ⟨hbatches, hfault⟩ := batches_drain hx h
  have hsize := h.size_of_mem_supply
  have hprefix := throughShort_isPrefix x.chunk (src.supply x.chunk s)
  rw [hbatches, flatMap_rows_eq_iff_of_isPrefix hprefix fun b hb => (hsize b hb).1,
    throughShort_eq_self_iff]
  refine ⟨hfault, hprefix, ?_, ?_⟩
  · intro hfull b hb
    exact Nat.le_antisymm (hsize b (List.dropLast_subset _ hb)).2 (hfull b hb)
  · intro hfull b hb
    exact Nat.le_of_eq (hfull b hb).symm

/-! ## A source that is cut short -/

/-- A batch of one row. -/
def oneSale (id : Int) : Batch where
  columns := [⟨"sale_id", .integer⟩]
  rows := [[.int id]]
  rows_fit := by simp [fits, ColumnType.accepts]

/-- A prepared source of two rows, each in a batch of its own. -/
def halves : Scene Playback where
  outside := { steps := [.answer (.ok (oneSale 0)), .answer (.ok (oneSale 1))] }
  mart := {}

/-- Both rows are given one after the other, and then nothing more. -/
theorem answer_halves (n k : Nat) :
    Playback.source.answer n halves k =
      .ok (match k with
        | 0 => oneSale 0
        | 1 => oneSale 1
        | _ => .empty) := by
  match k with
  | 0 => rfl
  | 1 => rfl
  | k + 2 =>
      have hsteps : (Playback.source.after n halves (k + 2)).outside.steps = [] := by
        induction k with
        | zero => rfl
        | succ k ih =>
            show (Playback.fetch n (Playback.source.after n halves (k + 2))).2.outside.steps = []
            rw [Playback.fetch, ih]
            rfl
      show (Playback.fetch n (Playback.source.after n halves (k + 2))).1 = .ok .empty
      rw [Playback.fetch, hsteps]
      rfl

/-- The source keeps its contract, however many rows are asked for. -/
theorem halves_keepsContract {n : Nat} (hn : 0 < n) : Playback.source.KeepsContract n halves where
  bounded k := by
    refine ⟨_, answer_halves n k, ?_⟩
    match k with
    | 0 => exact hn
    | 1 => exact hn
    | k + 2 => exact Nat.zero_le n
  drained k b hb rows j hj := by
    rw [answer_halves] at hb
    cases hb
    match k, j with
    | 0, _ => cases rows
    | 1, _ => cases rows
    | k + 2, 0 => omega
    | k + 2, 1 => omega
    | k + 2, j + 2 => exact ⟨_, answer_halves n (j + 2), rfl⟩

/-- It holds both rows. -/
theorem supply_halves (n : Nat) : Playback.source.supply n halves = [oneSale 0, oneSale 1] := by
  rw [Source.supply_eq_cons (b := oneSale 0) rfl rfl,
    Source.supply_eq_cons (b := oneSale 1) rfl rfl,
    Source.supply_of_isEmpty (b := .empty) rfl rfl]

/-- Asked for one row at a time, the source gives both. -/
theorem halves_drawn :
    Playback.source.KeepsContract 1 halves ∧
    ((Extractor.mk 1 (by decide) 0 false).drain Playback.source halves).1.flatMap Batch.rows =
      (Playback.source.supply 1 halves).flatMap Batch.rows := by
  have h := halves_keepsContract (n := 1) (by decide)
  obtain ⟨-, -, hrows⟩ := rows_drain_eq_iff (x := ⟨1, by decide, 0, false⟩) rfl h
  refine ⟨h, hrows.2 ?_⟩
  rw [supply_halves]
  simp [oneSale, Batch.size]

/-- Asked for two rows at a time, it keeps its contract as well, and its second row is lost without
a fault. -/
theorem halves_lost :
    Playback.source.KeepsContract 2 halves ∧
    (Playback.source.supply 2 halves).flatMap Batch.rows = [[.int 0], [.int 1]] ∧
    ((Extractor.mk 2 (by decide) 0 false).drain Playback.source halves).1.flatMap Batch.rows =
      [[.int 0]] ∧
    ((Extractor.mk 2 (by decide) 0 false).drain Playback.source halves).2.1 = none := by
  have h := halves_keepsContract (n := 2) (by decide)
  obtain ⟨hbatches, hfault⟩ := batches_drain (x := ⟨2, by decide, 0, false⟩) rfl h
  refine ⟨h, ?_, ?_, hfault⟩
  · rw [supply_halves]
    rfl
  · rw [hbatches, supply_halves]
    rfl

end Extractor

end DataMart
