import DataMart.Proofs.Extract.Memory
import DataMart.Proofs.Extract.Sequence

/-!
# Drawing rows from memory

Rows in memory are drawn in chunks: one fetch for each full chunk, and one more for what is left,
which may be nothing.

* `Draws` says what drawing from a source comes to: some batches, then nothing or a fault, then
  nothing for ever, after so many fetches. `draws_of_drain` reads it off the loop that draws until
  it stops.
* `exists_drain_full`: as many full chunks as fit are drawn one after another. What is left is less
  than a chunk (`exists_drain_of_short`), or a row of the next chunk does not fit
  (`exists_drain_of_firstMisfit`).
* `draws_memory`: what is drawn from any rows, in chunks of any size.
-/

namespace DataMart

/-- A source with a record of the sizes that were asked for. -/
def Source.recorded {ω : Type} (src : Source ω) : Source (ω × List Nat) where
  fetch := DataMart.recorded src.fetch
  close s := ((src.close s.1).1, (src.close s.1).2, s.2)
  left s := src.left s.1
  left_fetch hb hne := src.left_fetch hb hne

namespace Extractor

/-! ## The loop and its draws -/

section drain

variable {ω : Type} {src : Source ω} {x x' : Extractor} {s s' : ω}

/-- The draws after the first are those of the extractor that it leaves. -/
theorem stateAt_draw (x : Extractor) (fetch : Nat → ω → Except Fault Batch × ω) (s : ω) (k : Nat) :
    (x.draw fetch s).2.1.stateAt fetch (x.draw fetch s).2.2 k = x.stateAt fetch s (k + 1) := by
  induction k with
  | zero => rfl
  | succ k ih => rw [stateAt, ih, ← stateAt]

/-- The record does not change what is drawn. -/
theorem resultAt_recorded (x : Extractor) (fetch : Nat → ω → Except Fault Batch × ω) (s : ω)
    (asked : List Nat) (k : Nat) :
    x.resultAt (recorded fetch) (s, asked) k = x.resultAt fetch s k := by
  obtain ⟨hx, hs⟩ := stateAt_recorded x fetch s asked k
  rw [resultAt, draw_recorded, hx, hs]
  rfl

/-- What a draw gives after the last batch. -/
def endOf : Option Fault → Except Fault (Option Batch)
  | none => .ok none
  | some e => .error e

/-- The loop that draws until it stops gives what the draws give, and leaves what they leave. -/
theorem resultAt_of_drain (src : Source ω) (x : Extractor) (s : ω) :
    (∀ (k : Nat) (hk : k < (x.drain src s).1.length),
      x.resultAt src.fetch s k = .ok (some (x.drain src s).1[k])) ∧
    x.resultAt src.fetch s (x.drain src s).1.length = endOf (x.drain src s).2.1 ∧
    x.stateAt src.fetch s ((x.drain src s).1.length + 1) = (x.drain src s).2.2 := by
  induction x, s using drain.induct src with
  | case1 x s e x' s' hnext =>
      rw [drain_of_next_error hnext]
      exact ⟨nofun, congrArg Prod.fst hnext, congrArg Prod.snd hnext⟩
  | case2 x s x' s' hnext =>
      rw [drain_of_next_none hnext]
      exact ⟨nofun, congrArg Prod.fst hnext, congrArg Prod.snd hnext⟩
  | case3 x s b x' s' hnext _ _ _ _ ih =>
      obtain ⟨hbatches, hend, hstate⟩ := ih
      have hdraw : x.draw src.fetch s = (.ok (some b), x', s') := hnext
      -- a draw of the rest is the next draw of the whole
      have hshift : ∀ k, x'.stateAt src.fetch s' k = x.stateAt src.fetch s (k + 1) := by
        intro k
        rw [← stateAt_draw, hdraw]
      have hresult : ∀ k, x'.resultAt src.fetch s' k = x.resultAt src.fetch s (k + 1) := by
        intro k
        rw [resultAt, hshift, ← resultAt]
      rw [drain_of_next_some hnext]
      refine ⟨?_, (hresult _).symm.trans hend, (hshift _).symm.trans hstate⟩
      intro k hk
      cases k with
      | zero => exact congrArg Prod.fst hnext
      | succ k =>
          rw [← hresult]
          exact hbatches k (Nat.lt_of_succ_lt_succ hk)

/-- The record does not change what the next draw gives and leaves. -/
theorem exists_next_recorded {r : Except Fault (Option Batch)}
    (h : x.next src s = (r, x', s')) (asked : List Nat) :
    ∃ asked', x.next src.recorded (s, asked) = (r, x', s', asked') := by
  have hdraw := draw_recorded src.fetch x (s, asked)
  rw [show x.draw src.fetch s = (r, x', s') from h] at hdraw
  exact ⟨_, hdraw⟩

/-- The record does not change what the loop draws. -/
theorem drain_recorded (src : Source ω) (x : Extractor) (s : ω) (asked : List Nat) :
    (x.drain src.recorded (s, asked)).1 = (x.drain src s).1 ∧
      (x.drain src.recorded (s, asked)).2.1 = (x.drain src s).2.1 := by
  induction x, s using drain.induct src generalizing asked with
  | case1 x s e x' s' hnext =>
      obtain ⟨asked', hrecorded⟩ := exists_next_recorded hnext asked
      rw [drain_of_next_error hnext, drain_of_next_error hrecorded]
      exact ⟨rfl, rfl⟩
  | case2 x s x' s' hnext =>
      obtain ⟨asked', hrecorded⟩ := exists_next_recorded hnext asked
      rw [drain_of_next_none hnext, drain_of_next_none hrecorded]
      exact ⟨rfl, rfl⟩
  | case3 x s b x' s' hnext _ _ _ _ ih =>
      obtain ⟨asked', hrecorded⟩ := exists_next_recorded hnext asked
      rw [drain_of_next_some hnext, drain_of_next_some hrecorded]
      exact ⟨congrArg (b :: ·) (ih asked').1, (ih asked').2⟩

end drain

/-- Drawing from a source until it stops gives the batches `bs` and then `fault`, if there is one,
after `fetches` fetches of `n` rows; from then on it gives nothing, without a fetch. -/
structure Draws {ω : Type} (src : Source ω) (n : Nat) (x : Extractor) (s : ω) (bs : List Batch)
    (fault : Option Fault) (fetches : Nat) : Prop where
  /-- The loop comes to an end with these batches, and with this fault. -/
  loop : (x.drain src s).1 = bs ∧ (x.drain src s).2.1 = fault
  /-- The first draws give the batches in order. -/
  batch : ∀ (k : Nat) (hk : k < bs.length), x.resultAt src.fetch s k = .ok (some bs[k])
  /-- The next one gives nothing, or the fault. -/
  stop : x.resultAt src.fetch s bs.length = endOf fault
  /-- All later ones give nothing, and no more was fetched. -/
  forever : ∀ k, bs.length < k → x.resultAt src.fetch s k = .ok none ∧
    x.askedAt src.fetch s k = List.replicate fetches n

/-- What the loop over the recorded source gives is what is drawn. -/
theorem draws_of_drain {ω : Type} {src : Source ω} {n fetches : Nat} {x x' : Extractor} {s s' : ω}
    {bs : List Batch} {fault : Option Fault}
    (h : x.drain src.recorded (s, []) = (bs, fault, x', s', List.replicate fetches n)) :
    Draws src n x s bs fault fetches := by
  obtain ⟨hbatches, hstop, hstate⟩ := resultAt_of_drain src.recorded x (s, [])
  obtain ⟨hloop, hfault⟩ := drain_recorded src x s []
  rw [h] at hloop hfault hstop hstate
  simp only [h] at hbatches
  have hresult : ∀ k, x.resultAt src.recorded.fetch (s, []) k = x.resultAt src.fetch s k :=
    resultAt_recorded x src.fetch s []
  rw [hresult] at hstop
  have hends : Ends x.chunk (x.resultAt src.fetch s bs.length) := by
    rw [hstop]
    cases fault <;> trivial
  have hexhausted := exhausted_stateAt_of_ends hends
  have hasked : x.askedAt src.fetch s (bs.length + 1) = List.replicate fetches n :=
    congrArg (fun w => w.2.2) hstate
  constructor
  · exact ⟨hloop.symm, hfault.symm⟩
  · intro k hk
    rw [← hresult]
    exact hbatches k hk
  · exact hstop
  · intro k hk
    exact ⟨resultAt_of_exhausted hexhausted hk, (askedAt_of_exhausted hexhausted hk).trans hasked⟩

/-! ## Chunk by chunk -/

section chunks

variable {x : Extractor} {columns : List Column} {rows : List (List Value)} {row : List Value}
  {n q : Nat}

/-- What is drawn from rows in memory, with the record, is what becomes of a fetch. -/
theorem next_recorded_of_fetch (hx : x.exhausted = false) {m m' : MemoryRows}
    {a : Except Fault Batch} (h : MemoryRows.fetch x.chunk m = (a, m')) (asked : List Nat) :
    x.next MemoryRows.source.recorded (m, asked) =
      ((x.receive a).1, (x.receive a).2, m', asked ++ [x.chunk]) := by
  have hrecorded := draw_recorded MemoryRows.fetch x (m, asked)
  rw [draw_of_fetch hx (congrArg Prod.fst h), h, hx] at hrecorded
  exact hrecorded

/-- Rows of which a chunk fits are drawn as a batch before the rest. -/
theorem exists_drain_chunk (hn : 0 < n) (hx : x.exhausted = false) (hchunk : x.chunk = n)
    (hle : n ≤ rows.length) (hfits : ∀ r ∈ rows.take n, fits columns r = true)
    (asked : List Nat) :
    ∃ x' : Extractor, x'.exhausted = false ∧ x'.chunk = n ∧
      ∀ bs fault r, x'.drain MemoryRows.source.recorded (⟨columns, rows.drop n⟩, asked ++ [n]) =
          (bs, fault, r) →
        x.drain MemoryRows.source.recorded (⟨columns, rows⟩, asked) =
          (⟨columns, rows.take n, hfits⟩ :: bs, fault, r) := by
  subst hchunk
  have hne : rows ≠ [] := List.ne_nil_of_length_pos (Nat.lt_of_lt_of_le hn hle)
  have hfetch := MemoryRows.fetch_of_fits hn hne hfits
  have hrows : (Batch.mk columns (rows.take x.chunk) hfits).isEmpty = false :=
    MemoryRows.isEmpty_take hn hne
  have hsize : (Batch.mk columns (rows.take x.chunk) hfits).size = x.chunk :=
    List.length_take_of_le hle
  have hnext := next_recorded_of_fetch hx hfetch asked
  rw [receive_of_le hrows (Nat.le_of_eq hsize), hsize, decide_eq_false (Nat.lt_irrefl _)] at hnext
  refine ⟨{ x with batches := x.batches + 1, exhausted := false }, rfl, rfl, ?_⟩
  intro bs fault r hrest
  rw [drain_of_next_some hnext, hrest]

/-- As many full chunks as fit are drawn one after another. -/
theorem exists_drain_full (hn : 0 < n) (k : Nat) (hk : n * k ≤ rows.length)
    (hfits : ∀ r ∈ rows.take (n * k), fits columns r = true) :
    ∃ bs : List Batch, bs.length = k ∧ (∀ b ∈ bs, b.columns = columns ∧ b.size = n) ∧
      bs.flatMap Batch.rows = rows.take (n * k) ∧
      ∀ (x : Extractor) (asked : List Nat), x.exhausted = false → x.chunk = n →
        ∃ x' : Extractor, x'.exhausted = false ∧ x'.chunk = n ∧
          ∀ tail fault r, x'.drain MemoryRows.source.recorded
              (⟨columns, rows.drop (n * k)⟩, asked ++ List.replicate k n) = (tail, fault, r) →
            x.drain MemoryRows.source.recorded (⟨columns, rows⟩, asked) =
              (bs ++ tail, fault, r) := by
  induction k generalizing rows with
  | zero =>
      refine ⟨[], rfl, nofun, by simp, fun x asked hx hchunk => ⟨x, hx, hchunk, ?_⟩⟩
      intro tail fault r h
      simpa using h
  | succ k ih =>
      have hsucc : n * (k + 1) = n + n * k := by rw [Nat.mul_succ, Nat.add_comm]
      rw [hsucc] at hk hfits ⊢
      rw [List.take_add] at hfits ⊢
      obtain ⟨hfirst, hrest⟩ := List.forall_mem_append.1 hfits
      have hle : n ≤ rows.length := Nat.le_of_add_right_le hk
      have hk' : n * k ≤ (rows.drop n).length := by
        rw [List.length_drop]
        omega
      obtain ⟨bs, hlen, hsize, hrows, hdrain⟩ := ih hk' hrest
      refine ⟨⟨columns, rows.take n, hfirst⟩ :: bs, ?_, ?_, ?_, fun x asked hx hchunk => ?_⟩
      · rw [List.length_cons, hlen]
      · exact List.forall_mem_cons.2 ⟨⟨rfl, List.length_take_of_le hle⟩, hsize⟩
      · rw [List.flatMap_cons, hrows]
      · obtain ⟨x₁, hx₁, hchunk₁, hone⟩ := exists_drain_chunk hn hx hchunk hle hfirst asked
        obtain ⟨x₂, hx₂, hchunk₂, hmany⟩ := hdrain x₁ (asked ++ [n]) hx₁ hchunk₁
        refine ⟨x₂, hx₂, hchunk₂, fun tail fault r h => hone _ _ _ (hmany tail fault r ?_)⟩
        rw [List.drop_drop, List.append_assoc]
        exact h

/-- Fewer rows than a chunk are the last, in one batch or in none, after one fetch. -/
theorem exists_drain_of_short (hx : x.exhausted = false) (hchunk : x.chunk = n)
    (hlen : rows.length < n) (hfits : ∀ r ∈ rows, fits columns r = true) (asked : List Nat) :
    ∃ tail x' s', x.drain MemoryRows.source.recorded (⟨columns, rows⟩, asked) =
        (tail, none, x', s', asked ++ [n]) ∧
      (∀ b ∈ tail, b.columns = columns) ∧ tail.flatMap Batch.rows = rows ∧
      tail.length = if rows.length = 0 then 0 else 1 := by
  subst hchunk
  by_cases hne : rows = []
  · subst hne
    have hfetch := MemoryRows.fetch_nil x.chunk columns
    have hnext := next_recorded_of_fetch hx hfetch asked
    rw [receive_of_isEmpty rfl] at hnext
    exact ⟨[], _, _, drain_of_next_none hnext, nofun, rfl, rfl⟩
  · have hn : 0 < x.chunk := Nat.zero_lt_of_lt hlen
    have htake : rows.take x.chunk = rows := List.take_of_length_le (Nat.le_of_lt hlen)
    rw [← htake] at hfits
    have hfetch := MemoryRows.fetch_of_fits hn hne hfits
    have hsize : (Batch.mk columns (rows.take x.chunk) hfits).size < x.chunk :=
      lt_of_eq_of_lt (congrArg List.length htake) hlen
    have hrows : (Batch.mk columns (rows.take x.chunk) hfits).isEmpty = false :=
      MemoryRows.isEmpty_take hn hne
    have hnext := next_recorded_of_fetch hx hfetch asked
    rw [receive_of_le hrows (Nat.le_of_lt hsize), decide_eq_true hsize] at hnext
    have hend := next_of_exhausted (x := { x with batches := x.batches + 1, exhausted := true })
      rfl MemoryRows.source.recorded
    have hdrain := drain_of_next_some hnext
    rw [drain_of_next_none (hend _)] at hdrain
    refine ⟨[⟨columns, rows.take x.chunk, hfits⟩], _, _, hdrain, ?_, ?_, ?_⟩
    · exact List.forall_mem_singleton.2 rfl
    · rw [List.flatMap_singleton]
      exact htake
    · rw [if_neg (by simpa using hne)]
      rfl

/-- A row of the next chunk that does not fit ends the drawing with a fault, after one fetch. -/
theorem exists_drain_of_firstMisfit (hx : x.exhausted = false) (hchunk : x.chunk = n)
    (h : FirstMisfit columns rows q row) (hqn : q < n) (asked : List Nat) :
    ∃ e x' s', Batch.rowFault? columns q row = some e ∧
      x.drain MemoryRows.source.recorded (⟨columns, rows⟩, asked) =
        ([], some e, x', s', asked ++ [n]) := by
  subst hchunk
  obtain ⟨e, he, hfetch⟩ := MemoryRows.exists_fetch_of_firstMisfit h hqn
  have hnext := next_recorded_of_fetch hx hfetch asked
  exact ⟨e, _, _, he, drain_of_next_error hnext⟩

/-- All but the last of some things and at most one more are among the former. -/
theorem mem_of_mem_dropLast_append {bs tail : List Batch} (hlen : tail.length ≤ 1) {b : Batch}
    (hb : b ∈ (bs ++ tail).dropLast) : b ∈ bs := by
  match tail with
  | [] =>
      rw [List.append_nil] at hb
      exact List.dropLast_subset bs hb
  | [last] => rwa [List.dropLast_concat] at hb
  | _ :: _ :: _ => simp at hlen

/-- Rows that all fit are drawn in order, in as few batches as possible. -/
theorem draws_of_fits (hn : 0 < n) (hx : x.exhausted = false) (hchunk : x.chunk = n)
    (hfits : ∀ r ∈ rows, fits columns r = true) :
    ∃ bs, Draws MemoryRows.source n x ⟨columns, rows⟩ bs none (rows.length / n + 1) ∧
      bs.length = (rows.length + n - 1) / n ∧ (∀ b ∈ bs, b.columns = columns) ∧
      (∀ b ∈ bs.dropLast, b.size = n) ∧ bs.flatMap Batch.rows = rows := by
  have hrest : (rows.drop (n * (rows.length / n))).length = rows.length % n := by
    have hdiv := Nat.mod_add_div rows.length n
    rw [List.length_drop]
    omega
  obtain ⟨bs, hlen, hfull, hrows, hdrain⟩ := exists_drain_full hn (rows.length / n)
    (Nat.mul_div_le rows.length n) fun r hr => hfits r (List.mem_of_mem_take hr)
  obtain ⟨x₁, hx₁, hchunk₁, hmany⟩ := hdrain x [] hx hchunk
  obtain ⟨tail, x₂, s₂, hend, hcolumns, hrows', hlen'⟩ := exists_drain_of_short hx₁ hchunk₁
    (hrest ▸ Nat.mod_lt rows.length hn) (fun r hr => hfits r (List.mem_of_mem_drop hr))
    ([] ++ List.replicate (rows.length / n) n)
  have hall := hmany tail none _ hend
  rw [List.nil_append, ← List.replicate_succ'] at hall
  refine ⟨bs ++ tail, draws_of_drain hall, ?_, ?_, ?_, ?_⟩
  · rw [List.length_append, hlen, hlen', hrest, ceilDiv_eq hn]
  · exact List.forall_mem_append.2 ⟨fun b hb => (hfull b hb).1, hcolumns⟩
  · intro b hb
    refine (hfull b (mem_of_mem_dropLast_append ?_ hb)).2
    rw [hlen']
    split <;> decide
  · rw [List.flatMap_append, hrows, hrows', List.take_append_drop]

/-- Before a row that does not fit, the full chunks are drawn, and then a fault. -/
theorem draws_of_firstMisfit (hn : 0 < n) (hx : x.exhausted = false) (hchunk : x.chunk = n)
    (h : FirstMisfit columns rows q row) :
    ∃ bs e, Draws MemoryRows.source n x ⟨columns, rows⟩ bs (some e) (q / n + 1) ∧
      Batch.rowFault? columns (q % n) row = some e ∧ bs.length = q / n ∧
      (∀ b ∈ bs, b.columns = columns ∧ b.size = n) ∧
      bs.flatMap Batch.rows = rows.take (n * (q / n)) := by
  have hlt := h.lt_length
  have hle : n * (q / n) ≤ rows.length :=
    Nat.le_trans (Nat.mul_div_le q n) (Nat.le_of_lt hlt)
  rw [← Nat.div_add_mod q n] at h
  have hfits : ∀ r ∈ rows.take (n * (q / n)), fits columns r = true := by
    have hbefore := h.before
    rw [List.take_add] at hbefore
    exact (List.forall_mem_append.1 hbefore).1
  obtain ⟨bs, hlen, hfull, hrows, hdrain⟩ := exists_drain_full hn (q / n) hle hfits
  obtain ⟨x₁, hx₁, hchunk₁, hmany⟩ := hdrain x [] hx hchunk
  obtain ⟨e, x₂, s₂, he, hend⟩ := exists_drain_of_firstMisfit hx₁ hchunk₁ h.drop
    (Nat.mod_lt q hn) ([] ++ List.replicate (q / n) n)
  have hall := hmany [] (some e) _ hend
  rw [List.append_nil, List.nil_append, ← List.replicate_succ'] at hall
  exact ⟨bs, e, draws_of_drain hall, he, hlen, hfull, hrows⟩

end chunks

/-- **What a new extractor draws from rows in memory.** If all rows fit, these are all of them, in as
few batches as possible, and nothing after them. Otherwise these are the rows before the chunk of
the first row that does not fit, then a fault that tells its place in its chunk, and nothing after
it. Either way there is one fetch for each full chunk, and one more. -/
theorem draws_memory {n : Nat} {x : Extractor} (hx : ofChunk n = .ok x) (columns : List Column)
    (rows : List (List Value)) :
    ((∀ row ∈ rows, fits columns row = true) →
      ∃ bs, Draws MemoryRows.source n x ⟨columns, rows⟩ bs none (rows.length / n + 1) ∧
        bs.length = (rows.length + n - 1) / n ∧ (∀ b ∈ bs, b.columns = columns) ∧
        (∀ b ∈ bs.dropLast, b.size = n) ∧ bs.flatMap Batch.rows = rows) ∧
    (∀ q row, FirstMisfit columns rows q row →
      ∃ bs e, Draws MemoryRows.source n x ⟨columns, rows⟩ bs (some e) (q / n + 1) ∧
        Batch.rowFault? columns (q % n) row = some e ∧ bs.length = q / n ∧
        (∀ b ∈ bs, b.columns = columns ∧ b.size = n) ∧
        bs.flatMap Batch.rows = rows.take (n * (q / n))) := by
  obtain ⟨hn, rfl⟩ := eq_of_ofChunk hx
  exact ⟨draws_of_fits hn rfl rfl, fun q row h => draws_of_firstMisfit hn rfl rfl h⟩

/-- The columns of a few numbers. -/
def numberColumns : List Column := [⟨"n", .integer⟩]

/-- Two chunks of two numbers take three fetches; a word in the second chunk is found by the second
fetch. -/
theorem numbers_drawn :
    ofChunk 2 = .ok ⟨2, Nat.two_pos, 0, false⟩ ∧
    (∃ bs, Draws MemoryRows.source 2 ⟨2, Nat.two_pos, 0, false⟩
      ⟨numberColumns, [[.int 1], [.int 2], [.int 3], [.int 4]]⟩ bs none 3 ∧ bs.length = 2) ∧
    ∃ bs e, Draws MemoryRows.source 2 ⟨2, Nat.two_pos, 0, false⟩
      ⟨numberColumns, [[.int 1], [.int 2], [.int 3], [.text "four"]]⟩ bs (some e) 2 ∧
      bs.flatMap Batch.rows = [[.int 1], [.int 2]] := by
  have h := draws_memory (n := 2) (x := ⟨2, Nat.two_pos, 0, false⟩) rfl numberColumns
  refine ⟨rfl, ?_, ?_⟩
  · obtain ⟨bs, hdraws, hlen, -⟩ := (h [[.int 1], [.int 2], [.int 3], [.int 4]]).1 (by decide)
    exact ⟨bs, hdraws, hlen⟩
  · obtain ⟨bs, e, hdraws, -, -, -, hrows⟩ :=
      (h [[.int 1], [.int 2], [.int 3], [.text "four"]]).2 3 _ ⟨rfl, by decide, rfl⟩
    exact ⟨bs, e, hdraws, hrows⟩

end Extractor

end DataMart
