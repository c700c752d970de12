import DataMart.Batch

/-!
# Sources and extraction

A `Source` hands out its rows in batches, forwards only. It is a machine over some state: a fetch
asks for at most so many rows and gives a batch or a fault, and closing releases it. A source is
finite: `left` bounds how many more fetches can give rows.

An `Extractor` draws batches of bounded size from a source until it is drained. The sequence cannot
be restarted: once a fetch failed or gave an empty, a short or an overlong batch, the source is not
asked again.
-/

namespace DataMart

/-- A finite, forward-only source of batches, over states `ω`. -/
structure Source (ω : Type) where
  /-- Ask for at most so many rows. An empty batch means that the source is drained. -/
  fetch : Nat → ω → Except Fault Batch × ω
  /-- Release the source. -/
  close : ω → Except Fault Unit × ω
  /-- A bound on the fetches that can still give rows. -/
  left : ω → Nat
  left_fetch : ∀ {n : Nat} {s : ω} {b : Batch}, (fetch n s).1 = .ok b → b.isEmpty = false →
    left (fetch n s).2 < left s

/-- What is said about a chunk size of zero. -/
def zeroChunk : Fault := .config "chunk_size must be greater than zero"

/-- What is said about a batch of more rows than were asked for. -/
def overlong (asked : Nat) (b : Batch) : Fault :=
  .sourceQuery ("source returned " ++ toString b.size ++ " rows for a chunk of " ++ toString asked)

/-- The batches drawn from a source so far, and whether more may come. -/
structure Extractor where
  /-- The number of rows asked for at a time. -/
  chunk : Nat
  chunk_pos : 0 < chunk
  batches : Nat := 0
  exhausted : Bool := false

namespace Extractor

/-- An extractor that has drawn nothing yet. -/
def ofChunk (chunk : Nat) : Except Fault Extractor :=
  if h : 0 < chunk then .ok { chunk := chunk, chunk_pos := h } else .error zeroChunk

/-- The extractor after the last batch that it will draw. -/
def finish (x : Extractor) : Extractor := { x with exhausted := true }

/-- Take in what a fetch gave. -/
def receive (x : Extractor) : Except Fault Batch → Except Fault (Option Batch) × Extractor
  | .error e => (.error e, x.finish)
  | .ok b =>
    if b.isEmpty then (.ok none, x.finish)
    else if x.chunk < b.size then (.error (overlong x.chunk b), x.finish)
    else
      (.ok (some b),
        { x with batches := x.batches + 1, exhausted := decide (b.size < x.chunk) })

/-- Draw the next batch from whatever answers to fetches, or nothing once that is drained. -/
def draw {ω : Type} (fetch : Nat → ω → Except Fault Batch × ω) (x : Extractor) (s : ω) :
    Except Fault (Option Batch) × Extractor × ω :=
  if x.exhausted then (.ok none, x, s)
  else
    let (answer, s') := fetch x.chunk s
    let (result, x') := x.receive answer
    (result, x', s')

/-- Draw the next batch of a source. -/
def next {ω : Type} (src : Source ω) (x : Extractor) (s : ω) :
    Except Fault (Option Batch) × Extractor × ω :=
  x.draw src.fetch s

/-- A batch that was received is one that came, and it has rows. -/
theorem receive_ok_some {x : Extractor} {a : Except Fault Batch} {b : Batch}
    (h : (x.receive a).1 = .ok (some b)) : a = .ok b ∧ b.isEmpty = false := by
  cases a with
  | error e => simp [receive] at h
  | ok c =>
    simp only [receive] at h
    split at h
    · simp at h
    · split at h
      · simp at h
      · simp_all

/-- Drawing a batch leaves fewer to draw. -/
theorem left_next {ω : Type} {src : Source ω} {x : Extractor} {s : ω} {b : Batch}
    (h : (x.next src s).1 = .ok (some b)) : src.left (x.next src s).2.2 < src.left s := by
  unfold next draw at h ⊢
  split at h
  · simp at h
  · rename_i hx
    rw [if_neg hx]
    obtain ⟨hb, he⟩ := receive_ok_some h
    exact src.left_fetch hb he

/-- Draw everything that is left: the batches, and the fault that ended it, if any. -/
def drain {ω : Type} (src : Source ω) (x : Extractor) (s : ω) :
    List Batch × Option Fault × Extractor × ω :=
  match _h : x.next src s with
  | (.error e, x', s') => ([], some e, x', s')
  | (.ok none, x', s') => ([], none, x', s')
  | (.ok (some b), x', s') =>
    let (batches, fault, rest) := drain src x' s'
    (b :: batches, fault, rest)
termination_by src.left s
decreasing_by
  have hb : (x.next src s).1 = .ok (some b) := by rw [_h]
  have := left_next hb
  rw [_h] at this
  exact this

end Extractor

end DataMart
