import DataMart.Proofs.Json.Parts

/-!
# What is read is well-formed

Whatever text is read, the value that reading gives is well-formed: its whole numbers fit 64 bits and
the members of its objects are sorted by name (`wellFormed_of_parse`). `Ensures P res` says that a
result has `P` if there is one; the loops keep a property of their state (`ensures_items`,
`ensures_members`), and a value is followed down the depth that is left.
-/

namespace DataMart.Json

variable {α β σ : Type} {s t : List Char} {P : α → Prop} {Q : β → Prop}

/-- What is read, if anything is, has the property `P`. -/
def Ensures (P : α → Prop) (res : Result α s) : Prop := ∀ a r, res = .ok (a, r) → P a

@[simp] theorem ensures_error (e : ReadError) : Ensures P (s := s) (.error e) := fun _ _ h => by
  cases h

@[simp] theorem ensures_ok (a : α) (r : Rest s) : Ensures P (.ok (a, r)) ↔ P a :=
  ⟨fun h => h a r rfl, fun h _ _ heq => by cases heq; exact h⟩

theorem ensures_true (res : Result α s) : Ensures (fun _ => True) res := fun _ _ _ => trivial

theorem Ensures.mapValue {res : Result α s} {f : α → β} (h : Ensures (fun a => Q (f a)) res) :
    Ensures Q (res.mapValue f) := by
  cases res with
  | error e => exact ensures_error e
  | ok ar => exact (ensures_ok _ _).2 (h ar.1 ar.2 rfl)

theorem Ensures.widen {res : Result α t} (h : Ensures P res) (hle : t.length ≤ s.length) :
    Ensures (s := s) P (res.widen hle) := by
  cases res with
  | error e => exact ensures_error e
  | ok ar => exact (ensures_ok _ _).2 (h ar.1 ar.2 rfl)

theorem Ensures.andThen {r : Rest s} {res : Result α r.1} (h : Ensures P res) :
    Ensures P (r.andThen res) :=
  h.widen _

theorem Ensures.afterFirst {c : Char} {res : Result α t} (h : Ensures P res)
    (hs : skipBlanks s = c :: t) : Ensures P (Json.afterFirst hs res) :=
  h.widen _

theorem ensures_keyword {c : Char} {word : List Char} {a : α} (ha : P a)
    (hs : skipBlanks s = c :: t) : Ensures P (keyword word a hs) := by
  unfold keyword
  split
  · exact ensures_error _
  · exact (ensures_ok _ _).2 ha

/-- A property of the result of reading a whole text. -/
theorem of_readAll {read : Reader α} {s : String} {a : α} (h : ∀ u, Ensures P (read u))
    (heq : readAll read s = .ok a) : P a := by
  rw [readAll] at heq
  split at heq
  · cases heq
  · next a' r hread =>
    split at heq
    · cases heq
      exact h _ _ _ hread
    · cases heq

/-! ## Loops -/

/-- A list keeps a property of the state that each item keeps. -/
theorem ensures_itemsFrom {step : σ → Reader σ} {I : σ → Prop}
    (hstep : ∀ acc u, I acc → Ensures I (step acc u)) (first : Bool) {acc : σ} (hacc : I acc)
    (s : List Char) : Ensures I (itemsFrom step first acc s) := by
  rw [itemsFrom]
  split
  · exact ensures_error _
  · exact (ensures_ok _ _).2 hacc
  · next r _ =>
    split
    · exact ensures_error _
    · next acc' r' hread =>
      have hless : r'.1.length < s.length := Nat.lt_of_lt_of_le r'.2 r.2
      exact (ensures_itemsFrom hstep false (hstep _ _ hacc _ _ hread) r'.1).widen _
termination_by s.length

/-- An object keeps a property of the state that each member keeps. -/
theorem ensures_membersFrom {ν : Type} {name : Reader ν}
    {step : σ → ν → Except ReadError (Reader σ)} {I : σ → Prop}
    (hstep : ∀ acc n read u, I acc → step acc n = .ok read → Ensures I (read u)) (first : Bool)
    {acc : σ} (hacc : I acc) (s : List Char) : Ensures I (membersFrom name step first acc s) := by
  rw [membersFrom]
  split
  · exact ensures_error _
  · exact (ensures_ok _ _).2 hacc
  · next r _ =>
    split
    · exact ensures_error _
    · next n r₁ _ =>
      split
      · exact ensures_error _
      · next read haccept =>
        split
        · exact ensures_error _
        · next r₂ _ =>
          split
          · exact ensures_error _
          · next acc' r₃ hread =>
            have hless : r₃.1.length < s.length := by
              have := r.2
              have := r₁.2
              have := r₂.2
              have := r₃.2
              omega
            have hacc' := hstep _ _ _ _ hacc haccept _ _ hread
            exact (ensures_membersFrom hstep false hacc' r₃.1).widen _
termination_by s.length

/-! ## Numbers -/

theorem proper_of_number {n : NumberText} {v : Number} (h : n.number = .ok v) :
    Proper (.number v) := by
  have hreal (x : Except ReadError Float) (h : x.map .real = .ok v) : Proper (.number v) := by
    cases x with
    | error e => cases h
    | ok x => cases h; trivial
  simp only [NumberText.number] at h
  split at h
  · split at h
    · next hlt =>
      cases h
      exact ⟨by omega, Int.ofNat_lt.2 hlt⟩
    · exact hreal _ h
  · split at h
    · next hrange =>
      cases h
      have := hrange.2
      exact ⟨by omega, by simp only [Word.unsignedEnd]; omega⟩
    · exact hreal _ h
  · exact hreal _ h

theorem ensures_readNumber (negative : Bool) (s : List Char) :
    Ensures (fun n => WellFormed (.number n)) (readNumber negative s) := by
  unfold readNumber
  split
  · exact ensures_error _
  · next n r _ =>
    cases h : n.number with
    | error e => exact ensures_error e
    | ok v => exact (ensures_ok v r).2 ((every_number v).2 (proper_of_number h))

/-! ## Values -/

theorem wellFormed_list {vs : List Json} (h : ∀ v ∈ vs, WellFormed v) : WellFormed (.list vs) :=
  (every_list vs).2 ⟨trivial, h⟩

theorem wellFormed_object {ms : List (String × Json)} (hsorted : Sorted ms)
    (h : ∀ m ∈ ms, WellFormed m.2) : WellFormed (.object ms) :=
  (every_object ms).2 ⟨hsorted, h⟩

theorem ensures_closeMembers {a : α} (ha : P a) (s : List Char) : Ensures P (closeMembers a s) := by
  unfold closeMembers
  split
  · exact ensures_error _
  · split
    · exact (ensures_ok _ _).2 ha
    · exact ensures_error _

theorem ensures_embeddedValue {embedded : String → Option Json}
    (hembedded : ∀ inner, ∀ v ∈ embedded inner, WellFormed v) (s : List Char) :
    Ensures WellFormed (embeddedValue embedded s) := by
  unfold embeddedValue
  split
  · exact ensures_error _
  · split
    · exact ensures_error _
    · split
      · exact ensures_error _
      · next v heq => exact (ensures_closeMembers (hembedded _ v heq) _).widen _

/-- What an object is gathered in: members that are sorted and well-formed. -/
theorem ensures_put {read : Reader Json} (hread : ∀ u, Ensures WellFormed (read u))
    (s : List Char) : Ensures (fun ms => Sorted ms ∧ ∀ m ∈ ms, WellFormed m.2)
      (members (fun acc name => .ok fun u => (read u).mapValue (insert name · acc)) [] s) := by
  refine ensures_membersFrom (fun acc name read' u hacc haccept => ?_) true
    ⟨List.Pairwise.nil, by simp⟩ s
  cases haccept
  refine Ensures.mapValue fun v r heq => ⟨hacc.1.insert, fun m hm => ?_⟩
  rcases mem_insert hm with rfl | hm
  · exact hread u v r heq
  · exact hacc.2 m hm

/-- What a list is gathered in: values that are well-formed. -/
theorem ensures_push {read : Reader α} (hread : ∀ u, Ensures P (read u)) (s : List Char) :
    Ensures (fun vs => ∀ v ∈ vs, P v)
      (items (fun acc u => (read u).mapValue (· :: acc)) [] s) := by
  refine ensures_itemsFrom (fun acc u hacc => Ensures.mapValue fun v r heq => ?_) true (by simp) s
  exact List.forall_mem_cons.2 ⟨hread u v r heq, hacc⟩

/-- **A value that is read is well-formed**, if the values of embedded texts are. -/
theorem ensures_valueIn {embedded : String → Option Json}
    (hembedded : ∀ inner, ∀ v ∈ embedded inner, WellFormed v) (depth : Nat) (s : List Char) :
    Ensures WellFormed (valueIn embedded depth s) := by
  unfold valueIn
  split
  · exact ensures_error _
  · next c t h =>
    split_ifs with hnull htrue hfalse hminus hdigit hquote hlist hobject
    · exact ensures_keyword (every_null.2 trivial) h
    · exact ensures_keyword ((every_bool _).2 trivial) h
    · exact ensures_keyword ((every_bool _).2 trivial) h
    · exact (ensures_readNumber true t).mapValue.afterFirst h
    · exact (ensures_readNumber false _).mapValue.widen _
    · exact (Ensures.mapValue fun _ _ _ => (every_text _).2 trivial).afterFirst h
    · cases depth with
      | zero => exact ensures_error _
      | succ depth =>
          have hitems := ensures_push (ensures_valueIn hembedded depth) t
          refine (Ensures.mapValue fun vs r heq => wellFormed_list fun v hv => ?_).afterFirst h
          exact hitems vs r heq v (List.mem_reverse.1 hv)
    · cases depth with
      | zero => exact ensures_error _
      | succ depth =>
          have hmembers := ensures_put (ensures_valueIn hembedded depth) t
          simp only
          split
          · exact (ensures_embeddedValue hembedded _).andThen.afterFirst h
          · refine (Ensures.mapValue fun ms r heq => ?_).afterFirst h
            exact wellFormed_object (hmembers ms r heq).1 (hmembers ms r heq).2
    · exact ensures_error _

theorem eq_ok_of_mem_toOption {ε : Type} {x : Except ε α} {a : α} (h : a ∈ x.toOption) :
    x = .ok a := by
  cases x with
  | error e => cases h
  | ok b => cases h; rfl

/-- **Every value that a text stands for is well-formed.** -/
theorem wellFormed_of_parse {s : String} {v : Json} (h : parse s = .ok v) : WellFormed v := by
  rw [parse] at h
  refine of_readAll (fun u => ensures_valueIn (fun inner w hw => ?_) maxDepth u) h
  -- a text that is embedded is shorter
  split_ifs at hw with hless
  · exact wellFormed_of_parse (eq_ok_of_mem_toOption hw)
  · cases hw
termination_by s.length

theorem ensures_value (depth : Nat) (s : List Char) : Ensures WellFormed (value depth s) :=
  ensures_valueIn (fun _ _ hw => wellFormed_of_parse (eq_ok_of_mem_toOption hw)) depth s

/-! ## Lists and counts -/

theorem ensures_unsigned {res : Result Number s} (h : Ensures (fun n => WellFormed (.number n)) res) :
    Ensures (fun limit => ∀ n ∈ limit, n < Word.unsignedEnd) (unsigned res) := by
  unfold unsigned
  split
  · exact ensures_error _
  · next n r =>
    split
    · have hn : WellFormed (.number (.int n)) := h _ r rfl
      have hlt := hn.self.2
      refine (ensures_ok _ _).2 fun m hm => ?_
      cases hm
      omega
    · exact ensures_error _
  · exact ensures_error _

theorem ensures_count? (s : List Char) :
    Ensures (fun limit => ∀ n ∈ limit, n < Word.unsignedEnd) (count? s) := by
  unfold count?
  split
  · exact ensures_error _
  · next c t h =>
    split_ifs
    · exact ensures_keyword (by simp) h
    · exact (ensures_unsigned (ensures_readNumber true t)).afterFirst h
    · exact (ensures_unsigned (ensures_readNumber false _)).widen _
    · exact ensures_error _

end DataMart.Json
