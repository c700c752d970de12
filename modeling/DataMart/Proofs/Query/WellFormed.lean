import DataMart.Proofs.Json.Ensures
import DataMart.Query.Request

/-!
# Requests that are read

Whatever text a request is read from, it keeps what the types of its fields promise: the limit fits
64 bits, and the operands of the conditions are well-formed (`wellFormed_of_parse`). This holds of
requests written as objects and as lists. Each member of an object keeps it of the draft
(`ensures_member`), and the draft hands it on to the request (`Draft.WellFormed.done`).
-/

namespace DataMart.Request

open Json

variable {depth : Nat}

/-- The operands of the conditions on rows and on groups. -/
def values (r : Request) : List Json := (r.filters ++ r.having).map Filter.value

/-- What the types of the fields promise: the limit fits 64 bits, and the operands are well-formed. -/
structure WellFormed (r : Request) : Prop where
  limit : ∀ n ∈ r.limit, n < Word.unsignedEnd
  values : ∀ v ∈ r.values, v.WellFormed

/-- Conditions with well-formed operands. -/
def WellFormedFilters (fs : List Filter) : Prop := ∀ f ∈ fs, f.value.WellFormed

/-- The fields of a draft that were read are well-formed. -/
structure Draft.WellFormed (d : Draft) : Prop where
  filters : ∀ fs ∈ d.filters, WellFormedFilters fs
  having : ∀ fs ∈ d.having, WellFormedFilters fs
  limit : ∀ limit ∈ d.limit, ∀ n ∈ limit, n < Word.unsignedEnd

theorem wellFormedFilters_getD {fs : Option (List Filter)} (h : ∀ a ∈ fs, WellFormedFilters a) :
    WellFormedFilters (fs.getD []) := by
  cases fs with
  | none => intro f hf; cases hf
  | some fs => exact h fs rfl

theorem Draft.WellFormed.done {d : Draft} (h : d.WellFormed) : d.done.WellFormed where
  limit n hn := by
    cases hd : d.limit with
    | none => simp [Draft.done, hd] at hn
    | some limit => exact h.limit limit hd n (by simpa [Draft.done, hd] using hn)
  values v hv := by
    obtain ⟨f, hf, rfl⟩ := List.mem_map.1 hv
    rcases List.mem_append.1 hf with hf | hf
    · exact wellFormedFilters_getD h.filters f hf
    · exact wellFormedFilters_getD h.having f hf

section Ensures

variable {α σ : Type} {I : σ → Prop} {P : α → Prop} {s : List Char}

theorem ensures_setOnce {old : Option α} {read : Reader α} {put : α → σ} {reader : Reader σ}
    (h : setOnce old read put = .ok reader) (hread : ∀ u, Ensures P (read u))
    (hput : ∀ a, P a → I (put a)) (u : List Char) : Ensures I (reader u) := by
  cases old with
  | some a => cases h
  | none =>
      cases h
      exact Ensures.mapValue fun a r heq => hput a (hread u a r heq)

theorem ensures_ignore {acc : σ} (hacc : I acc) (u : List Char) : Ensures I (ignore acc u) :=
  Ensures.mapValue fun _ _ _ => hacc

theorem ensures_listOf {read : Nat → Reader α} (hread : ∀ depth u, Ensures P (read depth u))
    (depth : Nat) (s : List Char) : Ensures (fun vs => ∀ v ∈ vs, P v)
      (listOf depth (fun depth acc u => (read depth u).mapValue (· :: acc)) [] s) := by
  unfold listOf
  split
  · next t h =>
    cases depth with
    | zero => exact ensures_error _
    | succ depth => exact (ensures_push (hread depth) t).afterFirst h
  · exact ensures_error _

theorem of_element? {first : Bool} {read : Reader α} (hread : ∀ u, Ensures P (read u))
    {a : Option α} {r : Remainder s} (h : element? first read s = .ok (a, r)) : ∀ x ∈ a, P x := by
  unfold element? at h
  split at h
  · cases h
  · cases h
    simp
  · split at h
    · cases h
    · next x r' heq =>
      cases h
      intro y hy
      cases hy
      exact hread _ x r' heq

theorem ensures_closeElements {a : α} (ha : P a) (s : List Char) :
    Ensures P (closeElements a s) := by
  unfold closeElements
  split
  · exact ensures_error _
  · split
    · exact (ensures_ok _ _).2 ha
    · exact ensures_error _

end Ensures

/-- Each member of a condition keeps its operand well-formed. -/
theorem ensures_filterMember {d : FilterDraft} {name : String} {read : Reader FilterDraft}
    (hd : ∀ v ∈ d.value, v.WellFormed) (h : filterMember depth d name = .ok read) (u : List Char) :
    Ensures (fun d => ∀ v ∈ d.value, v.WellFormed) (read u) := by
  unfold filterMember at h
  split at h
  · exact ensures_setOnce h (fun u => ensures_true _) (fun _ _ => hd) u
  · exact ensures_setOnce h (fun u => ensures_true _) (fun _ _ => hd) u
  · exact ensures_setOnce h (ensures_value depth) (fun a ha => by simpa using ha) u
  · cases h
    exact ensures_ignore hd u

theorem wellFormed_getD {v : Option Json} (h : ∀ w ∈ v, w.WellFormed) :
    (v.getD .null).WellFormed := by
  cases v with
  | none => exact every_null.2 trivial
  | some w => exact h w rfl

theorem ensures_filterElements (depth : Nat) (s : List Char) :
    Ensures (fun f => f.value.WellFormed) (filterElements depth s) := by
  unfold filterElements
  split
  · exact ensures_error _
  · exact ensures_error _
  · split
    · exact ensures_error _
    · exact ensures_error _
    · split
      · exact ensures_error _
      · next hvalue =>
        have hwf := wellFormed_getD (of_element? (ensures_value depth) hvalue)
        exact (ensures_closeElements (P := fun f : Filter => f.value.WellFormed) hwf _).widen _

theorem FilterDraft.wellFormed_done {d : FilterDraft} {f : Filter}
    (hd : ∀ v ∈ d.value, v.WellFormed) (h : d.done = .ok f) : f.value.WellFormed := by
  unfold FilterDraft.done at h
  split at h
  · cases h
    exact wellFormed_getD hd
  · cases h

theorem ensures_filter (depth : Nat) (s : List Char) :
    Ensures (fun f => f.value.WellFormed) (filter depth s) := by
  unfold filter
  split
  · next t h =>
    cases depth with
    | zero => exact ensures_error _
    | succ depth => exact (ensures_filterElements depth t).afterFirst h
  · next t h =>
    cases depth with
    | zero => exact ensures_error _
    | succ depth =>
        have hmembers : Ensures (fun d => ∀ v ∈ d.value, v.WellFormed)
            (members (filterMember depth) {} t) :=
          ensures_membersFrom (fun _ _ _ u hd haccept => ensures_filterMember hd haccept u) true
            (by simp) t
        simp only
        split
        · exact ensures_error _
        · next d r heq =>
          refine Ensures.afterFirst ?_ h
          cases hdone : d.done with
          | error e => exact ensures_error e
          | ok f => exact (ensures_ok f r).2 (d.wellFormed_done (hmembers d r heq) hdone)
  · exact ensures_error _

theorem ensures_filterList (depth : Nat) (s : List Char) :
    Ensures WellFormedFilters (filterList depth s) := by
  refine Ensures.mapValue fun fs r heq f hf => ?_
  exact ensures_listOf ensures_filter depth s fs r heq f (List.mem_reverse.1 hf)

/-- Each member of a request keeps its draft well-formed. -/
theorem ensures_member {d : Draft} {name : String} {read : Reader Draft} (hd : d.WellFormed)
    (h : member depth d name = .ok read) (u : List Char) :
    Ensures Draft.WellFormed (read u) := by
  have hfilters := ensures_filterList depth
  unfold member at h
  split at h
  · exact ensures_setOnce h (fun _ => ensures_true _) (fun _ _ => ⟨hd.1, hd.2, hd.3⟩) u
  · exact ensures_setOnce h (fun _ => ensures_true _) (fun _ _ => ⟨hd.1, hd.2, hd.3⟩) u
  · exact ensures_setOnce h hfilters (fun _ ha => ⟨by simpa using ha, hd.2, hd.3⟩) u
  · exact ensures_setOnce h hfilters (fun _ ha => ⟨hd.1, by simpa using ha, hd.3⟩) u
  · exact ensures_setOnce h (fun _ => ensures_true _) (fun _ _ => ⟨hd.1, hd.2, hd.3⟩) u
  · exact ensures_setOnce h ensures_count? (fun _ ha => ⟨hd.1, hd.2, by simpa using ha⟩) u
  · cases h
    exact ensures_ignore hd u

theorem ensures_elements (depth : Nat) (s : List Char) :
    Ensures Draft.WellFormed (elements depth s) := by
  have hfilters := ensures_filterList depth
  unfold elements
  split
  · exact ensures_error _
  · split
    · exact ensures_error _
    · split
      · exact ensures_error _
      · next hfs =>
        split
        · exact ensures_error _
        · next hhaving =>
          split
          · exact ensures_error _
          · split
            · exact ensures_error _
            · next hlimit =>
              refine (ensures_closeElements ?_ _).widen _
              exact ⟨of_element? hfilters hfs, of_element? hfilters hhaving,
                of_element? ensures_count? hlimit⟩

theorem ensures_reader (depth : Nat) (s : List Char) :
    Ensures Request.WellFormed (reader depth s) := by
  unfold reader
  split
  · next t h =>
    cases depth with
    | zero => exact ensures_error _
    | succ depth =>
        refine (Ensures.mapValue fun d r heq => ?_).afterFirst h
        exact (ensures_elements depth t d r heq).done
  · next t h =>
    cases depth with
    | zero => exact ensures_error _
    | succ depth =>
        refine (Ensures.mapValue fun d r heq => Draft.WellFormed.done ?_).afterFirst h
        exact ensures_membersFrom (fun _ _ _ u hd haccept => ensures_member hd haccept u) true
          ⟨by simp, by simp, by simp⟩ t d r heq
  · exact ensures_error _

/-- **A request that is read is well-formed.** -/
theorem wellFormed_of_parse {s : String} {r : Request} (h : parse s = .ok r) : r.WellFormed :=
  of_readAll (ensures_reader maxDepth) h

end DataMart.Request
