import DataMart.Proofs.Json.RoundTrip
import DataMart.Proofs.Query.WellFormed

/-!
# Requests in JSON text

A request is printed and read back (`parse_print`). The readers of its parts are taken from the
inside out: lists of texts, conditions, orderings, the limit, and then the fields, which set a draft
one after the other (`readsMembers_request`).

The operands of the conditions are the only part that may change on the way, because an object with
the mark of embedded texts is read as what it embeds. So `parse_print_mapValues` takes what the text
of each operand is read as. It is the operand itself in `parse_print`, and the embedded value in
`parse_print_embedded`.
-/

namespace DataMart.Request

open Json

variable {rest : List Char} {depth : Nat}

/-- A member that is set for the first time. -/
theorem readsMembers_setOnce {σ α : Type} {step : σ → String → Except ReadError (Reader σ)}
    {acc acc' : σ} {name : String} {x : List Char} {xs : List (String × List Char)}
    {read : Reader α} {put : α → σ} {a : α} (hstep : step acc name = setOnce none read put)
    (hread : ∀ rest, Ends rest → Gives (read (x ++ rest)) a rest)
    (more : ReadsMembers step (put a) xs acc') : ReadsMembers step acc ((name, x) :: xs) acc' :=
  .cons hstep (fun rest hrest => (hread rest hrest).mapValue put) more

theorem gives_filter_object {t : List Char} {d : FilterDraft} {f : Filter}
    (hmembers : Gives (members (filterMember depth) {} t) d rest) (hdone : d.done = .ok f) :
    Gives (filter (depth + 1) ('\x7b' :: t)) f rest := by
  have hblank := skipBlanks_cons (c := '\x7b') rfl t
  obtain ⟨hlt, hmembers⟩ := hmembers
  unfold filter
  split
  · next h => cases hblank.symm.trans h
  · next h =>
    cases hblank.symm.trans h
    refine ⟨Nat.lt_succ_of_lt hlt, ?_⟩
    simp only [hmembers, hdone]
    rfl
  · next _ h => exact absurd hblank (h _)

/-- A condition is read back up to its value. -/
theorem gives_filter {f : Filter} {v : Json}
    (h : ∀ rest, Ends rest → Gives (value depth (f.value.chars ++ rest)) v rest) (rest : List Char) :
    Gives (filter (depth + 1) ((filterJson f).chars ++ rest)) { f with value := v } rest := by
  have hmembers : ReadsMembers (filterMember depth) {} (charsOfMembers
      [("field", .text f.field), ("operator", .text f.operator), ("value", f.value)])
      ⟨some f.field, some f.operator, some v⟩ :=
    readsMembers_setOnce rfl (fun rest _ => gives_string_chars f.field rest) <|
      readsMembers_setOnce rfl (fun rest _ => gives_string_chars f.operator rest) <|
        readsMembers_setOnce rfl h <| .nil _
  rw [filterJson, chars_object, List.cons_append, List.append_assoc]
  exact gives_filter_object (gives_members hmembers rest) rfl

/-- Conditions are read back up to their values. -/
theorem gives_filterList {fs : List Filter} {g : Json → Json} (h : ∀ f ∈ fs, ∀ rest, Ends rest →
    Gives (value depth (f.value.chars ++ rest)) (g f.value) rest) (rest : List Char) :
    Gives (filterList (depth + 2) (chars (.list (fs.map filterJson)) ++ rest))
      (fs.map fun f => { f with value := g f.value }) rest := by
  have hitems : ReadsItems (fun acc u => (filter (depth + 1) u).mapValue (· :: acc)) []
      (fs.map fun f => (filterJson f).chars)
      (fs.map fun f => { f with value := g f.value }).reverse :=
    readsItems_push _ _ fun f hf => ⟨opens_chars rfl, fun acc rest _ =>
      (gives_filter (h f hf) rest).mapValue (· :: acc)⟩
  have hlist : Gives (listOf (depth + 2) (fun depth acc u =>
      (filter depth u).mapValue (· :: acc)) [] _) _ rest := gives_listOf hitems rest
  have hfilters := hlist.mapValue List.reverse
  rw [List.reverse_reverse] at hfilters
  rw [chars_list, List.map_map, List.cons_append, List.append_assoc]
  exact hfilters

theorem gives_ordering_object {t : List Char} {os : List OrderBy}
    (h : Gives (members (fun acc column => .ok fun u =>
      (string u).mapValue (OrderBy.mk column · :: acc)) [] t) os.reverse rest) :
    Gives (ordering (depth + 1) ('\x7b' :: t)) os rest := by
  have hblank := skipBlanks_cons (c := '\x7b') rfl t
  unfold ordering
  split
  · next h' => cases hblank.symm.trans h'
  · next h' => cases hblank.symm.trans h'
  · next h' =>
    cases hblank.symm.trans h'
    have hread := (h.mapValue List.reverse).afterFirst h'
    rw [List.reverse_reverse] at hread
    exact hread
  · next _ _ h' => exact absurd hblank (h' _)

theorem gives_ordering (os : List OrderBy) (rest : List Char) :
    Gives (ordering (depth + 1) (chars (.object (os.map fun o => (o.column, .text o.direction)))
      ++ rest)) os rest := by
  have hmembers : ReadsMembers (fun acc column => .ok fun u =>
      (string u).mapValue (OrderBy.mk column · :: acc)) []
      (os.map fun o => (o.column, chars (.text o.direction)))
      (os.foldl (fun acc o => o :: acc) []) := by
    refine readsMembers_foldl _ OrderBy.column (fun o => chars (.text o.direction)) ?_ []
    intro o _ acc
    refine ⟨_, rfl, ?_⟩
    intro rest _
    exact (gives_string_chars o.direction rest).mapValue (OrderBy.mk o.column · :: acc)
  rw [List.foldl_flip_cons_eq_append', List.append_nil] at hmembers
  rw [chars_object, charsOfMembers, List.map_map, List.cons_append, List.append_assoc]
  exact gives_ordering_object (gives_members hmembers rest)

/-! ## Requests -/

/-- A request with the values of its conditions replaced. -/
def mapValues (g : Json → Json) (r : Request) : Request :=
  { r with
    filters := r.filters.map fun f => { f with value := g f.value }
    having := r.having.map fun f => { f with value := g f.value } }

theorem gives_reader_object {t : List Char} {d : Draft}
    (h : Gives (members (member depth) {} t) d rest) :
    Gives (reader (depth + 1) ('\x7b' :: t)) d.done rest := by
  have hblank := skipBlanks_cons (c := '\x7b') rfl t
  unfold reader
  split
  · next h' => cases hblank.symm.trans h'
  · next h' =>
    cases hblank.symm.trans h'
    exact (h.mapValue Draft.done).afterFirst h'
  · next _ h' => exact absurd hblank (h' _)

/-- The members of a request set the fields of its draft one after the other. -/
theorem readsMembers_request {r : Request} {g : Json → Json}
    (hlimit : ∀ n ∈ r.limit, n < Word.unsignedEnd)
    (hvalues : ∀ f ∈ r.filters ++ r.having, ∀ rest, Ends rest →
      Gives (value depth (f.value.chars ++ rest)) (g f.value) rest) :
    ∃ ms d, r.toJson = .object ms ∧ d.done = r.mapValues g ∧
      ReadsMembers (member (depth + 2)) {} (charsOfMembers ms) d := by
  have hfilters := gives_filterList fun f hf => hvalues f (List.mem_append_left _ hf)
  have hhaving := gives_filterList fun f hf => hvalues f (List.mem_append_right _ hf)
  have hhead : ReadsMembers (member (depth + 2)) {} (charsOfMembers
      [("metrics", .list (r.metrics.map .text)), ("dimensions", .list (r.dimensions.map .text)),
        ("filters", .list (r.filters.map filterJson))])
      ⟨some r.metrics, some r.dimensions, some (r.mapValues g).filters, none, none, none⟩ :=
    readsMembers_setOnce rfl (fun rest _ => gives_strings r.metrics rest) <|
      readsMembers_setOnce rfl (fun rest _ => gives_strings r.dimensions rest) <|
        readsMembers_setOnce rfl (fun rest _ => hfilters rest) <| .nil _
  have htail (having : Option (List Filter)) : ReadsMembers (member (depth + 2))
      ⟨some r.metrics, some r.dimensions, some (r.mapValues g).filters, having, none, none⟩
      (charsOfMembers [("order_by", .object (r.orderBy.map fun o => (o.column, .text o.direction))),
        ("limit", (r.limit.map Json.ofNat).getD .null)])
      ⟨some r.metrics, some r.dimensions, some (r.mapValues g).filters, having, some r.orderBy,
        some r.limit⟩ :=
    readsMembers_setOnce rfl (fun rest _ => gives_ordering r.orderBy rest) <|
      readsMembers_setOnce rfl (fun rest hrest => gives_count? hlimit hrest) <| .nil _
  -- an empty list of conditions on groups is not written, and reads as one that is missing
  by_cases hempty : r.having.isEmpty
  · refine ⟨_, ⟨some r.metrics, some r.dimensions, some (r.mapValues g).filters, none,
      some r.orderBy, some r.limit⟩, rfl, ?_, ?_⟩
    · rw [List.isEmpty_iff] at hempty
      simp [Draft.done, mapValues, hempty]
    · rw [if_pos hempty, List.append_nil, charsOfMembers, List.map_append]
      exact hhead.append (htail none)
  · refine ⟨_, ⟨some r.metrics, some r.dimensions, some (r.mapValues g).filters,
      some (r.mapValues g).having, some r.orderBy, some r.limit⟩, rfl, rfl, ?_⟩
    rw [if_neg hempty, charsOfMembers, List.map_append, List.map_append]
    refine (hhead.append ?_).append (htail _)
    exact readsMembers_setOnce rfl (fun rest _ => hhaving rest) (.nil _)

/-- A printed request is read back up to what the texts of its values are read as. -/
theorem parse_print_mapValues {r : Request} {g : Json → Json}
    (hlimit : ∀ n ∈ r.limit, n < Word.unsignedEnd)
    (hvalues : ∀ f ∈ r.filters ++ r.having, ∀ rest, Ends rest →
      Gives (value 124 (f.value.chars ++ rest)) (g f.value) rest) :
    parse r.print = .ok (r.mapValues g) := by
  obtain ⟨ms, d, hjson, hdone, hmembers⟩ := readsMembers_request hlimit hvalues
  have hread := gives_reader_object (gives_members hmembers [])
  rw [hdone] at hread
  refine readAll_of_gives ?_
  have htext : r.print.toList =
      '\x7b' :: (commas (memberTexts (charsOfMembers ms)) ++ ['\x7d']) := by
    rw [← chars_object, ← hjson]
    rfl
  rw [htext]
  exact hread

/-! ## Reading back -/

/-- The operands are ones that are read back: they hold no floating-point number and no object that
starts with the mark of embedded texts, and the three containers around an operand leave it 124. -/
def Plain (r : Request) : Prop :=
  ∀ v ∈ r.values, v.FloatFree ∧ v.Unmarked ∧ v.depth ≤ 124

theorem parse_print_of_wellFormed {r : Request} (hr : r.WellFormed) (hplain : r.Plain) :
    parse r.print = .ok r := by
  have hread := parse_print_mapValues (g := id) hr.limit fun f hf rest hrest => by
    have hv : f.value ∈ r.values := List.mem_map_of_mem hf
    obtain ⟨hfloat, hmark, hdepth⟩ := hplain f.value hv
    exact gives_value_chars ⟨hr.values f.value hv, hfloat, hmark, hdepth⟩ hrest
  rw [hread]
  simp [mapValues]

/-- **A request is read back from its text**, and so is every request that was read from any text. -/
theorem parse_print :
    (∀ r : Request, r.WellFormed → r.Plain → parse r.print = .ok r) ∧
      ∀ (s : String) (r : Request), parse s = .ok r → r.Plain → parse r.print = .ok r :=
  ⟨fun _ hr => parse_print_of_wellFormed hr,
    fun _ _ h => parse_print_of_wellFormed (wellFormed_of_parse h)⟩

/-- A request with texts that need escapes, repeated columns and the extreme numbers of 64 bits. -/
def awkward : Request where
  metrics := ["count(\"id\\\")", "\u0001\u00e9"]
  filters := [⟨"", "in", .list [.number (.int (-9223372036854775808)),
    .object [("a", .null), ("b", .text "\n")]]⟩]
  having := [⟨"n", "gt", .number (.int 18446744073709551615)⟩]
  orderBy := [⟨"c", "asc"⟩, ⟨"c", "desc"⟩, ⟨"c", "asc"⟩]
  limit := some 18446744073709551615

theorem awkward_read_back : awkward.WellFormed ∧ awkward.Plain ∧
    parse awkward.print = .ok awkward ∧
    parse "\x7b\x7d" = .ok {} ∧ parse ({} : Request).print = .ok {} := by
  have hsorted : Sorted [("a", .null), ("b", .text "\n")] := by
    unfold Sorted
    decide
  have hwf : awkward.WellFormed := by
    constructor
    · simp [awkward, Word.unsignedEnd]
    · simp [awkward, values, Json.WellFormed, Proper, hsorted, Word.signedEnd, Word.unsignedEnd]
  have hplain : awkward.Plain := by
    simp [awkward, Plain, values, FloatFree, Unmarked, isReal, isMarked, embedMark, depth,
      depthItems, depthMembers]
  have hmembers : ReadsMembers (member 126) {} [] {} := .nil _
  have hread : parse "\x7b\x7d" = .ok {} :=
    readAll_of_gives (gives_reader_object (gives_members hmembers []))
  exact ⟨hwf, hplain, parse_print.1 awkward hwf hplain, hread,
    parse_print.2 _ {} hread (by simp [Plain, values])⟩

/-! ## Embedded texts -/

/-- A request with one condition, on the operand `v`. -/
def asking (v : Json) : Request where
  filters := [⟨"a", "eq", v⟩]

/-- An operand that embeds the text of a value is read as this value, which may be deeper than an
operand that is written out. -/
theorem parse_print_embedded {v : Json} (hv : Faithful maxDepth v) :
    parse (asking (.object [(embedMark, .text v.compact)])).print = .ok (asking v) := by
  have hembedded : (Json.parse v.compact).toOption = some v := by
    rw [parse_compact hv]
    rfl
  have hread := parse_print_mapValues (r := asking (.object [(embedMark, .text v.compact)]))
    (g := fun _ => v) (by simp [asking]) fun f hf rest _ => by
      obtain rfl : f = ⟨"a", "eq", .object [(embedMark, .text v.compact)]⟩ := by
        simpa [asking] using hf
      exact gives_valueIn_marked hembedded rest
  rw [hread]
  simp [mapValues, asking]

/-- What stands under the mark is read in place of the object. -/
theorem embedded_one_not_read_back :
    (asking (.object [(embedMark, .text "1")])).WellFormed ∧
    (∀ v ∈ (asking (.object [(embedMark, .text "1")])).values, v.FloatFree ∧ v.depth ≤ 124) ∧
    parse (asking (.object [(embedMark, .text "1")])).print = .ok (asking (Json.ofNat 1)) ∧
    parse (asking (.object [(embedMark, .text "1")])).print ≠
      .ok (asking (.object [(embedMark, .text "1")])) := by
  have hone : Faithful maxDepth (Json.ofNat 1) := by
    constructor <;> simp [Json.ofNat, Json.WellFormed, FloatFree, Unmarked, Proper, isReal,
      isMarked, Json.depth, Word.signedEnd, Word.unsignedEnd]
  have hcompact : (Json.ofNat 1).compact = "1" := rfl
  have hread := parse_print_embedded hone
  rw [hcompact] at hread
  refine ⟨?_, ?_, hread, ?_⟩
  · constructor <;> simp [asking, values, Json.WellFormed, Proper, Sorted]
  · simp [asking, values, FloatFree, isReal, Json.depth, depthMembers]
  · rw [hread]
    simp [asking, Json.ofNat]

end DataMart.Request
