import DataMart.Proofs.Query.Acceptance
import DataMart.Proofs.Text.Letters
import DataMart.Proofs.Text.Trimming

/-!
# Dimensions with an alias

A dimension is cut at its last ` as `, in any case of the letters, and nothing else in it is looked
at. So an `AS` between parentheses is taken for the one in front of an alias.

* `splitLastAs_eq_some_iff`: where a text is cut, said by `LastAs` without the program.
* `splitAlias?_cases`: a dimension is taken apart there if neither side is blank, and is kept whole
  otherwise.
* `Text.Balanced`: parentheses match. `Balanced.around` says what cutting does to a text of which
  they match: both sides are balanced if the cut lies outside of all parentheses, and else none is.
* `keys_balanced_iff`: the keys, expressions and aliases that are made of balanced dimensions are
  balanced exactly if every cut lies outside of parentheses; `castColumn_cut_in_two` is a request for
  which it does not.
-/

namespace DataMart

/-! ## Balanced texts -/

namespace Text

/-- How many parentheses of a text stay open, fewer than none if more are closed than opened. -/
def openParens (s : List Char) : Int := s.count '(' - s.count ')'

/-- The parentheses of a text match: at no place more are closed than were opened, and in the end
none stays open. -/
structure Balanced (s : List Char) : Prop where
  opened : ∀ n, 0 ≤ openParens (s.take n)
  closed : openParens s = 0

/-- There is no parenthesis in a text. -/
def Plain (s : List Char) : Prop := '(' ∉ s ∧ ')' ∉ s

instance (s : List Char) : Decidable (Balanced s) :=
  decidable_of_iff ((∀ n ≤ s.length, 0 ≤ openParens (s.take n)) ∧ openParens s = 0) <| by
    constructor
    · rintro ⟨hopened, hclosed⟩
      refine ⟨fun n => ?_, hclosed⟩
      by_cases hn : n ≤ s.length
      · exact hopened n hn
      · have hall : s.take n = s := List.take_of_length_le (Nat.le_of_not_le hn)
        exact Int.le_of_eq (by rw [hall, hclosed])
    · exact fun h => ⟨fun n _ => h.opened n, h.closed⟩

variable {s before mark after : List Char}

@[simp] theorem openParens_append (s t : List Char) :
    openParens (s ++ t) = openParens s + openParens t := by
  simp only [openParens, List.count_append]
  omega

theorem Plain.openParens_eq_zero (h : Plain s) : openParens s = 0 := by
  rw [openParens, List.count_eq_zero.2 h.1, List.count_eq_zero.2 h.2]
  rfl

/-- Every start of a text without parentheses is without them. -/
theorem Plain.take (h : Plain s) (n : Nat) : Plain (s.take n) :=
  ⟨fun hmem => h.1 (List.mem_of_mem_take hmem), fun hmem => h.2 (List.mem_of_mem_take hmem)⟩

/-- Blanks are no parentheses. -/
theorem plain_of_blank (h : ∀ c ∈ s, isBlank c = true) : Plain s := by
  constructor
  · intro hmem
    cases h _ hmem
  · intro hmem
    cases h _ hmem

/-- What stands around a text does not matter if it has no parentheses. -/
theorem balanced_surrounded (hbefore : Plain before) (hafter : Plain after) :
    Balanced (before ++ (s ++ after)) ↔ Balanced s := by
  have hwhole : openParens (before ++ (s ++ after)) = openParens s := by
    simp [hbefore.openParens_eq_zero, hafter.openParens_eq_zero]
  have htake : ∀ n, openParens ((before ++ (s ++ after)).take n) =
      openParens (s.take (n - before.length)) := by
    intro n
    simp [List.take_append, (hbefore.take _).openParens_eq_zero,
      (hafter.take _).openParens_eq_zero]
  constructor
  · intro h
    refine ⟨fun n => ?_, hwhole ▸ h.closed⟩
    have hn := h.opened (before.length + n)
    rwa [htake, Nat.add_sub_cancel_left] at hn
  · intro h
    refine ⟨fun n => ?_, hwhole.trans h.closed⟩
    rw [htake]
    exact h.opened _

/-- Trimming takes no parenthesis away. -/
theorem balanced_trimChars (s : List Char) : Balanced (trimChars s) ↔ Balanced s := by
  obtain ⟨front, back, hs, hfront, hback⟩ := exists_trimChars s
  have h := balanced_surrounded (s := trimChars s) (plain_of_blank hfront) (plain_of_blank hback)
  rw [← hs] at h
  exact h.symm

/-- **Cutting a balanced text.** Both sides are balanced if the cut lies outside of all parentheses,
and else none of them is. -/
theorem Balanced.around (h : Balanced (before ++ (mark ++ after))) (hmark : Plain mark) :
    (Balanced before ↔ openParens before = 0) ∧ (Balanced after ↔ openParens before = 0) := by
  have hclosed : openParens before + openParens after = 0 := by
    simpa [hmark.openParens_eq_zero] using h.closed
  constructor
  · refine ⟨fun hbefore => hbefore.closed, fun hlevel => ⟨fun n => ?_, hlevel⟩⟩
    by_cases hn : n ≤ before.length
    · have hopened := h.opened n
      rwa [List.take_append_of_le_length hn] at hopened
    · have hall : before.take n = before := List.take_of_length_le (Nat.le_of_not_le hn)
      exact Int.le_of_eq (by rw [hall, hlevel])
  · constructor
    · intro hafter
      have := hafter.closed
      omega
    · intro hlevel
      refine ⟨fun n => ?_, by omega⟩
      -- a start of the right side is the end of a start of the whole text
      have hopened := h.opened (before.length + (mark.length + n))
      simpa [List.take_length_add_append, hmark.openParens_eq_zero, hlevel] using hopened

end Text

/-! ## Where a dimension is cut -/

namespace Compiler

open Text (Balanced Plain openParens isBlank trimChars isEmpty_trimChars_eq_false_iff
  toLower_eq_iff)

/-- The ways to write ` as `. -/
def asMarks : List (List Char) :=
  [[' ', 'a', 's', ' '], [' ', 'a', 'S', ' '], [' ', 'A', 's', ' '], [' ', 'A', 'S', ' ']]

/-- Some ` as ` stands between two parts of a text. -/
def AsBetween (text before after : List Char) : Prop :=
  ∃ mark ∈ asMarks, text = before ++ (mark ++ after)

/-- The last ` as ` of a text stands between two parts of it. -/
structure LastAs (text before after : List Char) : Prop where
  between : AsBetween text before after
  last : ∀ before' after', AsBetween text before' after' → before'.length ≤ before.length

variable {text before after before' after' : List Char}

/-- A text starts with ` as ` exactly if it is one of its spellings and more. -/
theorem startsWithAs_iff : startsWithAs text = true ↔ ∃ after, AsBetween text [] after := by
  have ha (c : Char) : c.toLower = 'a' ↔ c = 'a' ∨ c = 'A' := toLower_eq_iff (by decide) rfl
  have hs (c : Char) : c.toLower = 's' ↔ c = 's' ∨ c = 'S' := toLower_eq_iff (by decide) rfl
  constructor
  · intro h
    unfold startsWithAs at h
    split at h
    · rename_i a s after
      rw [Bool.and_eq_true, decide_eq_true_iff, decide_eq_true_iff, ha, hs] at h
      obtain ⟨rfl | rfl, rfl | rfl⟩ := h
      · exact ⟨after, [' ', 'a', 's', ' '], by simp [asMarks], rfl⟩
      · exact ⟨after, [' ', 'a', 'S', ' '], by simp [asMarks], rfl⟩
      · exact ⟨after, [' ', 'A', 's', ' '], by simp [asMarks], rfl⟩
      · exact ⟨after, [' ', 'A', 'S', ' '], by simp [asMarks], rfl⟩
    · cases h
  · rintro ⟨after, mark, hmark, rfl⟩
    simp only [asMarks, List.mem_cons, List.not_mem_nil, or_false] at hmark
    rcases hmark with rfl | rfl | rfl | rfl <;> rfl

/-- Every spelling of ` as ` has four characters, and no parenthesis among them. -/
theorem length_and_plain_of_mem_asMarks : ∀ mark ∈ asMarks, mark.length = 4 ∧ Plain mark := by
  simp [asMarks, Plain]

/-- No ` as ` stands in the empty text. -/
theorem not_asBetween_nil : ¬ AsBetween [] before after := by
  rintro ⟨mark, hmark, h⟩
  have hlen := congrArg List.length h
  have hfour := (length_and_plain_of_mem_asMarks mark hmark).1
  simp at hlen
  omega

/-- Behind an ` as ` at its start comes the rest of a text. -/
theorem AsBetween.eq_drop (h : AsBetween text [] after) : after = text.drop 4 := by
  obtain ⟨mark, hmark, rfl⟩ := h
  have hfour := (length_and_plain_of_mem_asMarks mark hmark).1
  rw [List.nil_append, ← hfour, List.drop_left]

/-- An ` as ` of a text stands at its start or in what follows its first character. -/
theorem asBetween_cons {c : Char} {rest : List Char} : AsBetween (c :: rest) before after ↔
    (before = [] ∧ startsWithAs (c :: rest) = true ∧ after = rest.drop 3) ∨
    ∃ before', before = c :: before' ∧ AsBetween rest before' after := by
  constructor
  · intro h
    cases before with
    | nil => exact .inl ⟨rfl, startsWithAs_iff.2 ⟨after, h⟩, h.eq_drop⟩
    | cons b before =>
        obtain ⟨mark, hmark, htext⟩ := h
        obtain ⟨rfl, hrest⟩ := List.cons.inj htext
        exact .inr ⟨before, rfl, mark, hmark, hrest⟩
  · rintro (⟨rfl, hstart, rfl⟩ | ⟨before', rfl, mark, hmark, rfl⟩)
    · obtain ⟨after, h⟩ := startsWithAs_iff.1 hstart
      obtain rfl : after = rest.drop 3 := h.eq_drop
      exact h
    · exact ⟨mark, hmark, rfl⟩

/-- A text is cut around its last ` as `, and not at all if it has none. -/
theorem splitLastAs_spec (text : List Char) :
    match splitLastAs text with
    | none => ∀ before after, ¬ AsBetween text before after
    | some (before, after) => LastAs text before after := by
  induction text with
  | nil => exact fun _ _ => not_asBetween_nil
  | cons c rest ih =>
      unfold splitLastAs
      cases hrest : splitLastAs rest with
      | some parts =>
          obtain ⟨before, after⟩ := parts
          rw [hrest] at ih
          refine ⟨asBetween_cons.2 (.inr ⟨before, rfl, ih.between⟩), ?_⟩
          intro before' after' h
          rcases asBetween_cons.1 h with ⟨rfl, -, -⟩ | ⟨before'', rfl, hbetween⟩
          · exact Nat.zero_le _
          · exact Nat.succ_le_succ (ih.last before'' after' hbetween)
      | none =>
          rw [hrest] at ih
          dsimp only at ih ⊢
          cases hstart : startsWithAs (c :: rest) with
          | true =>
              refine ⟨asBetween_cons.2 (.inl ⟨rfl, hstart, rfl⟩), ?_⟩
              intro before' after' h
              rcases asBetween_cons.1 h with ⟨rfl, -, -⟩ | ⟨before'', rfl, hbetween⟩
              · exact Nat.le_refl _
              · exact absurd hbetween (ih before'' after')
          | false =>
              intro before after h
              rcases asBetween_cons.1 h with ⟨-, htrue, -⟩ | ⟨before', -, h⟩
              · rw [hstart] at htrue
                cases htrue
              · exact ih before' after h

/-- There is one last ` as ` at most. -/
theorem LastAs.unique (h : LastAs text before after) (h' : LastAs text before' after') :
    before = before' ∧ after = after' := by
  have hlen := Nat.le_antisymm (h'.last _ _ h.between) (h.last _ _ h'.between)
  obtain ⟨mark, hmark, htext⟩ := h.between
  obtain ⟨mark', hmark', htext'⟩ := h'.between
  have hfour := (length_and_plain_of_mem_asMarks mark hmark).1
  have hfour' := (length_and_plain_of_mem_asMarks mark' hmark').1
  obtain ⟨hbefore, hbehind⟩ := List.append_inj (htext.symm.trans htext') hlen
  exact ⟨hbefore, (List.append_inj hbehind (hfour.trans hfour'.symm)).2⟩

/-- **Where a text is cut.** -/
theorem splitLastAs_eq_some_iff :
    splitLastAs text = some (before, after) ↔ LastAs text before after := by
  have hspec := splitLastAs_spec text
  cases hcut : splitLastAs text with
  | none =>
      rw [hcut] at hspec
      exact ⟨nofun, fun h => absurd h.between (hspec before after)⟩
  | some parts =>
      rw [hcut] at hspec
      constructor
      · intro h
        obtain rfl := Option.some.inj h
        exact hspec
      · intro h
        obtain ⟨hbefore, hafter⟩ := hspec.unique h
        exact congrArg some (Prod.ext hbefore hafter)

/-! ## Dimensions taken apart -/

/-- Whether a dimension is cut in two: around its last ` as ` there is something on either side. -/
structure CutAt (d : String) (before after : List Char) : Prop where
  last : LastAs d.toList before after
  left : ∃ c ∈ before, isBlank c = false
  right : ∃ c ∈ after, isBlank c = false

/-- A dimension is taken apart where it is cut in two, and kept whole if it is not. -/
theorem splitAlias?_cases (d : String) :
    (∃ before after, CutAt d before after ∧
      splitAlias? d = some (.ofList (trimChars before), .ofList (trimChars after))) ∨
    (∀ before after, ¬ CutAt d before after) ∧ splitAlias? d = none := by
  have hspec := splitLastAs_spec d.toList
  unfold splitAlias?
  cases hcut : splitLastAs d.toList with
  | none =>
      rw [hcut] at hspec
      exact .inr ⟨fun before after h => hspec before after h.last.between, rfl⟩
  | some parts =>
      obtain ⟨before, after⟩ := parts
      rw [hcut] at hspec
      dsimp only
      by_cases hsides : (trimChars before).isEmpty = false ∧ (trimChars after).isEmpty = false
      · refine .inl ⟨before, after, ⟨hspec, ?_, ?_⟩, ?_⟩
        · exact isEmpty_trimChars_eq_false_iff.1 hsides.1
        · exact isEmpty_trimChars_eq_false_iff.1 hsides.2
        · simp [hsides]
      · refine .inr ⟨?_, ?_⟩
        · intro before' after' h
          obtain ⟨rfl, rfl⟩ := h.last.unique hspec
          exact hsides ⟨isEmpty_trimChars_eq_false_iff.2 h.left,
            isEmpty_trimChars_eq_false_iff.2 h.right⟩
        · rw [if_pos]
          rw [Bool.or_eq_true, ← Bool.not_eq_false, ← Bool.not_eq_false]
          exact not_and_or.1 hsides

/-- **The item of a dimension.** It is the dimension itself, or what stands on either side of its
cut. -/
theorem dimensionItem_cases (d : String) :
    (∃ before after, CutAt d before after ∧
      dimensionItem d = .derived (.ofList (trimChars before)) (.ofList (trimChars after))) ∨
    (∀ before after, ¬ CutAt d before after) ∧ dimensionItem d = .column d := by
  unfold dimensionItem
  rcases splitAlias?_cases d with ⟨before, after, hcut, h⟩ | ⟨hwhole, h⟩
  · rw [h]
    exact .inl ⟨before, after, hcut, rfl⟩
  · rw [h]
    exact .inr ⟨hwhole, rfl⟩

/-! ## Balanced dimensions -/

/-- Texts that a tree is made of have matching parentheses: the keys, and the expressions and aliases
of the items. -/
structure BalancedParts (q : Select) : Prop where
  keys : ∀ key ∈ q.groupBy, Balanced key.toList
  items : ∀ expr label, .derived expr label ∈ q.items →
    Balanced expr.toList ∧ Balanced label.toList

/-- The parts of a dimension are balanced if it is cut outside of all parentheses, and only then. -/
theorem balanced_cut_iff {d : String} (hd : Balanced d.toList) (h : CutAt d before after) :
    (Balanced (trimChars before) ↔ openParens before = 0) ∧
    (Balanced (trimChars after) ↔ openParens before = 0) := by
  obtain ⟨mark, hmark, htext⟩ := h.last.between
  rw [htext] at hd
  rw [Text.balanced_trimChars, Text.balanced_trimChars]
  exact hd.around (length_and_plain_of_mem_asMarks mark hmark).2

variable {c : Compiler} {r : Request} {q : Select}

/-- The derived items of a tree come from the dimensions. -/
theorem derived_mem_items_iff (h : c.Aligned r q) {expr label : String} :
    .derived expr label ∈ q.items ↔ ∃ d ∈ r.dimensions, dimensionItem d = .derived expr label := by
  rw [h.items]
  simp

/-- The texts of an item have matching parentheses. -/
def BalancedItem : SelectItem → Prop
  | .derived expr label => Balanced expr.toList ∧ Balanced label.toList
  | item => Balanced item.key.toList

theorem BalancedItem.key {item : SelectItem} (h : BalancedItem item) : Balanced item.key.toList := by
  cases item with
  | metric expr => exact h
  | column name => exact h
  | derived expr label => exact h.2

/-- The item of a balanced dimension is balanced exactly if no parenthesis is open at the cut. -/
theorem balancedItem_dimensionItem_iff {d : String} (hd : Balanced d.toList) :
    BalancedItem (dimensionItem d) ↔
      ∀ before after, CutAt d before after → openParens before = 0 := by
  rcases dimensionItem_cases d with ⟨before, after, hcut, hitem⟩ | ⟨hwhole, hitem⟩
  · obtain ⟨hleft, hright⟩ := balanced_cut_iff hd hcut
    rw [hitem, BalancedItem, String.toList_ofList, String.toList_ofList, hleft, hright]
    constructor
    · rintro ⟨houtside, -⟩ before' after' hcut'
      obtain ⟨rfl, rfl⟩ := hcut.last.unique hcut'.last
      exact houtside
    · intro houtside
      exact ⟨houtside before after hcut, houtside before after hcut⟩
  · rw [hitem]
    constructor
    · intro _ before after hcut
      exact absurd hcut (hwhole before after)
    · intro _
      exact hd

/-- The parts of a tree are balanced if the items of all dimensions are. -/
theorem balancedParts_iff (h : c.Aligned r q) :
    BalancedParts q ↔ ∀ d ∈ r.dimensions, BalancedItem (dimensionItem d) := by
  have hkeys (key : String) :
      key ∈ q.groupBy ↔ ∃ d ∈ r.dimensions, (dimensionItem d).key = key := by
    simp [h.groupBy]
  constructor
  · intro hparts d hmem
    have hkey := hparts.keys _ ((hkeys _).2 ⟨d, hmem, rfl⟩)
    cases hitem : dimensionItem d with
    | metric expr => rwa [hitem] at hkey
    | column name => rwa [hitem] at hkey
    | derived expr label =>
        exact hparts.items expr label ((derived_mem_items_iff h).2 ⟨d, hmem, hitem⟩)
  · intro hdimensions
    constructor
    · intro key hkey
      obtain ⟨d, hmem, rfl⟩ := (hkeys key).1 hkey
      exact (hdimensions d hmem).key
    · intro expr label hexpr
      obtain ⟨d, hmem, hitem⟩ := (derived_mem_items_iff h).1 hexpr
      have hbalanced := hdimensions d hmem
      rwa [hitem] at hbalanced

/-- **Balanced dimensions give balanced parts exactly if none is cut between parentheses.** A
dimension that is not cut in two, for want of an ` as ` or of something on one of its sides, is kept
whole. -/
theorem keys_balanced_iff (h : c.plan r = .ok q) (hd : ∀ d ∈ r.dimensions, Balanced d.toList) :
    (BalancedParts q ↔
      ∀ d ∈ r.dimensions, ∀ before after, CutAt d before after → openParens before = 0) ∧
    ∀ d ∈ r.dimensions, (∀ before after, ¬ CutAt d before after) →
      .column d ∈ q.items ∧ d ∈ q.groupBy := by
  have haligned := (checked_plan c r).good_of_eq_ok h
  constructor
  · rw [balancedParts_iff haligned]
    exact forall₂_congr fun d hmem => balancedItem_dimensionItem_iff (hd d hmem)
  · intro d hmem hwhole
    rcases dimensionItem_cases d with ⟨before, after, hcut, -⟩ | ⟨-, hitem⟩
    · exact absurd hcut (hwhole before after)
    · constructor
      · rw [haligned.items]
        exact List.mem_append_right _ (List.mem_map.2 ⟨d, hmem, hitem⟩)
      · rw [haligned.groupBy, List.map_map]
        exact List.mem_map.2 ⟨d, hmem, by simp [hitem, SelectItem.key]⟩

/-- A request for the sales by a column read as another type. -/
def castColumn : Request where
  dimensions := ["CAST(c AS t)"]

/-- The same under a name of its own, and by store. -/
def namedCast : Request where
  metrics := ["COUNT(*)"]
  dimensions := ["store_name", "CAST(c AS t) as label"]

/-- With an alias behind it the ` AS ` between parentheses does no harm: it is not the last. -/
theorem namedCast_parts_balanced :
    (∀ d ∈ namedCast.dimensions, Balanced d.toList) ∧
    ∃ q, (Compiler.mk "fct_sales" 100).plan namedCast = .ok q ∧
      q.groupBy = ["store_name", "label"] ∧ BalancedParts q := by
  have hd : ∀ d ∈ namedCast.dimensions, Balanced d.toList := by decide +kernel
  refine ⟨hd, _, rfl, by decide +kernel, ?_⟩
  refine (keys_balanced_iff (c := Compiler.mk "fct_sales" 100) rfl hd).1.2 ?_
  intro d hmem before after hcut
  have hlast := splitLastAs_eq_some_iff.2 hcut.last
  rcases List.mem_cons.1 hmem with rfl | hmem
  · have hnone : splitLastAs "store_name".toList = none := by decide +kernel
    rw [hnone] at hlast
    cases hlast
  · obtain rfl := List.mem_singleton.1 hmem
    have hsome : splitLastAs "CAST(c AS t) as label".toList =
        some ("CAST(c AS t)".toList, "label".toList) := by decide +kernel
    obtain ⟨rfl, rfl⟩ := Prod.mk.inj (Option.some.inj (hsome.symm.trans hlast))
    decide +kernel

/-- **An `AS` between parentheses is taken for that of an alias.** A dimension without an alias, with
matching parentheses and without quotes, is taken apart where a parenthesis is open, and the query is
grouped by what is no expression. -/
theorem castColumn_cut_in_two :
    (∀ d ∈ castColumn.dimensions, Balanced d.toList ∧ '\'' ∉ d.toList ∧ '"' ∉ d.toList) ∧
    ∃ q, (Compiler.mk "fct_sales" 100).plan castColumn = .ok q ∧
      q.items = [.derived "CAST(c" "t)"] ∧ q.groupBy = ["t)"] ∧
      q.render.sql = "SELECT CAST(c AS t) FROM fct_sales GROUP BY t) LIMIT 100" ∧
      ¬ Balanced "CAST(c".toList ∧ ¬ Balanced "t)".toList := by
  refine ⟨by decide +kernel, _, rfl, ?_⟩
  decide +kernel

end Compiler

end DataMart
