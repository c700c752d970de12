import DataMart.Proofs.Query.Aliases
import DataMart.Proofs.Text.Bytes

/-!
# Dimensions written with an alias

An expression and its alias are written with `AS` between them, in any case of the letters and with
any number of spaces on either side. Such a dimension is taken apart into just these two, whatever
characters they are made of, and a dimension without ` as ` is taken as it is.

* `lastAs_of_asFree`: an ` as ` is the last of a text if none starts behind its first character.
* `Aliased`: a dimension is written as an expression and an alias. `Aliased.dimensionItem_eq`: then
  it is taken apart into them.
* `splitLastAs_places`: the place of the last ` as ` is counted in the bytes of the text in small
  letters. In the text itself the same bytes are whole characters.
* `dimensions_taken_apart`: all of it for the dimensions of a request.
-/

namespace DataMart.Compiler

open Text (LastPlace StandsAt Trimmed isBlank trimChars toLower_eq_iff toLower_eq_iff_of_no_letter)

/-! ## Texts without an ` as ` -/

variable {text before mark after s : List Char}

/-- No ` as ` stands in a text. -/
def AsFree (text : List Char) : Prop := ∀ before after, ¬ AsBetween text before after

/-- The ways to write ` as ` are the texts that become it in small letters. -/
theorem mem_asMarks_iff : mark ∈ asMarks ↔ mark.map Char.toLower = " as ".toList := by
  have hblank (c : Char) : c.toLower = ' ' ↔ c = ' ' := toLower_eq_iff_of_no_letter (by decide)
  have ha (c : Char) : c.toLower = 'a' ↔ c = 'a' ∨ c = 'A' := toLower_eq_iff (by decide) rfl
  have hs (c : Char) : c.toLower = 's' ↔ c = 's' ∨ c = 'S' := toLower_eq_iff (by decide) rfl
  constructor
  · intro h
    simp only [asMarks, List.mem_cons, List.not_mem_nil, or_false] at h
    rcases h with rfl | rfl | rfl | rfl <;> rfl
  · intro h
    obtain ⟨first, a, s, last, rfl⟩ : ∃ first a s last, mark = [first, a, s, last] :=
      List.length_eq_four.1 (by simpa using congrArg List.length h)
    have hletters : [first.toLower, a.toLower, s.toLower, last.toLower] = [' ', 'a', 's', ' '] := h
    simp only [List.cons.injEq, hblank, ha, hs, and_true] at hletters
    obtain ⟨rfl, rfl | rfl, rfl | rfl, rfl⟩ := hletters <;> simp [asMarks]

/-- An ` as ` stands between two parts of a text exactly if it does so in small letters. -/
theorem asBetween_iff : AsBetween text before after ↔
    ∃ mark, text = before ++ (mark ++ after) ∧ mark.map Char.toLower = " as ".toList := by
  simp only [AsBetween, mem_asMarks_iff, and_comm]

/-- Where ` as ` stands in a text in small letters, it stands in the text. -/
theorem exists_asBetween {front back : List Char}
    (h : text.map Char.toLower = front ++ (" as ".toList ++ back)) :
    ∃ before after, before.map Char.toLower = front ∧ AsBetween text before after := by
  obtain ⟨before, behind, rfl, hfront, hbehind⟩ := List.map_eq_append_iff.1 h
  obtain ⟨mark, after, rfl, hmark, -⟩ := List.map_eq_append_iff.1 hbehind
  exact ⟨before, after, hfront, asBetween_iff.2 ⟨mark, rfl, hmark⟩⟩

/-- No ` as ` stands in a text exactly if none does in small letters. -/
theorem asFree_iff : AsFree text ↔ ¬ " as ".toList <:+: text.map Char.toLower := by
  constructor
  · rintro h ⟨front, back, hparts⟩
    rw [List.append_assoc] at hparts
    obtain ⟨before, after, -, hbetween⟩ := exists_asBetween hparts.symm
    exact h before after hbetween
  · rintro h before after hbetween
    obtain ⟨mark, rfl, hmark⟩ := asBetween_iff.1 hbetween
    refine h ⟨before.map Char.toLower, after.map Char.toLower, ?_⟩
    simp [hmark]

/-- A text has no ` as ` if it does not start with one and has none behind its first character. -/
theorem asFree_cons {c : Char} :
    AsFree (c :: text) ↔ startsWithAs (c :: text) = false ∧ AsFree text := by
  constructor
  · intro h
    refine ⟨?_, fun before after hbetween => ?_⟩
    · rw [← Bool.not_eq_true]
      intro hstart
      obtain ⟨after, hbetween⟩ := startsWithAs_iff.1 hstart
      exact h [] after hbetween
    · exact h (c :: before) after (asBetween_cons.2 (.inr ⟨before, rfl, hbetween⟩))
  · rintro ⟨hstart, hfree⟩ before after hbetween
    rcases asBetween_cons.1 hbetween with ⟨-, htrue, -⟩ | ⟨before', -, hbetween'⟩
    · rw [hstart] at htrue
      cases htrue
    · exact hfree before' after hbetween'

/-- A text that starts with ` as ` starts with a space, and goes on with `as `. -/
theorem startsWithAs_cons_iff {c : Char} :
    startsWithAs (c :: text) = true ↔ c = ' ' ∧ "as ".toList <+: text.map Char.toLower := by
  rw [startsWithAs_iff]
  constructor
  · rintro ⟨after, hbetween⟩
    obtain ⟨mark, htext, hmark⟩ := asBetween_iff.1 hbetween
    have hsmall : (c :: text).map Char.toLower = ' ' :: ("as ".toList ++ after.map Char.toLower) := by
      rw [htext, List.nil_append, List.map_append, hmark]
      rfl
    obtain ⟨hc, hrest⟩ := List.cons.inj hsmall
    exact ⟨(toLower_eq_iff_of_no_letter (by decide)).1 hc, _, hrest.symm⟩
  · rintro ⟨rfl, back, hback⟩
    have hsmall : (' ' :: text).map Char.toLower = [] ++ (" as ".toList ++ back) := by
      rw [List.map_cons, ← hback]
      rfl
    obtain ⟨before, after, hnil, hbetween⟩ := exists_asBetween hsmall
    obtain rfl := List.map_eq_nil_iff.1 hnil
    exact ⟨after, hbetween⟩

/-- If no ` as ` starts behind the first character of one, it is the last. -/
theorem lastAs_of_asFree {c : Char} (hmark : c :: mark ∈ asMarks)
    (hfree : AsFree (mark ++ after)) :
    LastAs (before ++ (c :: mark ++ after)) before after := by
  refine ⟨⟨c :: mark, hmark, rfl⟩, ?_⟩
  induction before with
  | nil =>
      intro before' after' hbetween
      rcases asBetween_cons.1 hbetween with ⟨rfl, -, -⟩ | ⟨before'', -, hbehind⟩
      · exact Nat.le_refl _
      · exact absurd hbehind (hfree before'' after')
  | cons b before ih =>
      intro before' after' hbetween
      rcases asBetween_cons.1 hbetween with ⟨rfl, -, -⟩ | ⟨before'', rfl, hbehind⟩
      · exact Nat.zero_le _
      · exact Nat.succ_le_succ (ih before'' after' hbehind)

/-- Letters in front of a text without ` as ` make none. -/
theorem AsFree.behind (hfree : AsFree s) {word : List Char} (hword : ∀ c ∈ word, c ≠ ' ') :
    AsFree (word ++ s) := by
  induction word with
  | nil => exact hfree
  | cons c word ih =>
      obtain ⟨hc, hrest⟩ := List.forall_mem_cons.1 hword
      rw [List.cons_append, asFree_cons]
      refine ⟨?_, ih hrest⟩
      rw [← Bool.not_eq_true, startsWithAs_cons_iff]
      exact fun h => hc h.1

/-- Spaces in front of a text without ` as ` make none, unless `as ` is at its start. -/
theorem asFree_spaces_append (hfree : AsFree s)
    (hstart : ¬ "as ".toList <+: s.map Char.toLower) (n : Nat) :
    AsFree (List.replicate n ' ' ++ s) := by
  induction n with
  | zero => exact hfree
  | succ n ih =>
      rw [List.replicate_succ, List.cons_append, asFree_cons]
      refine ⟨?_, ih⟩
      rw [← Bool.not_eq_true, startsWithAs_cons_iff]
      rintro ⟨-, has⟩
      cases n with
      | zero => exact hstart has
      | succ n =>
          -- behind the first space comes another one, and no letter
          rw [List.replicate_succ, List.cons_append, List.map_cons] at has
          exact absurd (List.cons_prefix_cons.1 has).1 (by decide)

/-! ## Dimensions with an alias -/

/-- ` as ` stands in a text, in any case of its letters. -/
def HasAs (s : String) : Prop := " as ".toList <:+: (Text.fold s).toList

/-- A text starts with `as `, in any case of its letters. -/
def BeginsWithAs (s : String) : Prop := "as ".toList <+: (Text.fold s).toList

instance (s : String) : Decidable (HasAs s) :=
  inferInstanceAs (Decidable (" as ".toList <:+: (Text.fold s).toList))

instance (s : String) : Decidable (BeginsWithAs s) :=
  inferInstanceAs (Decidable ("as ".toList <+: (Text.fold s).toList))

/-- A number of spaces. -/
def spaces (n : Nat) : String := .ofList (List.replicate n ' ')

/-- A dimension is written as an expression, `AS` and an alias, with spaces around the `AS`. The `AS`
is the last: the alias holds no further one. -/
structure Aliased (d expr label : String) : Prop where
  exprTrimmed : Trimmed expr.toList
  labelTrimmed : Trimmed label.toList
  written : ∃ m word n, 0 < m ∧ Text.fold word = "as" ∧ 0 < n ∧
    d = expr ++ spaces m ++ word ++ spaces n ++ label
  inside : ¬ HasAs label
  start : ¬ BeginsWithAs label

variable {d expr label : String}

/-- `AS` between two spaces is a way to write ` as `. -/
theorem spaced_mem_asMarks {word : String} (h : Text.fold word = "as") :
    ' ' :: (word.toList ++ [' ']) ∈ asMarks := by
  rw [mem_asMarks_iff, List.map_cons, List.map_append, ← Text.toList_fold, h]
  rfl

/-- There is no space in an `AS`. -/
theorem ne_space_of_mem {word : String} (h : Text.fold word = "as") : ∀ c ∈ word.toList, c ≠ ' ' := by
  rintro c hc rfl
  have hsmall : ' ' ∈ (Text.fold word).toList := by
    rw [Text.toList_fold]
    exact List.mem_map.2 ⟨' ', hc, rfl⟩
  rw [h] at hsmall
  revert hsmall
  decide

/-- What stands around the last ` as ` of such a dimension: the expression and the alias, each with
the spaces that are left next to it. -/
theorem Aliased.exists_lastAs (h : Aliased d expr label) : ∃ m n,
    LastAs d.toList (expr.toList ++ List.replicate m ' ')
      (List.replicate n ' ' ++ label.toList) := by
  obtain ⟨m, word, n, hm, hword, hn, rfl⟩ := h.written
  obtain ⟨m, rfl⟩ := Nat.exists_eq_add_one_of_ne_zero hm.ne'
  obtain ⟨n, rfl⟩ := Nat.exists_eq_add_one_of_ne_zero hn.ne'
  have htext : (expr ++ spaces (m + 1) ++ word ++ spaces (n + 1) ++ label).toList =
      expr.toList ++ List.replicate m ' ' ++
        (' ' :: (word.toList ++ [' ']) ++ (List.replicate n ' ' ++ label.toList)) := by
    have hleft : (spaces (m + 1)).toList = List.replicate m ' ' ++ [' '] := by
      simp [spaces, List.replicate_succ']
    have hright : (spaces (n + 1)).toList = ' ' :: List.replicate n ' ' := by
      simp [spaces, List.replicate_succ]
    simp [hleft, hright]
  have hfree : AsFree label.toList := by
    rw [asFree_iff, ← Text.toList_fold]
    exact h.inside
  have hstart : ¬ "as ".toList <+: label.toList.map Char.toLower := by
    rw [← Text.toList_fold]
    exact h.start
  -- an ` as ` behind would start with the last space: the letters are no space
  have hbehind : AsFree (word.toList ++ [' '] ++ (List.replicate n ' ' ++ label.toList)) := by
    rw [List.append_assoc, List.singleton_append, ← List.cons_append, ← List.replicate_succ]
    exact (asFree_spaces_append hfree hstart (n + 1)).behind (ne_space_of_mem hword)
  rw [htext]
  exact ⟨m, n, lastAs_of_asFree (spaced_mem_asMarks hword) hbehind⟩

/-- **A dimension with an alias is taken apart into the two it is written from.** -/
theorem Aliased.dimensionItem_eq (h : Aliased d expr label) :
    dimensionItem d = .derived expr label := by
  obtain ⟨m, n, hlast⟩ := h.exists_lastAs
  have hspaces (n : Nat) : ∀ c ∈ List.replicate n ' ', isBlank c = true := by
    intro c hc
    rw [List.eq_of_mem_replicate hc]
    rfl
  have hleft : trimChars (expr.toList ++ List.replicate m ' ') = expr.toList :=
    Text.trimChars_surrounded (List.forall_mem_nil _) (hspaces m) h.exprTrimmed
  have hright : trimChars (List.replicate n ' ' ++ label.toList) = label.toList := by
    have hnil := Text.trimChars_surrounded (hspaces n) (List.forall_mem_nil _) h.labelTrimmed
    rwa [List.append_nil] at hnil
  have hcut : CutAt d (expr.toList ++ List.replicate m ' ')
      (List.replicate n ' ' ++ label.toList) := by
    obtain ⟨c, hc, hexpr⟩ := h.exprTrimmed.exists_not_blank
    obtain ⟨c', hc', hlabel⟩ := h.labelTrimmed.exists_not_blank
    exact ⟨hlast, ⟨c, List.mem_append_left _ hc, hexpr⟩, c', List.mem_append_right _ hc', hlabel⟩
  rcases dimensionItem_cases d with ⟨before, after, hcut', hitem⟩ | ⟨hwhole, -⟩
  · obtain ⟨rfl, rfl⟩ := hcut'.last.unique hlast
    rw [hitem, hleft, hright, String.ofList_toList, String.ofList_toList]
  · exact absurd hcut (hwhole _ _)

/-- A dimension with an alias has something in it. -/
theorem Aliased.nonBlank (h : Aliased d expr label) : Text.NonBlank d := by
  obtain ⟨m, word, n, -, -, -, rfl⟩ := h.written
  obtain ⟨c, hc, hblank⟩ := h.exprTrimmed.exists_not_blank
  refine ⟨c, by simp [hc], ?_⟩
  simpa [isBlank] using hblank

/-- **A dimension without ` as ` is taken as it is.** -/
theorem dimensionItem_of_not_hasAs (h : ¬ HasAs d) : dimensionItem d = .column d := by
  rcases dimensionItem_cases d with ⟨before, after, hcut, -⟩ | ⟨-, hitem⟩
  · rw [HasAs, Text.toList_fold] at h
    exact absurd hcut.last.between (asFree_iff.2 h before after)
  · exact hitem

/-! ## Places counted in bytes -/

/-- The left one of two parts is the start of the text. -/
theorem AsBetween.isPrefix (h : AsBetween text before after) : before <+: text := by
  obtain ⟨mark, -, rfl⟩ := h
  exact List.prefix_append _ _

/-- Every spelling of ` as ` has four bytes. -/
theorem utf8ByteSize_of_mem_asMarks : ∀ mark ∈ asMarks, (String.ofList mark).utf8ByteSize = 4 := by
  decide

/-- The places of ` as ` in a text in small letters are those in the text. -/
theorem standsAt_fold_iff {n : Nat} : StandsAt " as " (Text.fold d) n ↔
    ∃ before after, AsBetween d.toList before after ∧ (String.ofList before).utf8ByteSize = n := by
  rw [Text.standsAt_iff (by decide)]
  constructor
  · rintro ⟨front, back, hparts, rfl⟩
    have hsmall : d.toList.map Char.toLower = front.toList ++ (" as ".toList ++ back.toList) := by
      rw [← Text.toList_fold, hparts, String.toList_append, String.toList_append]
    obtain ⟨before, after, hfront, hbetween⟩ := exists_asBetween hsmall
    refine ⟨before, after, hbetween, ?_⟩
    rw [← Text.utf8ByteSize_fold, Text.fold, String.toList_ofList, hfront, String.ofList_toList]
  · rintro ⟨before, after, hbetween, rfl⟩
    obtain ⟨mark, htext, hmark⟩ := asBetween_iff.1 hbetween
    refine ⟨Text.fold (.ofList before), Text.fold (.ofList after), ?_, Text.utf8ByteSize_fold _⟩
    rw [← String.toList_inj]
    simp [htext, hmark]

/-- **A text is cut at the last place of ` as ` in the bytes of its small letters**, and not at all
if there is none. At this place of the text itself a character starts, and so does one behind the
four bytes from there on. -/
theorem splitLastAs_places (d : String) :
    ((∀ n, ¬ StandsAt " as " (Text.fold d) n) ∧ splitLastAs d.toList = none) ∨
    ∃ left mark right : String, d = left ++ (mark ++ right) ∧
      LastPlace " as " (Text.fold d) left.utf8ByteSize ∧ mark.utf8ByteSize = 4 ∧
      splitLastAs d.toList = some (left.toList, right.toList) := by
  have hspec := splitLastAs_spec d.toList
  cases hcut : splitLastAs d.toList with
  | none =>
      rw [hcut] at hspec
      refine .inl ⟨fun n hn => ?_, rfl⟩
      obtain ⟨before, after, hbetween, -⟩ := standsAt_fold_iff.1 hn
      exact hspec before after hbetween
  | some parts =>
      obtain ⟨before, after⟩ := parts
      rw [hcut] at hspec
      obtain ⟨mark, hmark, htext⟩ := hspec.between
      refine .inr ⟨.ofList before, .ofList mark, .ofList after, ?_, ⟨?_, fun n hn => ?_⟩, ?_, ?_⟩
      · rw [← String.toList_inj]
        simpa using htext
      · exact standsAt_fold_iff.2 ⟨before, after, hspec.between, rfl⟩
      · obtain ⟨before', after', hbetween, rfl⟩ := standsAt_fold_iff.1 hn
        have hlen := hspec.last before' after' hbetween
        exact Text.utf8ByteSize_le_of_prefix
          (List.prefix_of_prefix_length_le hbetween.isPrefix hspec.between.isPrefix hlen)
      · exact utf8ByteSize_of_mem_asMarks mark hmark
      · rw [String.toList_ofList, String.toList_ofList]

/-! ## The dimensions of a request -/

/-- What a tree takes from the dimension at place `i` of its request: an item behind those of the
metrics, its text, and a key. -/
structure TakesAt (q : Select) (r : Request) (i : Nat) (item : SelectItem) (sql key : String) :
    Prop where
  selected : q.items[r.metrics.length + i]? = some item
  written : item.render.sql = sql
  grouped : q.groupBy[i]? = some key

variable {c : Compiler} {r : Request} {q : Select}

/-- From a dimension a tree takes its item, and what this names. -/
theorem Aligned.takesAt (h : c.Aligned r q) {i : Nat} (hd : r.dimensions[i]? = some d) :
    TakesAt q r i (dimensionItem d) (dimensionItem d).render.sql (dimensionItem d).key := by
  refine ⟨?_, rfl, ?_⟩
  · rw [h.items, List.getElem?_append_right (by simp)]
    simp [hd]
  · rw [h.groupBy]
    simp [hd]

/-- **Dimensions are taken apart as they are written.** Every request that is acceptable is planned,
and compiled to the text of its tree. A dimension that is written as an expression and an alias, which
is never refused, is selected as the expression under the alias and grouped by the alias. One without
` as ` is selected and grouped as it is. Whatever a dimension is, the last place of ` as ` in the bytes
of its small letters is one between characters of the dimension itself, and so is that four bytes
further: there it is cut. -/
theorem dimensions_taken_apart (c : Compiler) :
    (∀ r, c.Accepts r → ∃ q, c.plan r = .ok q ∧ c.compile r = .ok q.render ∧
      ∀ i d, r.dimensions[i]? = some d →
        (∀ expr label, Aliased d expr label →
          TakesAt q r i (.derived expr label) (expr ++ " AS " ++ label) label) ∧
        (¬ HasAs d → TakesAt q r i (.column d) d d)) ∧
    (∀ d expr label, Aliased d expr label → Text.NonBlank d) ∧
    ∀ d, ((∀ n, ¬ StandsAt " as " (Text.fold d) n) ∧ splitLastAs d.toList = none) ∨
      ∃ left mark right : String, d = left ++ (mark ++ right) ∧
        LastPlace " as " (Text.fold d) left.utf8ByteSize ∧ mark.utf8ByteSize = 4 ∧
        splitLastAs d.toList = some (left.toList, right.toList) := by
  refine ⟨fun r hr => ?_, fun d expr label h => h.nonBlank, splitLastAs_places⟩
  have hchecked := checked_plan c r
  obtain ⟨q, hq⟩ := hchecked.exists_ok_iff.2 ((allHold_checks_iff c r).2 hr)
  have hcompile : c.compile r = .ok q.render := by
    rw [compile, hq]
    rfl
  refine ⟨q, hq, hcompile, fun i d hd => ?_⟩
  have htakes := (hchecked.good_of_eq_ok hq).takesAt hd
  constructor
  · intro expr label h
    rwa [h.dimensionItem_eq] at htakes
  · intro h
    rwa [dimensionItem_of_not_hasAs h] at htakes

/-- A request for the sales by a price in euros, under a label of its own, and by store. -/
def labelledCast : Request where
  metrics := ["COUNT(*)"]
  dimensions := ["CAST(preço AS INT) as €  aS   câmbio", "store_name"]

/-- Its dimension is cut behind the ` as ` of the expression. -/
theorem labelledCast_taken_apart :
    Aliased "CAST(preço AS INT) as €  aS   câmbio" "CAST(preço AS INT) as €" "câmbio" ∧
    ∃ q, (Compiler.mk "fct_sales" 100).plan labelledCast = .ok q ∧
      TakesAt q labelledCast 0 (.derived "CAST(preço AS INT) as €" "câmbio")
        "CAST(preço AS INT) as € AS câmbio" "câmbio" ∧
      TakesAt q labelledCast 1 (.column "store_name") "store_name" "store_name" := by
  have hwritten :
      Aliased "CAST(preço AS INT) as €  aS   câmbio" "CAST(preço AS INT) as €" "câmbio" :=
    ⟨by decide +kernel, by decide +kernel, ⟨2, "aS", 3, by decide +kernel⟩, by decide +kernel,
      by decide +kernel⟩
  have haccepts : (Compiler.mk "fct_sales" 100).Accepts labelledCast :=
    (allHold_checks_iff _ _).1 ((checked_plan _ _).exists_ok_iff.1 ⟨_, rfl⟩)
  obtain ⟨q, hq, -, hdimensions⟩ :=
    (dimensions_taken_apart (Compiler.mk "fct_sales" 100)).1 _ haccepts
  refine ⟨hwritten, q, hq, ?_, ?_⟩
  · exact (hdimensions 0 _ rfl).1 _ _ hwritten
  · exact (hdimensions 1 _ rfl).2 (by decide +kernel)

end DataMart.Compiler
