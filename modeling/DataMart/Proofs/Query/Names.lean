import DataMart.Proofs.Query.Aliases

/-!
# Names that are not blank

Names and expressions of a request reach the text of its query as they are. Metrics, dimensions and
the fields of conditions are refused if nothing but blanks is in them, and of a dimension that is taken
apart neither side is blank. The columns of an ordering are not looked at.

* `Select.requested`: the texts of a query that come from its request.
* `nonBlank_dimensionItem`: whatever is made of a dimension, nothing of it is blank.
* `requested_nonBlank_iff`: what a compiled query takes over is not blank, the columns of its ordering
  excepted, which are as the request has them; `namelessOrder_compiled` is a request with a blank one.
-/

namespace DataMart

open Text (NonBlank)

instance (s : String) : Decidable (NonBlank s) :=
  decidable_of_iff (Text.isBlankText s = false) (Text.isBlankText_eq_false_iff s)

namespace Select

/-- The texts that a query takes over from a request, those of the ordering apart: the texts of its
items, the columns of its conditions and its grouping keys. -/
def checkedTexts (q : Select) : List String :=
  q.items.flatMap SelectItem.identifiers ++ q.conditions.map Predicate.column ++ q.groupBy

/-- Every text that a query takes over from a request; only the table comes from elsewhere. -/
def requested (q : Select) : List String := q.checkedTexts ++ q.orderBy.map OrderItem.column

/-- What a query takes over as it was given is its table and what comes from the request. -/
theorem perm_identifiers (q : Select) : q.identifiers.Perm (q.table :: q.requested) := by
  simp only [identifiers, requested, checkedTexts, List.append_assoc, List.cons_append]
  exact List.perm_middle

end Select

/-- What an item names is one of its texts. -/
theorem SelectItem.key_mem_identifiers (item : SelectItem) : item.key ∈ item.identifiers := by
  cases item <;> simp [key, identifiers]

/-- What trimming leaves of a text that is not blank is not blank. -/
theorem Text.nonBlank_trimChars {s : List Char} (h : ∃ c ∈ s, isBlank c = false) :
    NonBlank (.ofList (trimChars s)) := by
  obtain ⟨c, hc, hblank⟩ := h
  have hkept := mem_trimChars hc hblank
  exact ⟨c, by simpa using hkept, by simpa [isBlank] using hblank⟩

namespace Compiler

variable {c : Compiler} {r : Request} {q : Select}

/-- **Nothing that is made of a dimension is blank.** -/
theorem nonBlank_dimensionItem {d : String} (hd : NonBlank d) :
    ∀ x ∈ (dimensionItem d).identifiers, NonBlank x := by
  rcases dimensionItem_cases d with ⟨before, after, hcut, hitem⟩ | ⟨-, hitem⟩
  · rw [hitem, SelectItem.identifiers, List.forall_mem_cons, List.forall_mem_singleton]
    exact ⟨Text.nonBlank_trimChars hcut.left, Text.nonBlank_trimChars hcut.right⟩
  · rw [hitem, SelectItem.identifiers, List.forall_mem_singleton]
    exact hd

/-- The columns of sound conditions are not blank. -/
theorem nonBlank_columns {fs : List Filter} {ps : List Predicate}
    (h : List.Forall₂ Filter.Gives fs ps) (hfs : ∀ f ∈ fs, f.Sound) :
    ∀ p ∈ ps, NonBlank p.column := by
  induction h with
  | nil => exact List.forall_mem_nil _
  | cons hfp _ ih =>
      obtain ⟨hf, hfs⟩ := List.forall_mem_cons.1 hfs
      refine List.forall_mem_cons.2 ⟨?_, ih hfs⟩
      rw [hfp.column]
      exact hf.field

/-- An ordering keeps the columns that a request names. -/
theorem map_column_of_gives {os : List OrderBy} {is : List OrderItem}
    (h : List.Forall₂ OrderBy.Gives os is) : is.map OrderItem.column = os.map OrderBy.column := by
  induction h with
  | nil => rfl
  | cons hoi _ ih => rw [List.map_cons, List.map_cons, hoi.column, ih]

/-- What is checked of a query is not blank. -/
theorem nonBlank_checkedTexts (hr : c.Accepts r) (h : c.Aligned r q) :
    ∀ x ∈ q.checkedTexts, NonBlank x := by
  have hitems : ∀ item ∈ q.items, ∀ x ∈ item.identifiers, NonBlank x := by
    rw [h.items, List.forall_mem_append, List.forall_mem_map, List.forall_mem_map]
    constructor
    · intro m hm
      rw [SelectItem.identifiers, List.forall_mem_singleton]
      exact hr.metrics m hm
    · intro d hd
      exact nonBlank_dimensionItem (hr.dimensions d hd)
  rw [Select.checkedTexts, List.forall_mem_append, List.forall_mem_append, List.forall_mem_flatMap,
    List.forall_mem_map, Select.conditions, List.forall_mem_append]
  refine ⟨⟨hitems, nonBlank_columns h.filter hr.filters, nonBlank_columns h.having hr.having⟩, ?_⟩
  rw [h.groupBy, List.map_map, List.forall_mem_map]
  intro d hd
  exact nonBlank_dimensionItem (hr.dimensions d hd) _ (SelectItem.key_mem_identifiers _)

/-- **Which names are not blank.** Nothing that a compiled query takes over from its request is blank
exactly if no column of the ordering is; whatever these are, the other texts are not blank. -/
theorem requested_nonBlank_iff {s : Statement} (h : c.compile r = .ok s) :
    ∃ q, c.plan r = .ok q ∧ s = q.render ∧ q.identifiers.Perm (c.table :: q.requested) ∧
      (∀ x ∈ q.checkedTexts, NonBlank x) ∧
      ((∀ x ∈ q.requested, NonBlank x) ↔ ∀ o ∈ r.orderBy, NonBlank o.column) := by
  unfold compile at h
  cases hplan : c.plan r with
  | error e =>
      rw [hplan] at h
      cases h
  | ok q =>
      rw [hplan] at h
      have haligned := (checked_plan c r).good_of_eq_ok hplan
      have haccepts := (allHold_checks_iff c r).1 ((checked_plan c r).exists_ok_iff.1 ⟨q, hplan⟩)
      have hchecked := nonBlank_checkedTexts haccepts haligned
      refine ⟨q, rfl, (Except.ok.inj h).symm, haligned.table ▸ q.perm_identifiers, hchecked, ?_⟩
      rw [Select.requested, List.forall_mem_append, map_column_of_gives haligned.orderBy,
        List.forall_mem_map]
      exact and_iff_right hchecked

/-- A request for the number of sales of each store, the greatest first. -/
def storeRanking : Request where
  metrics := ["COUNT(*) AS n"]
  dimensions := ["UPPER(store_name) as store"]
  filters := [⟨"channel_name", "not_null", .null⟩]
  orderBy := [⟨"n", "desc"⟩]

/-- No name in it is blank. -/
theorem storeRanking_names :
    ∃ q, (Compiler.mk "fct_sales" 100).plan storeRanking = .ok q ∧
      q.requested =
        ["COUNT(*) AS n", "UPPER(store_name)", "store", "channel_name", "store", "n"] ∧
      ∀ x ∈ q.requested, NonBlank x := by
  obtain ⟨q, hplan, -, -, -, hiff⟩ :=
    requested_nonBlank_iff (c := Compiler.mk "fct_sales" 100) (r := storeRanking) rfl
  have horder : ∀ o ∈ storeRanking.orderBy, NonBlank o.column := by decide
  refine ⟨q, hplan, ?_, hiff.2 horder⟩
  obtain rfl := Except.ok.inj hplan
  decide +kernel

/-- A request that is ordered by a column without a name. -/
def namelessOrder : Request where
  metrics := ["COUNT(*) AS n"]
  orderBy := [⟨"", "asc"⟩]

/-- **A blank column of an ordering reaches the text of the query.** -/
theorem namelessOrder_compiled :
    ∃ q, (Compiler.mk "fct_sales" 100).plan namelessOrder = .ok q ∧
      (Compiler.mk "fct_sales" 100).compile namelessOrder = .ok q.render ∧
      q.render.sql = "SELECT COUNT(*) AS n FROM fct_sales ORDER BY  ASC LIMIT 100" ∧
      ¬ ∀ x ∈ q.requested, NonBlank x := by
  refine ⟨_, rfl, rfl, ?_⟩
  decide +kernel

end Compiler

end DataMart
