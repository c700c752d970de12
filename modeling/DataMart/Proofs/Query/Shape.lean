import DataMart.Proofs.Query.Pieces
import DataMart.Proofs.Steps
import DataMart.Query.Plan

/-!
# Requests of one shape

The values of a request reach neither the text of its query nor a fault. Two requests have one shape
(`Request.SameShape`) if they differ in the values of their conditions only, and these are alike: both
null, both another scalar, both objects, or both lists with scalars at the same places.

* `blank` takes the values out of a tree, and `sql_render_blank` says that its text stays the same.
* `map_blank_plan`: requests of one shape have the same tree but for its values, or the same fault.
* `binds_of_plan`: the values of a tree are those of the scalars in its request, in order.
* `compile_of_sameShape` puts these together for compiled requests.
-/

namespace DataMart

open Statement (push bind join clause led)

/-! ## Trees without their values -/

/-- An operand with null in place of each value. -/
def Operand.blank : Operand → Operand
  | .absent => .absent
  | .param _ => .param .null
  | .list vs => .list (vs.map fun _ => .null)

/-- A condition with null in place of each value. -/
def Predicate.blank (p : Predicate) : Predicate := { p with operand := p.operand.blank }

/-- A query with null in place of each value. -/
def Select.blank (q : Select) : Select :=
  { q with filter := q.filter.map Predicate.blank, having := q.having.map Predicate.blank }

namespace Statement

variable {parts parts' : List Statement}

/-- The text of joined statements comes from their texts. -/
theorem sql_led_congr (sep : String) (h : parts.map sql = parts'.map sql) :
    (led sep parts).sql = (led sep parts').sql := by
  induction parts generalizing parts' with
  | nil =>
      cases parts' with
      | nil => rfl
      | cons a' rest' => cases h
  | cons a rest ih =>
      cases parts' with
      | nil => cases h
      | cons a' rest' =>
          obtain ⟨ha, hrest⟩ := List.cons.inj h
          simp only [led, sql_append, ha, ih hrest]

theorem sql_join_congr (sep : String) (h : parts.map sql = parts'.map sql) :
    (join sep parts).sql = (join sep parts').sql := by
  cases parts with
  | nil =>
      cases parts' with
      | nil => rfl
      | cons a' rest' => cases h
  | cons a rest =>
      cases parts' with
      | nil => cases h
      | cons a' rest' =>
          obtain ⟨ha, hrest⟩ := List.cons.inj h
          rw [join_cons, join_cons, sql_append, sql_append, ha, sql_led_congr sep hrest]

theorem sql_clause_congr (keyword sep : String) (h : parts.map sql = parts'.map sql) :
    (clause keyword sep parts).sql = (clause keyword sep parts').sql := by
  cases parts with
  | nil =>
      cases parts' with
      | nil => rfl
      | cons a' rest' => cases h
  | cons a rest =>
      cases parts' with
      | nil => cases h
      | cons a' rest' =>
          rw [clause_of_ne_nil _ _ (List.cons_ne_nil _ _),
            clause_of_ne_nil _ _ (List.cons_ne_nil _ _), sql_append, sql_append,
            sql_join_congr sep h]

end Statement

theorem Operand.sql_render_blank (rhs : Operand) : rhs.blank.render.sql = rhs.render.sql := by
  cases rhs with
  | absent => rfl
  | param v => rfl
  | list vs =>
      have hmarks : ((vs.map fun _ => Value.null).map bind).map Statement.sql =
          (vs.map bind).map Statement.sql := by simp [Function.comp_def]
      simp only [blank, render, Statement.sql_append, Statement.sql_join_congr _ hmarks]

theorem Predicate.sql_render_blank (p : Predicate) : p.blank.render.sql = p.render.sql := by
  simp only [blank, render, Statement.sql_append, Operand.sql_render_blank]

/-- **The text of a query does not depend on its values.** -/
theorem Select.sql_render_blank (q : Select) : q.blank.render.sql = q.render.sql := by
  have hblank (ps : List Predicate) : ((ps.map Predicate.blank).map Predicate.render).map
      Statement.sql = (ps.map Predicate.render).map Statement.sql := by
    simp [Predicate.sql_render_blank]
  simp only [blank, render, Statement.sql_append, Statement.sql_clause_congr _ _ (hblank _)]

/-! ## Values of one shape -/

namespace Json

/-- Whether a value is neither a list nor an object. -/
def isScalar : Json → Bool
  | .list _ => false
  | .object _ => false
  | _ => true

/-- Whether a value is null. -/
def isNull : Json → Bool
  | .null => true
  | _ => false

/-- Two values of conditions are alike. -/
inductive SameShape : Json → Json → Prop
  | null : SameShape .null .null
  | scalar {a b : Json} (ha : a.isScalar = true) (hb : b.isScalar = true)
      (hna : a.isNull = false) (hnb : b.isNull = false) : SameShape a b
  | object (as bs : List (String × Json)) : SameShape (.object as) (.object bs)
  | list {as bs : List Json} (items : List.Forall₂ (fun a b => a.isScalar = b.isScalar) as bs) :
      SameShape (.list as) (.list bs)

/-- The scalars that a value of a condition consists of. -/
def scalars : Json → List Json
  | .list items => items
  | v => [v]

end Json

/-- Exactly the scalars have values. -/
theorem Value.isSome_ofJson? (j : Json) : (ofJson? j).isSome = j.isScalar := by
  rw [ofJson?_isSome]
  cases j <;> rfl

/-- Two conditions differ in their values only, and these are alike. -/
structure Filter.SameShape (f g : Filter) : Prop where
  field : f.field = g.field
  operator : f.operator = g.operator
  value : f.value.SameShape g.value

/-- The scalars that a condition compares with; a null that stands for no operand is none. -/
def Filter.scalars (f : Filter) : List Json :=
  if (CompareOp.ofName? f.operator).any CompareOp.isUnary then [] else f.value.scalars

namespace Request

/-- Two requests differ in the values of their conditions only, and these are alike. -/
structure SameShape (r r' : Request) : Prop where
  metrics : r.metrics = r'.metrics
  dimensions : r.dimensions = r'.dimensions
  filters : List.Forall₂ Filter.SameShape r.filters r'.filters
  having : List.Forall₂ Filter.SameShape r.having r'.having
  orderBy : r.orderBy = r'.orderBy
  limit : r.limit = r'.limit

/-- The scalars that the conditions of a request compare with, those on rows first. -/
def scalars (r : Request) : List Json :=
  r.filters.flatMap Filter.scalars ++ r.having.flatMap Filter.scalars

end Request

namespace Compiler

/-! ## List operands -/

/-- The values of a list operand are those of its items. -/
theorem listValues_eq_some_iff {items : List Json} {vs : List Value} :
    listValues items = some vs ↔ vs.map some = items.map Value.ofJson? := by
  unfold listValues
  induction items generalizing vs with
  | nil => cases vs <;> simp
  | cons a items ih =>
      rw [List.mapM_cons]
      simp only [Option.pure_def, Option.bind_eq_bind, Option.bind_eq_some_iff, Option.some.injEq]
      constructor
      · rintro ⟨v, hv, ws, hws, rfl⟩
        rw [List.map_cons, List.map_cons, hv, ih.1 hws]
      · intro h
        cases vs with
        | nil => cases h
        | cons v ws =>
            obtain ⟨hv, hws⟩ := List.cons.inj h
            exact ⟨v, hv.symm, ws, ih.2 hws, rfl⟩

/-- A list operand has values exactly if all of its items are scalars. -/
theorem isSome_listValues (items : List Json) :
    (listValues items).isSome = items.all Json.isScalar := by
  unfold listValues
  induction items with
  | nil => rfl
  | cons a items ih =>
      rw [List.mapM_cons, List.all_cons, ← ih, ← Value.isSome_ofJson?]
      cases Value.ofJson? a with
      | none => rfl
      | some v => cases items.mapM Value.ofJson? <;> rfl

/-- Lists with scalars at the same places are operands alike: as many values, or none. -/
theorem map_blank_listValues {as bs : List Json}
    (h : List.Forall₂ (fun a b => a.isScalar = b.isScalar) as bs) :
    (listValues as).map (fun vs => vs.map fun _ => Value.null) =
      (listValues bs).map fun vs => vs.map fun _ => Value.null := by
  have hsome : (listValues as).isSome = (listValues bs).isSome := by
    rw [isSome_listValues, isSome_listValues]
    induction h with
    | nil => rfl
    | cons hab _ ih => rw [List.all_cons, List.all_cons, hab, ih]
  cases ha : listValues as with
  | none =>
      cases hb : listValues bs with
      | none => rfl
      | some ws => simp [ha, hb] at hsome
  | some vs =>
      cases hb : listValues bs with
      | none => simp [ha, hb] at hsome
      | some ws =>
          have hvs := congrArg List.length (listValues_eq_some_iff.1 ha)
          have hws := congrArg List.length (listValues_eq_some_iff.1 hb)
          rw [List.length_map, List.length_map] at hvs hws
          simp [hvs, hws, h.length_eq]

/-! ## The same tree but for its values -/

/-- A complaint about an operand names the column only. -/
theorem badOperand_congr {f g : Filter} (h : f.field = g.field) (reason : String) :
    badOperand f reason = badOperand g reason := by
  rw [badOperand, badOperand, h]

/-- A scalar other than null fits the comparisons with one value. -/
theorem map_blank_operand_of_scalar (op : CompareOp) {f : Filter} (hs : f.value.isScalar = true)
    (hn : f.value.isNull = false) : (operand op f).map Operand.blank =
      if op.isUnary then .error (badOperand f "operator takes no value")
      else if op.takesList then .error (badOperand f "operator 'in' needs a list value")
      else .ok (.param .null) := by
  obtain ⟨v, hv⟩ := Option.isSome_iff_exists.1 ((Value.isSome_ofJson? f.value).trans hs)
  unfold operand
  split
  · cases hf : f.value <;> simp_all [Json.isNull, Except.map]
  · split
    · cases hf : f.value <;> simp_all [Json.isScalar, Except.map]
    · rw [hv]
      rfl

/-- A list fits the comparison with a list, unless it is empty or holds containers. -/
theorem map_blank_operand_of_list (op : CompareOp) {f : Filter} {items : List Json}
    (hf : f.value = .list items) : (operand op f).map Operand.blank =
      if op.isUnary then .error (badOperand f "operator takes no value")
      else if op.takesList then
        if items.isEmpty then .error (badOperand f "list value is empty")
        else match (listValues items).map (fun vs => vs.map fun _ => Value.null) with
          | some vs => .ok (.list vs)
          | none => .error (badOperand f "list items must be scalars")
      else .error (badOperand f "operator needs a scalar value") := by
  unfold operand
  rw [hf]
  split
  · rfl
  · split
    · cases items with
      | nil => rfl
      | cons a items =>
          dsimp only
          cases listValues (a :: items) <;> rfl
    · rfl

/-- Operands alike are refused with the same fault, or taken with as many values. -/
theorem map_blank_operand (op : CompareOp) {f g : Filter} (h : f.SameShape g) :
    (operand op f).map Operand.blank = (operand op g).map Operand.blank := by
  have hbad := badOperand_congr h.field
  have hshape := h.value
  generalize hf : f.value = a at hshape
  generalize hg : g.value = b at hshape
  cases hshape with
  | null => simp only [operand, hf, hg, hbad]
  | object as bs => simp only [operand, hf, hg, hbad, Value.ofJson?]
  | scalar ha hb hna hnb =>
      subst hf hg
      rw [map_blank_operand_of_scalar op ha hna, map_blank_operand_of_scalar op hb hnb]
      simp only [hbad]
  | @list as bs items =>
      have hempty : as.isEmpty = bs.isEmpty := by
        cases items <;> rfl
      rw [map_blank_operand_of_list op hf, map_blank_operand_of_list op hg, hempty,
        map_blank_listValues items]
      simp only [hbad]

/-- Conditions alike are refused with the same fault, or agree but for their values. -/
theorem map_blank_predicate {f g : Filter} (h : f.SameShape g) :
    (predicate f).map Predicate.blank = (predicate g).map Predicate.blank := by
  have hoperand (op : CompareOp) := map_blank_operand op h
  unfold predicate
  rw [h.field, h.operator]
  split
  · rfl
  · rename_i op _
    split
    · rfl
    · have hop := hoperand op
      cases hf : operand op f with
      | error e =>
          cases hg : operand op g with
          | error e' => simpa [hf, hg, Except.map] using hop
          | ok rhs => simp [hf, hg, Except.map] at hop
      | ok rhs =>
          cases hg : operand op g with
          | error e' => simp [hf, hg, Except.map] at hop
          | ok rhs' => simpa [hf, hg, Except.map, Predicate.blank] using hop

/-- **Requests of one shape have one tree but for its values, or one fault.** -/
theorem map_blank_plan (c : Compiler) {r r' : Request} (h : r.SameShape r') :
    (c.plan r).map Select.blank = (c.plan r').map Select.blank := by
  have hfilters := map_mapM_congr (h.filters.imp fun _ _ => map_blank_predicate)
  have hhaving := map_mapM_congr (h.having.imp fun _ _ => map_blank_predicate)
  unfold plan
  rw [h.metrics, h.dimensions, h.orderBy, h.limit]
  refine map_bind_congr (f := id) rfl fun _ _ _ => ?_
  split
  · rfl
  · refine map_bind_congr (f := id) rfl fun _ _ _ => ?_
    refine map_bind_congr (f := id) rfl fun _ _ _ => ?_
    refine map_bind_congr hfilters fun filter filter' hfilter => ?_
    refine map_bind_congr hhaving fun having having' hhaving => ?_
    have hempty : having.isEmpty = having'.isEmpty := by
      rw [← List.isEmpty_map (f := Predicate.blank), hhaving, List.isEmpty_map]
    rw [hempty]
    refine map_bind_congr (f := id) rfl fun _ _ _ => ?_
    refine map_bind_congr (f := id) rfl fun orderBy orderBy' horder => ?_
    obtain rfl : orderBy = orderBy' := horder
    exact congrArg Except.ok (by simp only [Select.blank, hfilter, hhaving])

/-! ## The values of a request -/

/-- An operand has the values of the scalars it was made from. -/
theorem values_of_operand {op : CompareOp} {f : Filter} {rhs : Operand}
    (h : operand op f = .ok rhs) : rhs.values.map some =
      (if op.isUnary then [] else f.value.scalars).map Value.ofJson? := by
  unfold operand at h
  split at h
  · rename_i hunary
    rw [if_pos hunary]
    split at h
    · cases h
      rfl
    · cases h
  · rename_i hunary
    rw [if_neg hunary]
    split at h
    · split at h
      · cases h
      · rename_i items _ hf
        split at h
        · rename_i vs hvs
          cases h
          rw [hf]
          exact listValues_eq_some_iff.1 hvs
        · cases h
      · cases h
    · split at h
      · rename_i v hv
        cases h
        have hscalars : f.value.scalars = [f.value] := by
          cases hf : f.value with
          | list items => rw [hf] at hv; cases hv
          | _ => rfl
        rw [hscalars, List.map_singleton, hv]
        rfl
      · cases h

/-- A condition binds the values of its scalars. -/
theorem values_of_predicate {f : Filter} {p : Predicate} (h : predicate f = .ok p) :
    p.operand.values.map some = f.scalars.map Value.ofJson? := by
  unfold predicate at h
  split at h
  · cases h
  · rename_i op hop
    split at h
    · cases h
    · cases hrhs : operand op f with
      | error e => rw [hrhs] at h; cases h
      | ok rhs =>
          rw [hrhs] at h
          cases h
          rw [values_of_operand hrhs, Filter.scalars, hop]
          rfl

/-- Conditions in a row bind the values of their scalars in order. -/
theorem values_of_predicates {fs : List Filter} {ps : List Predicate}
    (h : fs.mapM predicate = .ok ps) : (ps.flatMap fun p => p.operand.values).map some =
      (fs.flatMap Filter.scalars).map Value.ofJson? := by
  have hall := mapM_eq_ok_iff.1 h
  clear h
  induction hall with
  | nil => rfl
  | cons hfp _ ih =>
      simp only [List.flatMap_cons, List.map_append, ih, values_of_predicate hfp]

/-- The conditions of a planned request are those it asks for. -/
theorem conditions_of_plan {c : Compiler} {r : Request} {q : Select} (h : c.plan r = .ok q) :
    r.filters.mapM predicate = .ok q.filter ∧ r.having.mapM predicate = .ok q.having := by
  unfold plan at h
  obtain ⟨_, _, h⟩ := bind_eq_ok h
  split at h
  · cases h
  · obtain ⟨_, _, h⟩ := bind_eq_ok h
    obtain ⟨_, _, h⟩ := bind_eq_ok h
    obtain ⟨filter, hfilter, h⟩ := bind_eq_ok h
    obtain ⟨having, hhaving, h⟩ := bind_eq_ok h
    obtain ⟨_, _, h⟩ := bind_eq_ok h
    obtain ⟨orderBy, _, h⟩ := bind_eq_ok h
    cases h
    exact ⟨hfilter, hhaving⟩

/-- **The values of a statement.** A compiled request binds the values of its scalars in order. -/
theorem params_of_compile {c : Compiler} {r : Request} {s : Statement} (h : c.compile r = .ok s) :
    s.params.map some = r.scalars.map Value.ofJson? := by
  unfold compile at h
  cases hplan : c.plan r with
  | error e => rw [hplan] at h; cases h
  | ok q =>
      rw [hplan] at h
      cases h
      obtain ⟨hfilter, hhaving⟩ := conditions_of_plan hplan
      rw [Select.params_render, Select.conditions, List.flatMap_append, List.map_append,
        values_of_predicates hfilter, values_of_predicates hhaving, Request.scalars,
        List.map_append]

/-! ## Compiled requests of one shape -/

/-- **Values reach neither the text nor the verdict.** Two requests of one shape are refused with the
same fault, or compile to the same text, each with the values of its own scalars in order. -/
theorem compile_of_sameShape (c : Compiler) {r r' : Request} (h : r.SameShape r') :
    (∃ e, c.compile r = .error e ∧ c.compile r' = .error e) ∨
    ∃ s s', c.compile r = .ok s ∧ c.compile r' = .ok s' ∧ s.sql = s'.sql ∧
      s.params.map some = r.scalars.map Value.ofJson? ∧
      s'.params.map some = r'.scalars.map Value.ofJson? := by
  have hplan := c.map_blank_plan h
  cases hr : c.plan r with
  | error e =>
      cases hr' : c.plan r' with
      | ok q' => simp [hr, hr', Except.map] at hplan
      | error e' =>
          obtain rfl : e = e' := by simpa [hr, hr', Except.map] using hplan
          exact .inl ⟨e, by simp [compile, hr, Except.map], by simp [compile, hr', Except.map]⟩
  | ok q =>
      cases hr' : c.plan r' with
      | error e' => simp [hr, hr', Except.map] at hplan
      | ok q' =>
          have hblank : q.blank = q'.blank := by simpa [hr, hr', Except.map] using hplan
          have hs : c.compile r = .ok q.render := by simp [compile, hr, Except.map]
          have hs' : c.compile r' = .ok q'.render := by simp [compile, hr', Except.map]
          have hsql : q.render.sql = q'.render.sql := by
            rw [← q.sql_render_blank, hblank, q'.sql_render_blank]
          exact .inr ⟨_, _, hs, hs', hsql, params_of_compile hs, params_of_compile hs'⟩

/-- A request for the number of sales of a channel, or of none, beyond a sale. -/
def salesBeyond (channel : String) (sale : Json) : Request where
  metrics := ["COUNT(sale_id) AS n"]
  filters := [⟨"channel_name", "in", .list [.text channel, .null]⟩, ⟨"sale_id", "gt", sale⟩,
    ⟨"store_name", "not_null", .null⟩]

/-- A name that looks like a condition, and a text in place of a number, change the values only. -/
theorem salesBeyond_compile_alike :
    (salesBeyond "iFood" (.ofInt 5)).SameShape (salesBeyond "x' OR '1'='1" (.text "?")) ∧
    ∃ s s', (Compiler.mk "fct_sales" 100).compile (salesBeyond "iFood" (.ofInt 5)) = .ok s ∧
      (Compiler.mk "fct_sales" 100).compile (salesBeyond "x' OR '1'='1" (.text "?")) = .ok s' ∧
      s.sql = s'.sql ∧
      s'.params.map some = [some (.text "x' OR '1'='1"), some .null, some (.text "?")] := by
  have hfilters : List.Forall₂ Filter.SameShape (salesBeyond "iFood" (.ofInt 5)).filters
      (salesBeyond "x' OR '1'='1" (.text "?")).filters :=
    .cons ⟨rfl, rfl, .list (.cons rfl (.cons rfl .nil))⟩
      (.cons ⟨rfl, rfl, .scalar rfl rfl rfl rfl⟩ (.cons ⟨rfl, rfl, .null⟩ .nil))
  have h : (salesBeyond "iFood" (.ofInt 5)).SameShape (salesBeyond "x' OR '1'='1" (.text "?")) :=
    ⟨rfl, rfl, hfilters, .nil, rfl, rfl⟩
  refine ⟨h, ?_⟩
  rcases compile_of_sameShape (Compiler.mk "fct_sales" 100) h with
    ⟨e, he, -⟩ | ⟨s, s', hs, hs', hsql, -, hparams⟩
  · cases he
  · exact ⟨s, s', hs, hs', hsql, hparams⟩

end Compiler

end DataMart
