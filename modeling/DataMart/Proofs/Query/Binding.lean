import DataMart.Proofs.Query.Pieces
import DataMart.Query.Plan
import Mathlib.Algebra.BigOperators.Group.List.Basic
import Mathlib.Algebra.GroupWithZero.Nat

/-!
# Placeholders and values

The text of a query has a question mark for each value it binds, and one for each question mark in a
name or expression that it takes over as given. Where there are none of the latter, text and values
are aligned: up to any place of the text, as many placeholders stand there as values are bound.

* `Select.before` is what stands in front of a condition, `Predicate.upTo` what stands in front of a
  value inside it.
* `placeholders_render` counts the question marks of a whole query, `placeholders_before` those in
  front of a condition.
* `render_aligned`: every query is aligned (`Select.Aligned`), and so is every compiled request.
-/

namespace DataMart

open Statement (push bind join clause ended led)

/-- How many question marks stand in a text. -/
def questionMarks (text : String) : Nat := text.toList.count '?'

theorem questionMarks_append (a b : String) :
    questionMarks (a ++ b) = questionMarks a + questionMarks b := by
  simp [questionMarks, String.toList_append]

/-- A number is written without question marks. -/
@[simp] theorem questionMarks_toString (n : Nat) : questionMarks (toString n) = 0 := by
  rw [questionMarks, List.count_eq_zero, Nat.toString_eq_ofList_toDigits, String.toList_ofList]
  intro h
  have hdigit := Nat.isDigit_of_mem_toDigits (by decide) (by decide) h
  exact absurd hdigit (by decide)

theorem questionMarks_eq_zero_iff (text : String) : questionMarks text = 0 ↔ '?' ∉ text.toList :=
  List.count_eq_zero

namespace Statement

@[simp] theorem placeholders_empty : ({} : Statement).placeholders = 0 := rfl

@[simp] theorem placeholders_push (text : String) :
    (push text).placeholders = questionMarks text := rfl

@[simp] theorem placeholders_bind (v : Value) : (bind v).placeholders = 1 := by
  simp [placeholders]

@[simp] theorem placeholders_append (a b : Statement) :
    (a ++ b).placeholders = a.placeholders + b.placeholders :=
  questionMarks_append a.sql b.sql

theorem placeholders_led {sep : String} (hsep : questionMarks sep = 0) (parts : List Statement) :
    (led sep parts).placeholders = (parts.map placeholders).sum := by
  induction parts with
  | nil => rfl
  | cons a rest ih => simp [led, hsep, ih]

theorem placeholders_ended {sep : String} (hsep : questionMarks sep = 0)
    (parts : List Statement) : (ended sep parts).placeholders = (parts.map placeholders).sum := by
  induction parts with
  | nil => rfl
  | cons a rest ih => simp [ended, hsep, ih]

theorem placeholders_join {sep : String} (hsep : questionMarks sep = 0) (parts : List Statement) :
    (join sep parts).placeholders = (parts.map placeholders).sum := by
  cases parts with
  | nil => rfl
  | cons a rest => simp [join_cons, placeholders_led hsep]

theorem placeholders_clause {keyword sep : String} (hkeyword : questionMarks keyword = 0)
    (hsep : questionMarks sep = 0) (parts : List Statement) :
    (clause keyword sep parts).placeholders = (parts.map placeholders).sum := by
  cases parts with
  | nil => rfl
  | cons a rest => simp [clause_of_ne_nil, hkeyword, placeholders_join hsep]

end Statement

open Statement (placeholders placeholders_join placeholders_ended placeholders_clause)

/-! ## The question marks of each part -/

@[simp] theorem CompareOp.questionMarks_symbol (op : CompareOp) : questionMarks op.symbol = 0 := by
  cases op <;> rfl

@[simp] theorem SortOrder.questionMarks_sql (order : SortOrder) : questionMarks order.sql = 0 := by
  cases order <;> rfl

/-- An operand has a placeholder for each of its values. -/
theorem Operand.placeholders_render (rhs : Operand) :
    rhs.render.placeholders = rhs.values.length := by
  cases rhs with
  | absent => rfl
  | param v =>
      have hblank : questionMarks " " = 0 := rfl
      simp [Operand.render, Operand.values, hblank]
  | list vs =>
      have hopen : questionMarks " (" = 0 := rfl
      have hclose : questionMarks ")" = 0 := rfl
      have hones : ((vs.map bind).map placeholders).sum = vs.length := by
        simp [Function.comp_def]
      simp (disch := decide) only [Operand.render, Operand.values, Statement.placeholders_append,
        Statement.placeholders_push, placeholders_join, hopen, hclose, hones]
      omega

/-- Beside them a condition has the question marks of its column. -/
theorem Predicate.placeholders_render (p : Predicate) :
    p.render.placeholders = questionMarks p.column + p.operand.values.length := by
  have hblank : questionMarks " " = 0 := rfl
  simp [Predicate.render, Operand.placeholders_render, questionMarks_append, hblank]

theorem SelectItem.placeholders_render (item : SelectItem) :
    item.render.placeholders = (item.identifiers.map questionMarks).sum := by
  have has : questionMarks " AS " = 0 := rfl
  cases item <;> simp [SelectItem.render, SelectItem.identifiers, questionMarks_append, has]

theorem OrderItem.placeholders_render (o : OrderItem) :
    o.render.placeholders = questionMarks o.column := by
  have hblank : questionMarks " " = 0 := rfl
  simp [OrderItem.render, questionMarks_append, hblank]

/-- Conditions in a row have the placeholders of their values and the question marks of their
columns. -/
theorem sum_placeholders_conditions (ps : List Predicate) :
    ((ps.map Predicate.render).map placeholders).sum =
      ((ps.map Predicate.column).map questionMarks).sum +
        (ps.flatMap fun p => p.operand.values).length := by
  induction ps with
  | nil => rfl
  | cons p ps ih => simp [Predicate.placeholders_render] at ih ⊢; omega

theorem sum_placeholders_items (items : List SelectItem) :
    ((items.map SelectItem.render).map placeholders).sum =
      ((items.flatMap SelectItem.identifiers).map questionMarks).sum := by
  induction items with
  | nil => rfl
  | cons item items ih => simp [SelectItem.placeholders_render] at ih ⊢; omega

namespace Select

variable (q : Select)

/-! ## The question marks of a query -/

/-- **The question marks of a query.** One for each value, and those of the texts it takes over. -/
theorem placeholders_render :
    q.render.placeholders = q.render.params.length + (q.identifiers.map questionMarks).sum := by
  have hselect : questionMarks "SELECT " = 0 := rfl
  have hfrom : questionMarks " FROM " = 0 := rfl
  have hlimit : questionMarks " LIMIT " = 0 := rfl
  have hkeys : (q.groupBy.map push).map placeholders = q.groupBy.map questionMarks := by simp
  have horder : (q.orderBy.map OrderItem.render).map placeholders =
      (q.orderBy.map OrderItem.column).map questionMarks := by
    simp [OrderItem.placeholders_render]
  rw [params_render]
  simp (disch := decide) only [render, identifiers, conditions, Statement.placeholders_append,
    Statement.placeholders_push, questionMarks_append, questionMarks_toString,
    placeholders_join, placeholders_clause, sum_placeholders_items, sum_placeholders_conditions,
    hkeys, horder, hselect, hfrom, hlimit, List.map_append, List.map_cons, List.sum_append,
    List.sum_cons, List.flatMap_append, List.length_append]
  omega

end Select

/-! ## Places in the text -/

/-- What stands in an operand in front of its `j`-th value. -/
def Operand.upTo (j : Nat) : Operand → Statement
  | .absent => {}
  | .param _ => push " "
  | .list vs => push " (" ++ ended ", " ((vs.take j).map bind)

/-- What stands in a condition in front of its `j`-th value. -/
def Predicate.upTo (j : Nat) (p : Predicate) : Statement :=
  push (p.column ++ " " ++ p.op.symbol) ++ p.operand.upTo j

/-- A query up to its table, which is all that stands in front of its conditions on rows. -/
def Select.opening (q : Select) : Statement :=
  push "SELECT " ++ join ", " (q.items.map SelectItem.render) ++ push (" FROM " ++ q.table)

/-- What stands in a query in front of its `i`-th condition. -/
def Select.before (i : Nat) (q : Select) : Statement :=
  if i < q.filter.length then
    q.opening ++ push " WHERE " ++ ended " AND " ((q.filter.take i).map Predicate.render)
  else
    q.opening ++ clause " WHERE " " AND " (q.filter.map Predicate.render) ++
      clause " GROUP BY " ", " (q.groupBy.map push) ++ push " HAVING " ++
      ended " AND " ((q.having.take (i - q.filter.length)).map Predicate.render)

/-- The values that the first `i` conditions of a query bind. -/
def Select.boundBefore (i : Nat) (q : Select) : List Value :=
  (q.conditions.take i).flatMap fun p => p.operand.values

/-- No text that a query takes over holds a question mark. -/
def Select.Unmarked (q : Select) : Prop := ∀ x ∈ q.identifiers, '?' ∉ x.toList

instance (q : Select) : Decidable q.Unmarked :=
  inferInstanceAs (Decidable (∀ x ∈ q.identifiers, '?' ∉ x.toList))

/-- A list around one of its members. -/
theorem eq_take_append_cons {α : Type} {xs : List α} {i : Nat} {x : α} (h : xs[i]? = some x) :
    xs = xs.take i ++ x :: xs.drop (i + 1) := by
  obtain ⟨hi, rfl⟩ := List.getElem?_eq_some_iff.1 h
  rw [List.getElem_cons_drop, List.take_append_drop]

theorem sum_questionMarks_eq_zero_iff (texts : List String) :
    (texts.map questionMarks).sum = 0 ↔ ∀ x ∈ texts, '?' ∉ x.toList := by
  induction texts with
  | nil => simp
  | cons x texts ih => simp [questionMarks_eq_zero_iff, ih]

/-- A value of an operand stands behind what is in front of it. -/
theorem Operand.render_eq_upTo {rhs : Operand} {j : Nat} {v : Value} (h : rhs.values[j]? = some v) :
    ∃ rest, rhs.render = rhs.upTo j ++ bind v ++ rest := by
  cases rhs with
  | absent => simp [values] at h
  | param w =>
      obtain ⟨rfl, rfl⟩ : j = 0 ∧ w = v := by simpa [values, List.getElem?_singleton] using h
      exact ⟨{}, by simp [render, upTo]⟩
  | list vs =>
      rw [values] at h
      refine ⟨led ", " ((vs.drop (j + 1)).map bind) ++ push ")", ?_⟩
      rw [render]
      conv_lhs => rw [eq_take_append_cons h]
      simp only [List.map_append, List.map_cons, Statement.join_append_cons, upTo,
        Statement.append_assoc]

/-- In front of a value stands a placeholder for each value before it. -/
theorem Operand.placeholders_upTo {rhs : Operand} {j : Nat} {v : Value}
    (h : rhs.values[j]? = some v) : (rhs.upTo j).placeholders = j := by
  cases rhs with
  | absent => simp [values] at h
  | param w =>
      obtain ⟨rfl, -⟩ : j = 0 ∧ w = v := by simpa [values, List.getElem?_singleton] using h
      exact (questionMarks_eq_zero_iff " ").2 (by decide)
  | list vs =>
      have hj : j < vs.length := (List.getElem?_eq_some_iff.1 h).1
      have hopen : questionMarks " (" = 0 := rfl
      simp (disch := decide) only [upTo, Statement.placeholders_append,
        Statement.placeholders_push, placeholders_ended, hopen]
      simp [Function.comp_def, Nat.min_eq_left (Nat.le_of_lt hj)]

namespace Select

variable {q : Select} {i j : Nat} {p : Predicate} {v : Value}

/-- A condition stands behind what is in front of it. -/
theorem render_eq_before (h : q.conditions[i]? = some p) :
    ∃ rest, q.render = q.before i ++ p.render ++ rest := by
  by_cases hi : i < q.filter.length
  · have hp : q.filter[i]? = some p := by rwa [conditions, List.getElem?_append_left hi] at h
    have hne : q.filter.map Predicate.render ≠ [] := by
      simpa using List.length_pos_iff.1 (Nat.zero_lt_of_lt hi)
    have hcut := congrArg (List.map Predicate.render) (eq_take_append_cons hp)
    rw [List.map_append, List.map_cons] at hcut
    rw [before, if_pos hi, render, ← opening, Statement.clause_of_ne_nil _ _ hne, hcut,
      Statement.join_append_cons]
    simp only [Statement.append_assoc]
    exact ⟨_, rfl⟩
  · have hp : q.having[i - q.filter.length]? = some p := by
      rwa [conditions, List.getElem?_append_right (Nat.not_lt.1 hi)] at h
    have hne : q.having.map Predicate.render ≠ [] := by
      have hlt := (List.getElem?_eq_some_iff.1 hp).1
      simpa using List.length_pos_iff.1 (Nat.zero_lt_of_lt hlt)
    have hcut := congrArg (List.map Predicate.render) (eq_take_append_cons hp)
    rw [List.map_append, List.map_cons] at hcut
    rw [before, if_neg hi, render, ← opening, Statement.clause_of_ne_nil " HAVING " _ hne, hcut,
      Statement.join_append_cons]
    simp only [Statement.append_assoc]
    exact ⟨_, rfl⟩

/-- Unmarked conditions in a row have a placeholder for each of their values and no question mark
beside them. -/
theorem sum_placeholders_of_unmarked (h : q.Unmarked) {ps : List Predicate}
    (hps : ps ⊆ q.conditions) : ((ps.map Predicate.render).map placeholders).sum =
      (ps.flatMap fun p => p.operand.values).length := by
  have hnone : ((ps.map Predicate.column).map questionMarks).sum = 0 := by
    refine (sum_questionMarks_eq_zero_iff _).2 fun x hx => h x ?_
    obtain ⟨p, hp, rfl⟩ := List.mem_map.1 hx
    simp only [identifiers, List.mem_append, List.mem_cons, List.mem_map]
    exact .inl (.inl (.inr (.inr ⟨p, hps hp, rfl⟩)))
  rw [sum_placeholders_conditions, hnone, Nat.zero_add]

/-- An unmarked query has no question mark up to its table. -/
theorem placeholders_opening (h : q.Unmarked) : q.opening.placeholders = 0 := by
  have hselect : questionMarks "SELECT " = 0 := rfl
  have hfrom : questionMarks " FROM " = 0 := rfl
  have hitems : ((q.items.flatMap SelectItem.identifiers).map questionMarks).sum = 0 := by
    refine (sum_questionMarks_eq_zero_iff _).2 fun x hx => h x ?_
    simp only [identifiers, List.mem_append]
    exact .inl (.inl (.inl hx))
  have htable : questionMarks q.table = 0 :=
    (questionMarks_eq_zero_iff _).2 (h _ (by simp [identifiers]))
  simp (disch := decide) only [opening, Statement.placeholders_append,
    Statement.placeholders_push, questionMarks_append, placeholders_join, sum_placeholders_items,
    hselect, hfrom, hitems, htable]

/-- An unmarked query has no question mark in its grouping keys. -/
theorem sum_placeholders_keys (h : q.Unmarked) :
    ((q.groupBy.map push).map placeholders).sum = 0 := by
  have hkeys : (q.groupBy.map questionMarks).sum = 0 := by
    refine (sum_questionMarks_eq_zero_iff _).2 fun x hx => h x ?_
    simp only [identifiers, List.mem_append]
    exact .inl (.inr hx)
  simpa [Function.comp_def] using hkeys

/-- **The question marks in front of a condition.** In an unmarked query there is one for each value
that the conditions before it bind. -/
theorem placeholders_before (h : q.Unmarked) (i : Nat) :
    (q.before i).placeholders = (q.boundBefore i).length := by
  have hwhere : questionMarks " WHERE " = 0 := rfl
  have hhaving : questionMarks " HAVING " = 0 := rfl
  unfold before boundBefore conditions
  by_cases hi : i < q.filter.length
  · have htake : q.filter.take i ⊆ q.conditions := fun p hp =>
      List.mem_append_left _ (List.mem_of_mem_take hp)
    rw [if_pos hi, List.take_append_of_le_length (Nat.le_of_lt hi)]
    simp (disch := decide) only [Statement.placeholders_append, Statement.placeholders_push,
      placeholders_ended, placeholders_opening h, sum_placeholders_of_unmarked h htake, hwhere]
    omega
  · have hfilter : q.filter ⊆ q.conditions := List.subset_append_left _ _
    have htake : q.having.take (i - q.filter.length) ⊆ q.conditions := fun p hp =>
      List.mem_append_right _ (List.mem_of_mem_take hp)
    rw [if_neg hi, List.take_append, List.take_of_length_le (Nat.not_lt.1 hi)]
    simp (disch := decide) only [Statement.placeholders_append, Statement.placeholders_push,
      placeholders_ended, placeholders_clause, placeholders_opening h, sum_placeholders_keys h,
      sum_placeholders_of_unmarked h hfilter, sum_placeholders_of_unmarked h htake, hhaving,
      List.flatMap_append, List.length_append]
    omega

/-- In front of a value of an unmarked query stands a question mark for each value before it. -/
theorem placeholders_upTo (h : q.Unmarked) (hp : q.conditions[i]? = some p)
    (hv : p.operand.values[j]? = some v) :
    (q.before i ++ p.upTo j).placeholders = (q.boundBefore i).length + j := by
  have hcolumn : questionMarks p.column = 0 := by
    refine (questionMarks_eq_zero_iff _).2 (h _ ?_)
    simp only [identifiers, List.mem_append, List.mem_cons, List.mem_map]
    exact .inl (.inl (.inr (.inr ⟨p, List.mem_of_getElem? hp, rfl⟩)))
  have hblank : questionMarks " " = 0 := rfl
  simp only [Predicate.upTo, Statement.placeholders_append, Statement.placeholders_push,
    questionMarks_append, CompareOp.questionMarks_symbol, placeholders_before h,
    Operand.placeholders_upTo hv, hcolumn, hblank]
  omega

/-- The values of the conditions before, and then those of the condition, are bound first. -/
theorem getElem?_params_render (hp : q.conditions[i]? = some p)
    (hv : p.operand.values[j]? = some v) :
    q.render.params[(q.boundBefore i).length + j]? = some v := by
  have hcut := congrArg (List.flatMap fun p => p.operand.values) (eq_take_append_cons hp)
  rw [List.flatMap_append, List.flatMap_cons] at hcut
  have hj : j < p.operand.values.length := (List.getElem?_eq_some_iff.1 hv).1
  rw [params_render, hcut, boundBefore, List.getElem?_append_right (Nat.le_add_right _ _),
    Nat.add_sub_cancel_left, List.getElem?_append_left hj, hv]

/-! ## Alignment -/

/-- Text and values of a statement belong together as a query has them. -/
structure Aligned (q : Select) (s : Statement) : Prop where
  /-- The values are those of the conditions on rows and then those of the conditions on groups. -/
  params : s.params =
    (q.filter.flatMap fun p => p.operand.values) ++ q.having.flatMap fun p => p.operand.values
  /-- There is a question mark for each value, beside those in the texts taken over. -/
  placeholders : s.placeholders = s.params.length + (q.identifiers.map questionMarks).sum
  /-- The numbers agree exactly if no text taken over holds a question mark. -/
  exact_iff : s.placeholders = s.params.length ↔ q.Unmarked
  /-- In front of each condition stand as many question marks as the conditions before it bind
  values. -/
  condition : q.Unmarked → ∀ i p, q.conditions[i]? = some p →
    (∃ rest, s = q.before i ++ p.render ++ rest) ∧
      (q.before i).placeholders = (q.boundBefore i).length
  /-- The placeholder written for a value has the place in the text that the value has among all
  values. -/
  value : q.Unmarked → ∀ (i : Nat) (p : Predicate) (j : Nat) (v : Value),
    q.conditions[i]? = some p → p.operand.values[j]? = some v →
      (∃ rest, s = q.before i ++ p.upTo j ++ Statement.bind v ++ rest) ∧
        (q.before i ++ p.upTo j).placeholders = (q.boundBefore i).length + j ∧
        s.params[(q.boundBefore i).length + j]? = some v

/-- A query is aligned with its text. -/
theorem aligned_render (q : Select) : q.Aligned q.render where
  params := by rw [params_render, conditions, List.flatMap_append]
  placeholders := q.placeholders_render
  exact_iff := by
    rw [q.placeholders_render, Unmarked, ← sum_questionMarks_eq_zero_iff]
    omega
  condition h i p hp := ⟨render_eq_before hp, placeholders_before h i⟩
  value h i p j v hp hv := by
    refine ⟨?_, placeholders_upTo h hp hv, getElem?_params_render hp hv⟩
    obtain ⟨rest, hq⟩ := render_eq_before hp
    obtain ⟨rest', hrhs⟩ := Operand.render_eq_upTo hv
    refine ⟨rest' ++ rest, ?_⟩
    rw [hq, Predicate.render, Predicate.upTo, hrhs]
    simp only [Statement.append_assoc]

/-- **Text and values are aligned.** Every query binds the values of its conditions in order, and its
text has a placeholder for each of them, in the same order, beside the question marks of the texts it
takes over. The same holds of every request that compiles. -/
theorem render_aligned :
    (∀ q : Select, q.Aligned q.render) ∧
    ∀ (c : Compiler) (r : Request) (s : Statement), c.compile r = .ok s →
      ∃ q, c.plan r = .ok q ∧ q.Aligned s := by
  refine ⟨aligned_render, ?_⟩
  intro c r s h
  cases hplan : c.plan r with
  | error e => simp [Compiler.compile, hplan, Except.map] at h
  | ok q =>
      simp only [Compiler.compile, hplan, Except.map, Except.ok.injEq] at h
      exact ⟨q, rfl, h ▸ aligned_render q⟩

/-- Sales of two channels by month, of months with more than five. -/
def channelMonths : Request where
  metrics := ["COUNT(sale_id) AS n"]
  dimensions := ["mes_ano"]
  filters := [⟨"channel_name", "in", .list [.text "iFood", .text "Rappi"]⟩,
    ⟨"store_name", "not_null", .null⟩]
  having := [⟨"n", "gt", .ofInt 5⟩]

/-- The query of that request to the table of sales. -/
def channelMonthsPlan : Select where
  items := [.metric "COUNT(sale_id) AS n", .column "mes_ano"]
  table := "fct_sales"
  filter := [⟨"channel_name", .isIn, .list [.text "iFood", .text "Rappi"]⟩,
    ⟨"store_name", .notNull, .absent⟩]
  groupBy := ["mes_ano"]
  having := [⟨"n", .gt, .param (.int 5)⟩]
  orderBy := []
  limit := 100

/-- The request compiles, and its three values have three question marks. -/
theorem channelMonths_aligned :
    (Compiler.mk "fct_sales" 100).compile channelMonths = .ok channelMonthsPlan.render ∧
    channelMonthsPlan.render.params = [.text "iFood", .text "Rappi", .int 5] ∧
    channelMonthsPlan.render.placeholders = 3 := by
  have hcompile : (Compiler.mk "fct_sales" 100).compile channelMonths =
      .ok channelMonthsPlan.render := rfl
  obtain ⟨q, hplan, hq⟩ := render_aligned.2 _ _ _ hcompile
  cases hplan
  have hunmarked : channelMonthsPlan.Unmarked := by decide
  exact ⟨hcompile, hq.params, hq.exact_iff.2 hunmarked⟩

end Select

end DataMart
