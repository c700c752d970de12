import DataMart.Proofs.Checks
import DataMart.Proofs.Query.Shape

/-!
# Which requests are accepted

`Compiler.checks` lists what a request has to meet, in the order in which it is looked at, each with
the fault that is reported otherwise. `Compiler.Accepts` says the same of the request as a whole.

* One lemma for each part of a request says which checks its compiling makes: `checked_operand`,
  `checked_predicate`, `checked_orderItem`, `blankMetric?_cases`, and `checked_plan` for all.
* `Compiler.Aligned` says how the tree of a request answers to the request, entry by entry.
* `allHold_checks_iff`: the checks hold exactly if the request is acceptable.
* `plan_verdict`: so exactly the acceptable requests are planned and compiled, to an aligned tree,
  and of any other the first failing check is reported.
-/

namespace DataMart

open Check (AllHold FirstFails)

/-! ## What a request has to meet -/

/-- Something other than blanks is in a text. -/
def Text.NonBlank (s : String) : Prop := ∃ c ∈ s.toList, c ∉ blanks

namespace CompareOp

/-- The names of the comparisons without an operand. -/
def unaryNames : List String := ["is_null", "not_null"]

/-- The name of the comparison with a list. -/
def listName : String := "in"

/-- The names of the comparisons with one value. -/
def singleNames : List String := ["eq", "ne", "neq", "gt", "gte", "lt", "lte"]

/-- All names of comparisons. -/
def names : List String := unaryNames ++ listName :: singleNames

end CompareOp

namespace Filter

open CompareOp (unaryNames listName singleNames)

/-- The value of a condition has the shape that its operator takes: null, a list of scalars with at
least one, or a scalar. -/
def Suits (f : Filter) : Prop :=
  if f.operator ∈ unaryNames then f.value = .null
  else if f.operator = listName then
    ∃ items, f.value = .list items ∧ items ≠ [] ∧ ∀ j ∈ items, j.isScalar = true
  else f.value.isScalar = true

/-- A condition that can be planned. -/
structure Sound (f : Filter) : Prop where
  known : f.operator ∈ CompareOp.names
  field : Text.NonBlank f.field
  value : f.Suits

/-- The checks of the value of a condition. -/
def operandChecks (f : Filter) : List Check :=
  if f.operator ∈ unaryNames then
    [⟨f.value = .null, Compiler.badOperand f "operator takes no value"⟩]
  else if f.operator = listName then
    [⟨∃ items, f.value = .list items, Compiler.badOperand f "operator 'in' needs a list value"⟩,
      ⟨f.value ≠ .list [], Compiler.badOperand f "list value is empty"⟩,
      ⟨∀ items, f.value = .list items → ∀ j ∈ items, j.isScalar = true,
        Compiler.badOperand f "list items must be scalars"⟩]
  else [⟨f.value.isScalar = true, Compiler.badOperand f "operator needs a scalar value"⟩]

/-- The checks of a condition: its operator, its field and its value. -/
def checks (f : Filter) : List Check :=
  ⟨f.operator ∈ CompareOp.names, .unsupportedOperator f.operator⟩ ::
    ⟨Text.NonBlank f.field, .invalidRequest "filter field is empty"⟩ :: f.operandChecks

/-- An operand is what the value of a condition asks for. -/
inductive HasOperand (f : Filter) : Operand → Prop
  | absent (operator : f.operator ∈ unaryNames) : HasOperand f .absent
  | list {items : List Json} {vs : List Value} (operator : f.operator = listName)
      (value : f.value = .list items) (each : vs.map some = items.map Value.ofJson?) :
      HasOperand f (.list vs)
  | param {v : Value} (operator : f.operator ∈ singleNames)
      (value : Value.ofJson? f.value = some v) : HasOperand f (.param v)

/-- A condition of a tree is the one that a request asks for. -/
structure Gives (f : Filter) (p : Predicate) : Prop where
  column : p.column = f.field
  op : CompareOp.ofName? f.operator = some p.op
  operand : f.HasOperand p.operand

end Filter

namespace OrderBy

/-- The direction of an ordering is known, in any case of its letters. -/
def Known (o : OrderBy) : Prop :=
  Text.fold o.direction = "asc" ∨ Text.fold o.direction = "desc"

/-- The check of an ordering. -/
def check (o : OrderBy) : Check := ⟨o.Known, .invalidDirection o.column o.direction⟩

/-- A key of a tree is the one that a request asks for. -/
structure Gives (o : OrderBy) (i : OrderItem) : Prop where
  column : i.column = o.column
  order : Text.fold o.direction = match i.order with
    | .asc => "asc"
    | .desc => "desc"

end OrderBy

/-- What an item names: its column or its alias. -/
def SelectItem.key : SelectItem → String
  | .metric expr => expr
  | .column name => name
  | .derived _ label => label

namespace Compiler

/-- The limit that a request is planned with. -/
def limitOf (c : Compiler) (r : Request) : Nat := r.limit.getD c.limit

/-- A request that can be planned. -/
structure Accepts (c : Compiler) (r : Request) : Prop where
  limit : c.limitOf r ≠ 0
  metrics : ∀ m ∈ r.metrics, Text.NonBlank m
  dimensions : ∀ d ∈ r.dimensions, Text.NonBlank d
  items : r.metrics ≠ [] ∨ r.dimensions ≠ []
  filters : ∀ f ∈ r.filters, f.Sound
  having : ∀ f ∈ r.having, f.Sound
  groups : r.having = [] ∨ r.dimensions ≠ []
  orderBy : ∀ o ∈ r.orderBy, o.Known

/-- The check of a metric at some place. -/
def metricCheck (m : String × Nat) : Check :=
  ⟨Text.NonBlank m.1, .invalidRequest ("metric " ++ toString m.2 ++ " is empty")⟩

/-- The check of a dimension. -/
def dimensionCheck (d : String) : Check :=
  ⟨Text.NonBlank d, .invalidRequest "dimension name is empty"⟩

/-- The checks of a request, in the order in which they are made. -/
def checks (c : Compiler) (r : Request) : List Check :=
  List.flatten [
    [⟨c.limitOf r ≠ 0, .invalidRequest "limit must be a positive integer"⟩],
    r.metrics.zipIdx.map metricCheck,
    r.dimensions.map dimensionCheck,
    [⟨r.metrics ≠ [] ∨ r.dimensions ≠ [],
      .invalidRequest "request needs at least one metric or dimension"⟩],
    r.filters.flatMap Filter.checks,
    r.having.flatMap Filter.checks,
    [⟨r.having = [] ∨ r.dimensions ≠ [], .invalidRequest "having needs at least one dimension"⟩],
    r.orderBy.map OrderBy.check]

/-- A tree answers to a request: the items are the metrics and one item for each dimension, there is
one key for each dimension, the column or the alias of its item, and conditions and orderings stand
in the order of the request. -/
structure Aligned (c : Compiler) (r : Request) (q : Select) : Prop where
  items : q.items = r.metrics.map .metric ++ r.dimensions.map dimensionItem
  groupBy : q.groupBy = (r.dimensions.map dimensionItem).map SelectItem.key
  table : q.table = c.table
  filter : List.Forall₂ Filter.Gives r.filters q.filter
  having : List.Forall₂ Filter.Gives r.having q.having
  orderBy : List.Forall₂ OrderBy.Gives r.orderBy q.orderBy
  limit : q.limit = c.limitOf r

end Compiler

/-! ## Blank texts -/

/-- A text that is not blank has something in it. -/
theorem Text.isBlankText_eq_false_iff (s : String) : isBlankText s = false ↔ NonBlank s := by
  simp [isBlankText, NonBlank, isBlank]

theorem Text.isBlankText_eq_true_iff (s : String) : isBlankText s = true ↔ ¬ NonBlank s := by
  rw [← isBlankText_eq_false_iff, Bool.not_eq_false]

/-! ## Operators -/

namespace CompareOp

/-- Where a comparison stands in the lists of names. -/
theorem ofName?_cases (name : String) :
    (name ∉ names ∧ ofName? name = none) ∨
    ∃ op, ofName? name = some op ∧ name ∈ names ∧
      (if name ∈ unaryNames then op.isUnary = true
      else if name = listName then op.isUnary = false ∧ op.takesList = true
      else name ∈ singleNames ∧ op.isUnary = false ∧ op.takesList = false) := by
  by_cases h : name ∈ names
  · refine .inr ?_
    have hall : ∀ name ∈ names, ∃ op, ofName? name = some op ∧ name ∈ names ∧
        (if name ∈ unaryNames then op.isUnary = true
        else if name = listName then op.isUnary = false ∧ op.takesList = true
        else name ∈ singleNames ∧ op.isUnary = false ∧ op.takesList = false) := by
      simp [names, unaryNames, listName, singleNames, ofName?, isUnary, takesList]
    exact hall name h
  · refine .inl ⟨h, ?_⟩
    unfold ofName?
    split
    case h_11 => rfl
    all_goals exact absurd (by decide) h

end CompareOp

/-! ## The checks of each part -/

namespace Compiler

open CompareOp (unaryNames listName singleNames)

variable {f : Filter} {op : CompareOp}

/-- A comparison without an operand takes null only. -/
theorem checked_operand_unary (hname : f.operator ∈ unaryNames) (hunary : op.isUnary = true) :
    Checked (operand op f) f.operandChecks f.HasOperand := by
  unfold operand Filter.operandChecks
  rw [if_pos hname, if_pos hunary]
  refine .of_iff (fun hnull => ?_) fun hnull => ?_
  · rw [hnull]
    exact ⟨_, rfl, .absent hname⟩
  · split
    · exact absurd ‹f.value = .null› hnull
    · rfl

/-- A comparison with a list takes a list, with an item at least, and scalars only. -/
theorem checked_operand_list (hname : f.operator = listName) (hunary : op.isUnary = false)
    (hlist : op.takesList = true) : Checked (operand op f) f.operandChecks f.HasOperand := by
  have hother : f.operator ∉ unaryNames := by simp [hname, listName, unaryNames]
  unfold operand Filter.operandChecks
  rw [if_neg hother, if_pos hname, if_neg (by simp [hunary]), if_pos hlist]
  split
  · rename_i hempty
    exact .refused (.later ⟨[], hempty⟩ (.here fun h => h hempty))
  · rename_i items hne hitems
    have hnonempty : f.value ≠ .list [] := by simpa [hitems] using hne
    have hscalars := isSome_listValues items
    cases hvalues : listValues items with
    | some vs =>
        rw [hvalues, Option.isSome_some] at hscalars
        refine .passed ?_ (.list hname hitems (listValues_eq_some_iff.1 hvalues))
        rw [Check.allHold_cons, Check.allHold_cons, Check.allHold_cons]
        refine ⟨⟨items, hitems⟩, hnonempty, ?_, Check.allHold_nil⟩
        intro items' hitems'
        obtain rfl := Json.list.inj (hitems.symm.trans hitems')
        exact List.all_eq_true.1 hscalars.symm
    | none =>
        rw [hvalues, Option.isSome_none] at hscalars
        refine .refused (.later ⟨items, hitems⟩ (.later hnonempty (.here fun hall => ?_)))
        rw [List.all_eq_true.2 (hall items hitems)] at hscalars
        cases hscalars
  · rename_i hshape
    exact .refused (.here fun ⟨items, hitems⟩ => hshape items hitems)

/-- Any other comparison takes a scalar. -/
theorem checked_operand_single (hname : f.operator ∈ singleNames) (hunary : op.isUnary = false)
    (hlist : op.takesList = false) : Checked (operand op f) f.operandChecks f.HasOperand := by
  have hothers : ∀ name ∈ singleNames, name ∉ unaryNames ∧ name ≠ listName := by decide
  obtain ⟨hnotUnary, hnotList⟩ := hothers f.operator hname
  have hscalar := Value.isSome_ofJson? f.value
  unfold operand Filter.operandChecks
  rw [if_neg hnotUnary, if_neg hnotList, if_neg (by simp [hunary]), if_neg (by simp [hlist])]
  cases hvalue : Value.ofJson? f.value with
  | some v =>
      rw [hvalue, Option.isSome_some] at hscalar
      exact .passed (by simp [← hscalar]) (.param hname hvalue)
  | none =>
      rw [hvalue, Option.isSome_none] at hscalar
      exact .refused (.here (by simp [← hscalar]))

/-- What making the operand of a condition checks. -/
theorem checked_operand (hop : CompareOp.ofName? f.operator = some op) :
    Checked (operand op f) f.operandChecks f.HasOperand := by
  obtain ⟨-, hnone⟩ | ⟨op', hop', -, hshape⟩ := CompareOp.ofName?_cases f.operator
  · rw [hop] at hnone
    cases hnone
  · obtain rfl : op = op' := Option.some.inj (hop.symm.trans hop')
    split at hshape
    · exact checked_operand_unary ‹_› hshape
    · split at hshape
      · exact checked_operand_list ‹_› hshape.1 hshape.2
      · exact checked_operand_single hshape.1 hshape.2.1 hshape.2.2

/-- What making a condition checks. -/
theorem checked_predicate (f : Filter) : Checked (predicate f) f.checks f.Gives := by
  unfold predicate
  obtain ⟨hunknown, hnone⟩ | ⟨op, hop, hknown, -⟩ := CompareOp.ofName?_cases f.operator
  · rw [hnone]
    exact .refused (.here hunknown)
  · rw [hop]
    cases hblank : Text.isBlankText f.field with
    | true => exact .refused (.later hknown (.here ((Text.isBlankText_eq_true_iff _).1 hblank)))
    | false =>
        have hfield := (Text.isBlankText_eq_false_iff _).1 hblank
        have hmade : AllHold [⟨f.operator ∈ CompareOp.names, .unsupportedOperator f.operator⟩,
            ⟨Text.NonBlank f.field, .invalidRequest "filter field is empty"⟩] := by
          simp [hknown, hfield]
        exact ((checked_operand hop).map fun rhs hrhs => ⟨rfl, hop, hrhs⟩).behind hmade

/-- What making a key of an ordering checks. -/
theorem checked_orderItem (o : OrderBy) : Checked (orderItem o) [o.check] o.Gives := by
  unfold orderItem SortOrder.ofName?
  refine .of_iff (fun hknown => ?_) fun hunknown => ?_
  · by_cases hasc : Text.fold o.direction = "asc"
    · rw [if_pos hasc]
      exact ⟨_, rfl, rfl, hasc⟩
    · have hdesc := hknown.resolve_left hasc
      rw [if_neg hasc, if_pos hdesc]
      exact ⟨_, rfl, rfl, hdesc⟩
  · obtain ⟨hasc, hdesc⟩ := not_or.1 hunknown
    rw [if_neg hasc, if_neg hdesc]
    rfl

/-- What looking for a blank metric checks. -/
theorem blankMetric?_cases (i : Nat) (ms : List String) :
    (blankMetric? i ms = none ∧ AllHold ((ms.zipIdx i).map metricCheck)) ∨
    ∃ k, blankMetric? i ms = some k ∧ FirstFails ((ms.zipIdx i).map metricCheck)
      (.invalidRequest ("metric " ++ toString k ++ " is empty")) := by
  induction ms generalizing i with
  | nil => exact .inl ⟨rfl, Check.allHold_nil⟩
  | cons m ms ih =>
      rw [List.zipIdx_cons, List.map_cons, blankMetric?]
      cases hblank : Text.isBlankText m with
      | true => exact .inr ⟨i, rfl, .here ((Text.isBlankText_eq_true_iff m).1 hblank)⟩
      | false =>
          have hm := (Text.isBlankText_eq_false_iff m).1 hblank
          obtain ⟨hnone, hall⟩ | ⟨k, hk, hfirst⟩ := ih (i + 1)
          · exact .inl ⟨hnone, Check.allHold_cons.2 ⟨hm, hall⟩⟩
          · exact .inr ⟨k, hk, .later hm hfirst⟩

/-- A test that stops with a fault is a check. -/
theorem checked_refuseIf {bad : Bool} {holds : Prop} (reason : String)
    (h : bad = true ↔ ¬ holds) :
    Checked (refuseIf bad reason) [⟨holds, .invalidRequest reason⟩] fun _ => True := by
  refine .of_iff (fun hk => ⟨(), ?_, trivial⟩) fun hk => ?_
  · rw [refuseIf, if_neg fun hbad => h.1 hbad hk]
  · rw [refuseIf, if_pos (h.2 hk)]

/-- What looking for a blank dimension checks. -/
theorem checked_dimensions (ds : List String) :
    Checked (refuseIf (ds.any Text.isBlankText) "dimension name is empty")
      (ds.map dimensionCheck) fun _ => True := by
  induction ds with
  | nil => exact .passed Check.allHold_nil trivial
  | cons d ds ih =>
      rw [List.any_cons, List.map_cons]
      cases hblank : Text.isBlankText d with
      | true => exact .refused (.here ((Text.isBlankText_eq_true_iff d).1 hblank))
      | false =>
          have hd : AllHold [dimensionCheck d] := by
            simpa [dimensionCheck] using (Text.isBlankText_eq_false_iff d).1 hblank
          exact ih.behind hd

/-! ## The checks of a request -/

/-- A dimension is grouped by the column or the alias of its item. -/
theorem dimensionKey_eq (d : String) : dimensionKey d = (dimensionItem d).key := by
  unfold dimensionKey dimensionItem
  cases splitAlias? d <;> rfl

/-- **What planning checks, and what it gives.** -/
theorem checked_plan (c : Compiler) (r : Request) :
    Checked (c.plan r) (c.checks r) (c.Aligned r) := by
  have horder : Checked (r.orderBy.mapM orderItem) (r.orderBy.map OrderBy.check)
      (List.Forall₂ OrderBy.Gives r.orderBy) := by
    rw [List.map_eq_flatMap]
    exact .mapM checked_orderItem r.orderBy
  unfold plan checks
  simp only [List.flatten_cons]
  refine (checked_refuseIf _ (by simp [limitOf])).bind fun _ _ => ?_
  obtain ⟨hnone, hmetrics⟩ | ⟨k, hk, hfirst⟩ := blankMetric?_cases 0 r.metrics
  · rw [hnone]
    refine Checked.behind ?_ hmetrics
    refine (checked_dimensions r.dimensions).bind fun _ _ => ?_
    refine (checked_refuseIf _ (by simp [not_or])).bind fun _ _ => ?_
    refine (Checked.mapM checked_predicate r.filters).bind fun filter hfilter => ?_
    refine (Checked.mapM checked_predicate r.having).bind fun having hhaving => ?_
    have hempty : having.isEmpty = r.having.isEmpty := by
      rw [Bool.eq_iff_iff, List.isEmpty_iff_length_eq_zero, List.isEmpty_iff_length_eq_zero,
        hhaving.length_eq]
    refine (checked_refuseIf _ (by simp [hempty, not_or])).bind fun _ _ => ?_
    refine horder.bind fun orderBy horderBy => ?_
    have hkeys : r.dimensions.map dimensionKey =
        (r.dimensions.map dimensionItem).map SelectItem.key := by
      simp [dimensionKey_eq]
    exact .passed Check.allHold_nil ⟨rfl, hkeys, rfl, hfilter, hhaving, horderBy, rfl⟩
  · rw [hk]
    exact .refused (hfirst.append _)

/-- The checks of a condition hold exactly if it is sound. -/
theorem allHold_filterChecks_iff (f : Filter) : AllHold f.checks ↔ f.Sound := by
  have hvalue : AllHold f.operandChecks ↔ f.Suits := by
    unfold Filter.operandChecks Filter.Suits
    split
    · simp
    · split
      · simp only [Check.allHold_cons, Check.allHold_nil, and_true]
        constructor
        · rintro ⟨⟨items, hitems⟩, hne, hall⟩
          exact ⟨items, hitems, fun hnil => hne (hnil ▸ hitems), hall items hitems⟩
        · rintro ⟨items, hitems, hne, hall⟩
          have hsame {items' : List Json} (h : f.value = .list items') : items' = items :=
            Json.list.inj (h.symm.trans hitems)
          refine ⟨⟨items, hitems⟩, ?_, ?_⟩
          · intro hnil
            exact hne (hsame hnil).symm
          · intro items' hitems'
            rw [hsame hitems']
            exact hall
      · simp
  rw [Filter.checks, Check.allHold_cons, Check.allHold_cons, hvalue]
  constructor
  · rintro ⟨hknown, hfield, hsuits⟩
    exact ⟨hknown, hfield, hsuits⟩
  · intro h
    exact ⟨h.known, h.field, h.value⟩

/-- **The checks of a request hold exactly if it is acceptable.** -/
theorem allHold_checks_iff (c : Compiler) (r : Request) : AllHold (c.checks r) ↔ c.Accepts r := by
  have hmetrics : AllHold (r.metrics.zipIdx.map metricCheck) ↔
      ∀ m ∈ r.metrics, Text.NonBlank m := by
    rw [Check.allHold_map]
    constructor
    · intro h m hm
      obtain ⟨i, hi, rfl⟩ := List.getElem_of_mem hm
      exact h (r.metrics[i], i) (List.mk_mem_zipIdx_iff_getElem?.2 (by simp))
    · rintro h ⟨m, i⟩ hmi
      exact h m (List.fst_mem_of_mem_zipIdx hmi)
  simp only [checks, List.flatten_cons, List.flatten_nil, Check.allHold_append, hmetrics,
    Check.allHold_map, Check.allHold_flatMap, allHold_filterChecks_iff, Check.allHold_cons,
    Check.allHold_nil, and_true]
  constructor
  · rintro ⟨hlimit, hmetrics, hdimensions, hitems, hfilters, hhaving, hgroups, horderBy⟩
    exact ⟨hlimit, hmetrics, hdimensions, hitems, hfilters, hhaving, hgroups, horderBy⟩
  · intro h
    exact ⟨h.limit, h.metrics, h.dimensions, h.items, h.filters, h.having, h.groups, h.orderBy⟩

/-- Every check of a request is one of the request itself: its fault is the caller's. -/
theorem isRequestFault_of_mem_checks {c : Compiler} {r : Request} {k : Check}
    (h : k ∈ c.checks r) : k.fault.isRequestFault = true := by
  have hfilter : ∀ f : Filter, ∀ k ∈ f.checks, k.fault.isRequestFault = true := by
    intro f k hk
    unfold Filter.checks Filter.operandChecks at hk
    split at hk
    · simp at hk
      rcases hk with rfl | rfl | rfl <;> rfl
    · split at hk
      · simp at hk
        rcases hk with rfl | rfl | rfl | rfl | rfl <;> rfl
      · simp at hk
        rcases hk with rfl | rfl | rfl <;> rfl
  simp only [checks, List.flatten_cons, List.flatten_nil, List.mem_append, List.mem_singleton,
    List.mem_map, List.mem_flatMap, List.not_mem_nil, or_false] at h
  rcases h with rfl | ⟨m, -, rfl⟩ | ⟨d, -, rfl⟩ | rfl | ⟨f, -, hk⟩ | ⟨f, -, hk⟩ | rfl | ⟨o, -, rfl⟩
  · rfl
  · rfl
  · rfl
  · rfl
  · exact hfilter f k hk
  · exact hfilter f k hk
  · rfl
  · rfl

/-- **Exactly the acceptable requests are planned and compiled.** The tree of such a request is
aligned with it. Of any other request the fault of the first check that fails is reported, and it is
the caller's. -/
theorem plan_verdict (c : Compiler) (r : Request) :
    ((∃ q, c.plan r = .ok q) ↔ c.Accepts r) ∧
    ((∃ s, c.compile r = .ok s) ↔ c.Accepts r) ∧
    ((∃ q, c.plan r = .ok q ∧ c.compile r = .ok q.render ∧ c.Aligned r q) ∨
      ∃ e, c.plan r = .error e ∧ c.compile r = .error e ∧ FirstFails (c.checks r) e ∧
        e.isRequestFault = true) := by
  have hchecked := checked_plan c r
  have hplan : (∃ q, c.plan r = .ok q) ↔ c.Accepts r :=
    hchecked.exists_ok_iff.trans (allHold_checks_iff c r)
  have hcompile : (∃ s, c.compile r = .ok s) ↔ ∃ q, c.plan r = .ok q := by
    unfold compile
    cases c.plan r <;> simp [Except.map]
  refine ⟨hplan, hcompile.trans hplan, ?_⟩
  cases hanswer : c.plan r with
  | ok q =>
      refine .inl ⟨q, rfl, ?_, hchecked.good_of_eq_ok hanswer⟩
      rw [compile, hanswer]
      rfl
  | error e =>
      have hfirst := (hchecked.eq_error_iff e).1 hanswer
      refine .inr ⟨e, rfl, ?_, hfirst, ?_⟩
      · rw [compile, hanswer]
        rfl
      · obtain ⟨k, hk, rfl⟩ := hfirst.mem
        exact isRequestFault_of_mem_checks hk

/-- Of several things that are wrong, the earliest check decides: here the second metric, and not
the operator of the filter or the direction. -/
example : (Compiler.mk "fct_sales" 100).plan
    { metrics := ["COUNT(*)", "\u2003"], filters := [⟨"", "between", .list []⟩],
      orderBy := [⟨"n", "upwards"⟩] } = .error (.invalidRequest "metric 1 is empty") := rfl

end Compiler

end DataMart
