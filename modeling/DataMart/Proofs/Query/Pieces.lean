import DataMart.Query.Statement

/-!
# Statements in pieces

Statements written one behind the other form a monoid, and a joined list of statements is cut at any
of its members into what stands before it, the member, and what stands behind it.

* `join_cons` and `join_append_cons` say where the members of a joined list stand.
* `Select.identifiers` lists everything that a query puts into the text as it was given.
-/

namespace DataMart

namespace Statement

/-! ## One behind the other -/

@[ext]
theorem ext {a b : Statement} (sql : a.sql = b.sql) (params : a.params = b.params) : a = b := by
  cases a
  cases b
  simp_all

@[simp] theorem sql_empty : ({} : Statement).sql = "" := rfl

@[simp] theorem params_empty : ({} : Statement).params = [] := rfl

@[simp] theorem sql_push (text : String) : (push text).sql = text := rfl

@[simp] theorem params_push (text : String) : (push text).params = [] := rfl

@[simp] theorem sql_bind (v : Value) : (bind v).sql = "?" := rfl

@[simp] theorem params_bind (v : Value) : (bind v).params = [v] := rfl

@[simp] theorem sql_append (a b : Statement) : (a ++ b).sql = a.sql ++ b.sql := rfl

@[simp] theorem params_append (a b : Statement) : (a ++ b).params = a.params ++ b.params := rfl

theorem append_assoc (a b c : Statement) : a ++ b ++ c = a ++ (b ++ c) := by
  ext1
  · simp [String.append_assoc]
  · simp

@[simp] theorem empty_append (a : Statement) : ({} : Statement) ++ a = a := by
  ext1 <;> simp

@[simp] theorem append_empty (a : Statement) : a ++ ({} : Statement) = a := by
  ext1 <;> simp

/-! ## Joined statements -/

/-- Statements in order, each with `sep` in front of it. -/
def led (sep : String) : List Statement → Statement
  | [] => {}
  | a :: rest => push sep ++ a ++ led sep rest

/-- Statements in order, each with `sep` behind it. -/
def ended (sep : String) : List Statement → Statement
  | [] => {}
  | a :: rest => a ++ push sep ++ ended sep rest

/-- Behind the first of joined statements each further one follows a separator. -/
theorem join_cons (sep : String) (a : Statement) (rest : List Statement) :
    join sep (a :: rest) = a ++ led sep rest := by
  induction rest generalizing a with
  | nil => simp [join, led]
  | cons b rest ih =>
      rw [join, ih, led]
      simp only [append_assoc]

/-- What stands around one of joined statements. -/
theorem join_append_cons (sep : String) (before : List Statement) (a : Statement)
    (behind : List Statement) :
    join sep (before ++ a :: behind) = ended sep before ++ a ++ led sep behind := by
  induction before with
  | nil => simp [ended, join_cons]
  | cons b before ih =>
      have hjoin : join sep (b :: (before ++ a :: behind)) =
          b ++ push sep ++ join sep (before ++ a :: behind) := by
        cases before <;> rfl
      rw [List.cons_append, hjoin, ih, ended]
      simp only [append_assoc]

/-- A clause with parts is its keyword and the joined parts. -/
theorem clause_of_ne_nil (keyword sep : String) {parts : List Statement} (h : parts ≠ []) :
    clause keyword sep parts = push keyword ++ join sep parts := by
  cases parts with
  | nil => exact absurd rfl h
  | cons a rest => rfl

/-! ## Values -/

/-- Joined statements bind the values of each in order. -/
@[simp] theorem params_join (sep : String) (parts : List Statement) :
    (join sep parts).params = parts.flatMap params := by
  cases parts with
  | nil => rfl
  | cons a rest =>
      rw [join_cons]
      induction rest generalizing a with
      | nil => simp [led]
      | cons b rest ih => simpa [led] using ih b

@[simp] theorem params_clause (keyword sep : String) (parts : List Statement) :
    (clause keyword sep parts).params = parts.flatMap params := by
  cases parts with
  | nil => rfl
  | cons a rest => simp [clause_of_ne_nil]

@[simp] theorem params_ended (sep : String) (parts : List Statement) :
    (ended sep parts).params = parts.flatMap params := by
  induction parts with
  | nil => rfl
  | cons a rest ih => simp [ended, ih]

end Statement

/-! ## What a query writes as it was given -/

/-- The texts of an entry of the SELECT list. -/
def SelectItem.identifiers : SelectItem → List String
  | .metric expr => [expr]
  | .column name => [name]
  | .derived expr label => [expr, label]

/-- The conditions of a query, those on rows before those on groups. -/
def Select.conditions (q : Select) : List Predicate := q.filter ++ q.having

/-- Every text that a query takes over as it was given: entries of the SELECT list, the table, the
columns of conditions, the grouping keys, and the columns of the ordering. -/
def Select.identifiers (q : Select) : List String :=
  q.items.flatMap SelectItem.identifiers ++ q.table :: q.conditions.map Predicate.column ++
    q.groupBy ++ q.orderBy.map OrderItem.column

/-- A condition binds the values of its operand. -/
@[simp] theorem Operand.params_render (rhs : Operand) : rhs.render.params = rhs.values := by
  cases rhs with
  | absent => rfl
  | param v => rfl
  | list vs => simp [Operand.render, Operand.values, List.flatMap_map]

@[simp] theorem Predicate.params_render (p : Predicate) : p.render.params = p.operand.values := by
  simp [Predicate.render]

@[simp] theorem SelectItem.params_render (item : SelectItem) : item.render.params = [] := by
  cases item <;> rfl

@[simp] theorem OrderItem.params_render (o : OrderItem) : o.render.params = [] := rfl

/-- **What a query binds.** The values of its conditions in order, those on rows first. -/
@[simp] theorem Select.params_render (q : Select) :
    q.render.params = q.conditions.flatMap fun p => p.operand.values := by
  have hnone {α : Type} (xs : List α) : xs.flatMap (fun _ => ([] : List Value)) = [] :=
    List.flatMap_eq_nil_iff.2 fun _ _ => rfl
  simp [Select.render, Select.conditions, List.flatMap_map, hnone]

end DataMart
