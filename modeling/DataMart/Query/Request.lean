import DataMart.Json.Printer
import DataMart.Json.Reader

/-!
# Requests

A `Request` asks one mart table for metrics over groups. It is taken as it comes: whether its
operators exist, its names are blank or its directions make sense is looked at when it is compiled.

In JSON text a request is an object whose members may all be missing, or a list of the members'
values in the order of the fields. The ordering is an object too, and its members keep their order
and may repeat. Members that no field is named for are skipped; one that repeats a field is refused.
-/

namespace DataMart

/-- One condition: a field, the name of an operator, and the operand in JSON. -/
structure Filter where
  field : String
  operator : String
  value : Json := .null

/-- One key of an ordering: an output column and the name of a direction. -/
structure OrderBy where
  column : String
  direction : String
  deriving DecidableEq, Repr

/-- A question to one mart table. -/
structure Request where
  /-- Aggregate expressions, taken as written. -/
  metrics : List String := []
  /-- Columns to group by; `expr AS alias` groups by the alias. -/
  dimensions : List String := []
  /-- Conditions on the rows. -/
  filters : List Filter := []
  /-- Conditions on the groups. -/
  having : List Filter := []
  orderBy : List OrderBy := []
  /-- How many rows to give at most; less than 2^64. -/
  limit : Option Nat := none

namespace Request

/-! ## Building a request -/

/-- Ask for one more metric. -/
def withMetric (r : Request) (expr : String) : Request :=
  { r with metrics := r.metrics ++ [expr] }

/-- Group by one more column. -/
def withDimension (r : Request) (column : String) : Request :=
  { r with dimensions := r.dimensions ++ [column] }

/-- Put one more condition on the rows. -/
def withFilter (r : Request) (f : Filter) : Request := { r with filters := r.filters ++ [f] }

/-- Put one more condition on the groups. -/
def withHaving (r : Request) (f : Filter) : Request := { r with having := r.having ++ [f] }

/-- Order by one more output column. -/
def withOrder (r : Request) (column direction : String) : Request :=
  { r with orderBy := r.orderBy ++ [⟨column, direction⟩] }

/-- Ask for at most `n` rows. -/
def withLimit (r : Request) (n : Nat) : Request := { r with limit := some n }

/-! ## Comparing -/

/-- Whether two conditions are the same. -/
def sameFilter (a b : Filter) : Bool :=
  a.field == b.field && a.operator == b.operator && a.value == b.value

instance : BEq Filter := ⟨sameFilter⟩

/-- Whether two requests are the same. -/
def same (a b : Request) : Bool :=
  a.metrics == b.metrics && a.dimensions == b.dimensions && a.filters == b.filters &&
    a.having == b.having && a.orderBy == b.orderBy && a.limit == b.limit

instance : BEq Request := ⟨same⟩

/-! ## Writing -/

/-- A condition in JSON. -/
def filterJson (f : Filter) : Json :=
  .object [("field", .text f.field), ("operator", .text f.operator), ("value", f.value)]

/-- A request in JSON: every field in its order, except that an empty list of conditions on groups
is left out. -/
def toJson (r : Request) : Json :=
  .object <|
    [("metrics", .list (r.metrics.map .text)),
      ("dimensions", .list (r.dimensions.map .text)),
      ("filters", .list (r.filters.map filterJson))] ++
    (if r.having.isEmpty then [] else [("having", .list (r.having.map filterJson))]) ++
    [("order_by", .object (r.orderBy.map fun o => (o.column, .text o.direction))),
      ("limit", (r.limit.map Json.ofNat).getD .null)]

/-- A request in JSON text. -/
def print (r : Request) : String := r.toJson.compact

/-! ## Reading -/

open Json (Reader ReadError Result Rest)

/-- Set a field that was empty so far; a field is not set twice. -/
def setOnce {σ α : Type} (old : Option α) (read : Reader α) (put : α → σ) :
    Except ReadError (Reader σ) :=
  match old with
  | some _ => .error .mismatch
  | none => .ok fun s => (read s).mapValue put

/-- Skip the value of a member that is not asked for, leaving the state as it is. -/
def ignore {σ : Type} (acc : σ) : Reader σ := fun s => (Json.skip s).mapValue fun _ => acc

/-- A further element of a list of field values, if one is there; `first` before any was read. -/
def element? {α : Type} (first : Bool) (read : Reader α) (s : List Char) :
    Except ReadError (Option α × Json.Remainder s) :=
  match Json.nextItem first s with
  | .error e => .error e
  | .ok (.closed _) => .ok (none, .all s)
  | .ok (.entry r) =>
    match read r.1 with
    | .error e => .error e
    | .ok (a, r') => .ok (some a, r'.within.loosen)

/-- The end of a list of field values: more elements than fields are malformed. -/
def closeElements {α : Type} (a : α) (s : List Char) : Result α s :=
  match h : Json.skipBlanks s with
  | [] => .error .cutShort
  | c :: t =>
    if c = ']' then .ok (a, ⟨t, Json.length_lt_of_skipBlanks h⟩) else .error .malformed

/-! ### Conditions -/

/-- The fields of a condition as far as they were read. -/
structure FilterDraft where
  field : Option String := none
  operator : Option String := none
  value : Option Json := none

/-- The condition that was read; field and operator have to be there. -/
def FilterDraft.done (d : FilterDraft) : Except ReadError Filter :=
  match d.field, d.operator with
  | some field, some operator => .ok ⟨field, operator, d.value.getD .null⟩
  | _, _ => .error .mismatch

/-- A member of a condition. -/
def filterMember (depth : Nat) (d : FilterDraft) (name : String) :
    Except ReadError (Reader FilterDraft) :=
  match name with
  | "field" => setOnce d.field Json.string fun a => { d with field := some a }
  | "operator" => setOnce d.operator Json.string fun a => { d with operator := some a }
  | "value" => setOnce d.value (Json.value depth) fun a => { d with value := some a }
  | _ => .ok (ignore d)

/-- The elements of a condition written as a list; `s` starts behind the bracket. -/
def filterElements (depth : Nat) (s : List Char) : Result Filter s :=
  match element? true Json.string s with
  | .error e => .error e
  | .ok (none, _) => .error .mismatch
  | .ok (some field, r) =>
    match element? false Json.string r.1 with
    | .error e => .error e
    | .ok (none, _) => .error .mismatch
    | .ok (some operator, r') =>
      match element? false (Json.value depth) r'.1 with
      | .error e => .error e
      | .ok (value, r'') =>
        (closeElements ⟨field, operator, value.getD .null⟩ r''.1).widen (by
          have := r.2; have := r'.2; have := r''.2; omega)

/-- A condition, as an object or a list; it counts as one of `depth` containers. -/
def filter (depth : Nat) : Reader Filter := fun s =>
  match h : Json.skipBlanks s with
  | '[' :: t =>
    match depth with
    | 0 => .error .malformed
    | depth + 1 => Json.afterFirst h (filterElements depth t)
  | '\x7b' :: t =>
    match depth with
    | 0 => .error .malformed
    | depth + 1 =>
      match Json.members (filterMember depth) {} t with
      | .error e => .error e
      | .ok (d, r) => Json.afterFirst h (d.done.map fun f => (f, r))
  | _ => .error (Json.refuse s)

/-- A list of conditions. -/
def filterList (depth : Nat) : Reader (List Filter) := fun s =>
  let push (depth : Nat) (acc : List Filter) : Reader (List Filter) := fun u =>
    (filter depth u).mapValue (· :: acc)
  (Json.listOf depth push [] s).mapValue List.reverse

/-! ### Orderings -/

/-- An ordering: an object of directions, or null for none. -/
def ordering (depth : Nat) : Reader (List OrderBy) := fun s =>
  match h : Json.skipBlanks s with
  | 'n' :: _ => Json.keyword ['u', 'l', 'l'] [] h
  | '[' :: _ => .error (if depth = 0 then .malformed else .mismatch)
  | '\x7b' :: t =>
    if depth = 0 then .error .malformed
    else
      let put (acc : List OrderBy) (column : String) :
          Except ReadError (Reader (List OrderBy)) := .ok fun u =>
        (Json.string u).mapValue (⟨column, ·⟩ :: acc)
      Json.afterFirst h ((Json.members put [] t).mapValue List.reverse)
  | _ => .error (Json.refuse s)

/-! ### Requests -/

/-- The fields of a request as far as they were read. -/
structure Draft where
  metrics : Option (List String) := none
  dimensions : Option (List String) := none
  filters : Option (List Filter) := none
  having : Option (List Filter) := none
  orderBy : Option (List OrderBy) := none
  limit : Option (Option Nat) := none

/-- The request that was read; a field that is missing is empty. -/
def Draft.done (d : Draft) : Request where
  metrics := d.metrics.getD []
  dimensions := d.dimensions.getD []
  filters := d.filters.getD []
  having := d.having.getD []
  orderBy := d.orderBy.getD []
  limit := d.limit.getD none

/-- A member of a request. -/
def member (depth : Nat) (d : Draft) (name : String) : Except ReadError (Reader Draft) :=
  match name with
  | "metrics" => setOnce d.metrics (Json.strings depth) fun a => { d with metrics := some a }
  | "dimensions" =>
    setOnce d.dimensions (Json.strings depth) fun a => { d with dimensions := some a }
  | "filters" => setOnce d.filters (filterList depth) fun a => { d with filters := some a }
  | "having" => setOnce d.having (filterList depth) fun a => { d with having := some a }
  | "order_by" => setOnce d.orderBy (ordering depth) fun a => { d with orderBy := some a }
  | "limit" => setOnce d.limit Json.count? fun a => { d with limit := some a }
  | _ => .ok (ignore d)

/-- The elements of a request written as a list; `s` starts behind the bracket. -/
def elements (depth : Nat) (s : List Char) : Result Draft s := do
  match element? true (Json.strings depth) s with
  | .error e => .error e
  | .ok (metrics, r₁) =>
  match element? false (Json.strings depth) r₁.1 with
  | .error e => .error e
  | .ok (dimensions, r₂) =>
  match element? false (filterList depth) r₂.1 with
  | .error e => .error e
  | .ok (filters, r₃) =>
  match element? false (filterList depth) r₃.1 with
  | .error e => .error e
  | .ok (having, r₄) =>
  match element? false (ordering depth) r₄.1 with
  | .error e => .error e
  | .ok (orderBy, r₅) =>
  match element? false Json.count? r₅.1 with
  | .error e => .error e
  | .ok (limit, r₆) =>
    (closeElements ⟨metrics, dimensions, filters, having, orderBy, limit⟩ r₆.1).widen (by
      have := r₁.2; have := r₂.2; have := r₃.2; have := r₄.2; have := r₅.2; have := r₆.2; omega)

/-- A request, as an object or a list; it counts as one of `depth` containers. -/
def reader (depth : Nat) : Reader Request := fun s =>
  match h : Json.skipBlanks s with
  | '[' :: t =>
    match depth with
    | 0 => .error .malformed
    | depth + 1 => Json.afterFirst h ((elements depth t).mapValue Draft.done)
  | '\x7b' :: t =>
    match depth with
    | 0 => .error .malformed
    | depth + 1 => Json.afterFirst h ((Json.members (member depth) {} t).mapValue Draft.done)
  | _ => .error (Json.refuse s)

/-- The request that a JSON text stands for. -/
def parse (s : String) : Except ReadError Request := Json.readAll (reader Json.maxDepth) s

end Request

end DataMart
