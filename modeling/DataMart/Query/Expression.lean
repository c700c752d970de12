import DataMart.Store.Mart
import DataMart.Text.Quoted

/-!
# Expressions in queries

The entries of a SELECT list and the left-hand sides of conditions are text. This module reads the
expressions that the mart's queries are made of: columns, literals, aggregates of an expression,
`COALESCE`, arithmetic and an alias behind `AS`. Keywords and names of functions are read in any case
of their letters; a name between double quotes is always a name.
-/

namespace DataMart

/-- An aggregate function of one argument. -/
inductive Aggregate where
  | count
  | sum
  | avg
  | min
  | max
  deriving DecidableEq, Repr

namespace Aggregate

/-- The aggregate of a given name. -/
def ofName? (name : String) : Option Aggregate :=
  match Text.fold name with
  | "count" => some count
  | "sum" => some sum
  | "avg" => some avg
  | "min" => some min
  | "max" => some max
  | _ => none

/-- Whether an aggregate picks one of its rows. -/
def picksRow : Aggregate → Bool
  | min => true
  | max => true
  | _ => false

end Aggregate

/-- An operation of arithmetic. -/
inductive Arithmetic where
  | add
  | sub
  | mul
  | div
  deriving DecidableEq, Repr

/-- An expression over references `ν` to what a row holds. -/
inductive Expr (ν : Type) where
  | literal (c : Cell)
  | ref (n : ν)
  /-- The first operand unless it is null. -/
  | coalesce (a b : Expr ν)
  | arith (op : Arithmetic) (a b : Expr ν)
  /-- The number of rows of a group, under the name it was written with. -/
  | countRows (name : String)
  /-- An aggregate under the name it was written with. -/
  | aggregate (f : Aggregate) (name : String) (a : Expr ν)
  deriving BEq

/-- A name as it stands in a query. -/
structure Name where
  text : String
  quoted : Bool := false
  deriving DecidableEq, Repr

namespace Expr

/-- The names of the aggregates in an expression, from left to right, less those within another. -/
def aggregates {ν : Type} : Expr ν → List String
  | literal _ => []
  | ref _ => []
  | coalesce a b => a.aggregates ++ b.aggregates
  | arith _ a b => a.aggregates ++ b.aggregates
  | countRows name => [name]
  | aggregate _ name _ => [name]

/-- The names of the aggregates within another. -/
def nestedAggregates {ν : Type} : Expr ν → List String
  | literal _ => []
  | ref _ => []
  | coalesce a b => a.nestedAggregates ++ b.nestedAggregates
  | arith _ a b => a.nestedAggregates ++ b.nestedAggregates
  | countRows _ => []
  | aggregate _ _ a => a.aggregates ++ a.nestedAggregates

/-- The arguments of the aggregates that pick one of their rows. -/
def picks {ν : Type} : Expr ν → List (Aggregate × Expr ν)
  | literal _ => []
  | ref _ => []
  | coalesce a b => a.picks ++ b.picks
  | arith _ a b => a.picks ++ b.picks
  | countRows _ => []
  | aggregate f _ a => if f.picksRow then [(f, a)] else []

/-- An expression with its references replaced, from left to right; the first that has no
replacement stops it. -/
def bindRefs {ν μ ε : Type} (f : ν → Except ε (Expr μ)) : Expr ν → Except ε (Expr μ)
  | literal c => .ok (.literal c)
  | ref n => f n
  | coalesce a b => do
    let a' ← a.bindRefs f
    let b' ← b.bindRefs f
    return .coalesce a' b'
  | arith op a b => do
    let a' ← a.bindRefs f
    let b' ← b.bindRefs f
    return .arith op a' b'
  | countRows name => .ok (.countRows name)
  | aggregate g name a => (a.bindRefs f).map (.aggregate g name)

end Expr

/-! ## Tokens -/

/-- A token of query text. -/
inductive QueryToken where
  | word (s : String)
  | quoted (s : String)
  | number (s : String)
  | string (s : String)
  | symbol (c : Char)
  deriving DecidableEq, Repr

namespace QueryToken

/-- Whether a character may stand in a bare name; everything beyond ASCII may. -/
def isNameChar (c : Char) : Bool := c.isAlphanum || c = '_' || c = '$' || 127 < c.toNat

/-- Whether a character may stand in a number; `before` is the character in front of it. -/
def isNumberChar (before c : Char) : Bool :=
  c.isDigit || c = '.' || c = 'e' || c = 'E' ||
    ((c = '+' || c = '-') && (before = 'e' || before = 'E'))

/-- The characters of a number from the start of a text, and what follows. -/
def takeNumber (before : Char) : List Char → List Char × List Char
  | [] => ([], [])
  | c :: rest =>
    if isNumberChar before c then
      let (taken, after) := takeNumber c rest
      (c :: taken, after)
    else ([], c :: rest)

/-- The inside of a quoted text up to the closing mark, which is written twice to stand for itself,
and what follows. -/
def takeQuoted (mark : Char) : List Char → Option (List Char × List Char)
  | [] => none
  | [c] => if c = mark then some ([], []) else none
  | c :: d :: rest =>
    if c = mark then
      if d = mark then (takeQuoted mark rest).map fun (s, r) => (mark :: s, r)
      else some ([], d :: rest)
    else (takeQuoted mark (d :: rest)).map fun (s, r) => (c :: s, r)

/-- The tokens of a text. Each token takes at least one character, so as many tries as there are
characters suffice. -/
def scan : (tries : Nat) → List Char → Option (List QueryToken)
  | 0, s => if s.isEmpty then some [] else none
  | _, [] => some []
  | tries + 1, c :: rest =>
    if Text.isBlank c then scan tries rest
    else if c = '"' then
      match takeQuoted '"' rest with
      | none => none
      | some (s, r) => (scan tries r).map (quoted (String.ofList s) :: ·)
    else if c = '\'' then
      match takeQuoted '\'' rest with
      | none => none
      | some (s, r) => (scan tries r).map (string (String.ofList s) :: ·)
    else if c.isDigit || c = '.' then
      let (taken, after) := takeNumber c rest
      (scan tries after).map (number (String.ofList (c :: taken)) :: ·)
    else if isNameChar c then
      (scan tries (rest.dropWhile isNameChar)).map
        (word (String.ofList (c :: rest.takeWhile isNameChar)) :: ·)
    else (scan tries rest).map (symbol c :: ·)

/-- A token in a message. -/
def text : QueryToken → String
  | word s => s
  | quoted s => Text.Quoted.identifier s
  | number s => s
  | string s => "'" ++ s ++ "'"
  | symbol c => String.ofList [c]

end QueryToken

/-! ## Grammar -/

namespace Expr

open QueryToken

/-- The refusal of a list of tokens at its first. -/
def refuse : List QueryToken → EngineError
  | [] => .nearToken ""
  | t :: _ => .nearToken t.text

/-- The cell of a number in the text of a query: a whole number if it is written as one and fits. -/
def numberCell (s : String) : Cell := (Cell.numberOfText? s).getD .null

/-- What reading a part of an expression gives: the part and the tokens behind it. -/
abbrev Parsed := Except EngineError (Expr Name × List QueryToken)

/-- A closing parenthesis. -/
def closing (e : Expr Name) : List QueryToken → Parsed
  | .symbol ')' :: rest => .ok (e, rest)
  | ts => .error (refuse ts)

mutual

/-- A literal, a name, a call or an expression in parentheses. -/
def primary : (fuel : Nat) → List QueryToken → Parsed
  | 0, ts => .error (refuse ts)
  | fuel + 1, ts =>
    match ts with
    | .number s :: rest => .ok (.literal (numberCell s), rest)
    | .string s :: rest => .ok (.literal (.text s), rest)
    | .quoted s :: rest => .ok (.ref ⟨s, true⟩, rest)
    | .symbol '(' :: rest => do
      let (e, after) ← sum fuel rest
      closing e after
    | .symbol '-' :: rest => do
      let (e, after) ← primary fuel rest
      return (.arith .sub (.literal (.int 0)) e, after)
    | .word f :: .symbol '(' :: rest => call fuel f rest
    | .word s :: rest =>
      if Text.fold s = "null" then .ok (.literal .null, rest) else .ok (.ref ⟨s, false⟩, rest)
    | ts => .error (refuse ts)

/-- The arguments of a call and what it stands for. -/
def call : (fuel : Nat) → (f : String) → List QueryToken → Parsed
  | 0, _, ts => .error (refuse ts)
  | fuel + 1, f, ts =>
    match Aggregate.ofName? f, ts with
    | some .count, .symbol '*' :: .symbol ')' :: rest => .ok (.countRows f, rest)
    | some g, ts => do
      let (e, after) ← sum fuel ts
      closing (.aggregate g f e) after
    | none, ts =>
      if Text.fold f = "coalesce" then arguments fuel ts
      else if Text.fold f = "zeroblob" then
        match ts with
        | .number s :: .symbol ')' :: rest =>
          .ok (.literal (.blob (Decimal.number s.toList)), rest)
        | ts => .error (refuse ts)
      else .error (.noSuchFunction f)

/-- The arguments of `COALESCE`, of which the first that is not null counts. -/
def arguments : (fuel : Nat) → List QueryToken → Parsed
  | 0, ts => .error (refuse ts)
  | fuel + 1, ts => do
    let (e, after) ← sum fuel ts
    match after with
    | .symbol ',' :: rest => do
      let (others, after') ← arguments fuel rest
      return (.coalesce e others, after')
    | after => closing e after

/-- Factors joined by `*` and `/`. -/
def product : (fuel : Nat) → List QueryToken → Parsed
  | 0, ts => .error (refuse ts)
  | fuel + 1, ts => do
    let (e, after) ← primary fuel ts
    factors fuel e after

/-- Further factors behind one. -/
def factors : (fuel : Nat) → Expr Name → List QueryToken → Parsed
  | 0, _, ts => .error (refuse ts)
  | fuel + 1, e, ts =>
    match ts with
    | .symbol '*' :: rest => do
      let (f, after) ← primary fuel rest
      factors fuel (.arith .mul e f) after
    | .symbol '/' :: rest => do
      let (f, after) ← primary fuel rest
      factors fuel (.arith .div e f) after
    | ts => .ok (e, ts)

/-- Products joined by `+` and `-`. -/
def sum : (fuel : Nat) → List QueryToken → Parsed
  | 0, ts => .error (refuse ts)
  | fuel + 1, ts => do
    let (e, after) ← product fuel ts
    terms fuel e after

/-- Further products behind one. -/
def terms : (fuel : Nat) → Expr Name → List QueryToken → Parsed
  | 0, _, ts => .error (refuse ts)
  | fuel + 1, e, ts =>
    match ts with
    | .symbol '+' :: rest => do
      let (f, after) ← product fuel rest
      terms fuel (.arith .add e f) after
    | .symbol '-' :: rest => do
      let (f, after) ← product fuel rest
      terms fuel (.arith .sub e f) after
    | ts => .ok (e, ts)

end

/-- The tokens of a text; a quote that is not closed is refused. -/
def tokens (s : String) : Except EngineError (List QueryToken) :=
  match scan (s.toList.length) s.toList with
  | some ts => .ok ts
  | none => .error (.nearToken s)

/-- The expression at the start of some tokens. Each token costs a handful of steps at most. -/
def ofTokens (ts : List QueryToken) : Parsed := sum (8 * ts.length + 8) ts

end Expr

/-- An entry of a SELECT list: an expression, its alias if it has one, and its text. -/
structure ItemExpr where
  expr : Expr Name
  alias? : Option String
  text : String

/-- The alias behind an expression, if one is written. -/
def aliasOf : List QueryToken → Except EngineError (Option String)
  | [] => .ok none
  | [.word w, .word a] => if Text.fold w = "as" then .ok (some a) else .error (.nearToken a)
  | [.word w, .quoted a] => if Text.fold w = "as" then .ok (some a) else .error (.nearToken a)
  | [.word a] => .ok (some a)
  | [.quoted a] => .ok (some a)
  | ts => .error (Expr.refuse ts)

/-- The entry that a text stands for. -/
def ItemExpr.ofText (s : String) : Except EngineError ItemExpr := do
  let ts ← Expr.tokens s
  let (e, after) ← Expr.ofTokens ts
  let name ← aliasOf after
  return ⟨e, name, Text.trim s⟩

end DataMart
