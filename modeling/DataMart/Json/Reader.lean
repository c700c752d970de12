import DataMart.Json.Token

/-!
# Values read from JSON text

`items` reads a list and `members` an object, each folding what it reads into a state, so that a
caller who wants something else than a JSON value need not build one first. `value` reads any value
down to a number of nested containers, `skip` passes over one of any depth, and `refuse` names the
problem where a value of the wrong kind stands.

An object whose first member has the name `embedMark` is not kept as an object. It holds the text of
a value, as its only member, and it stands for the value that this text has by itself.
-/

namespace DataMart.Json

/-- How many containers may stand inside each other. -/
def maxDepth : Nat := 127

/-! ## Lists and objects -/

/-- What stands next in a container: nothing more, or a further entry. -/
inductive Next (s : List Char) where
  /-- The closing bracket; what is left follows it. -/
  | closed (r : Rest s)
  /-- An entry starts here. -/
  | entry (r : Remainder s)

/-- What stands next in a list. Between entries stands a comma, and none before the bracket. -/
def nextItem (first : Bool) (s : List Char) : Except ReadError (Next s) :=
  have hs := length_skipBlanks_le s
  match h : skipBlanks s with
  | [] => .error .cutShort
  | c :: t =>
    have ht : t.length < s.length := by rw [h, List.length_cons] at hs; omega
    if c = ']' then .ok (.closed ⟨t, ht⟩)
    else if first then .ok (.entry ⟨c :: t, by rw [h] at hs; exact hs⟩)
    else if c = ',' then
      have hu := length_skipBlanks_le t
      match hb : skipBlanks t with
      | [] => .error .cutShort
      | d :: u =>
        if d = ']' then .error .malformed
        else .ok (.entry ⟨d :: u, by rw [hb] at hu; omega⟩)
    else .error .malformed

/-- What stands next in an object; an entry starts behind the opening quote of its name. -/
def nextMember (first : Bool) (s : List Char) : Except ReadError (Next s) :=
  have hs := length_skipBlanks_le s
  match h : skipBlanks s with
  | [] => .error .cutShort
  | c :: t =>
    have ht : t.length < s.length := by rw [h, List.length_cons] at hs; omega
    if c = '\x7d' then .ok (.closed ⟨t, ht⟩)
    else if first then
      if c = '"' then .ok (.entry ⟨t, Nat.le_of_lt ht⟩) else .error .malformed
    else if c = ',' then
      have hu := length_skipBlanks_le t
      match hb : skipBlanks t with
      | [] => .error .cutShort
      | d :: u =>
        if d = '"' then
          .ok (.entry ⟨u, by rw [hb, List.length_cons] at hu; omega⟩)
        else .error .malformed
    else .error .malformed

/-- The colon between a name and its value. -/
def readColon (s : List Char) : Result Unit s :=
  have hs := length_skipBlanks_le s
  match h : skipBlanks s with
  | [] => .error .cutShort
  | c :: t =>
    if c = ':' then .ok ((), ⟨t, by rw [h, List.length_cons] at hs; omega⟩)
    else .error .malformed

/-- The entries of a list from `s` on, folded into a state; `s` stands inside the brackets. -/
def itemsFrom {σ : Type} (step : σ → Reader σ) (first : Bool) (acc : σ) (s : List Char) :
    Result σ s :=
  match nextItem first s with
  | .error e => .error e
  | .ok (.closed r) => .ok (acc, r)
  | .ok (.entry r) =>
    match step acc r.1 with
    | .error e => .error e
    | .ok (acc', r') =>
      (itemsFrom step false acc' r'.1).widen (by have := r.2; have := r'.2; omega)
termination_by s.length
decreasing_by have := r.2; have := r'.2; omega

/-- A list, folded into a state; `s` starts behind the opening bracket. -/
def items {σ : Type} (step : σ → Reader σ) (start : σ) : Reader σ := itemsFrom step true start

/-- The members of an object from `s` on, folded into a state. `name` reads the rest of a name behind
its quote, and `step` may refuse a name before its value is looked at. -/
def membersFrom {σ ν : Type} (name : Reader ν) (step : σ → ν → Except ReadError (Reader σ))
    (first : Bool) (acc : σ) (s : List Char) : Result σ s :=
  match nextMember first s with
  | .error e => .error e
  | .ok (.closed r) => .ok (acc, r)
  | .ok (.entry r) =>
    match name r.1 with
    | .error e => .error e
    | .ok (n, r₁) =>
      match step acc n with
      | .error e => .error e
      | .ok read =>
        match readColon r₁.1 with
        | .error e => .error e
        | .ok (_, r₂) =>
          match read r₂.1 with
          | .error e => .error e
          | .ok (acc', r₃) =>
            (membersFrom name step false acc' r₃.1).widen (by
              have := r.2; have := r₁.2; have := r₂.2; have := r₃.2; omega)
termination_by s.length
decreasing_by have := r.2; have := r₁.2; have := r₂.2; have := r₃.2; omega

/-- The name of a member that is kept, behind its opening quote. -/
def readName : Reader String := fun s => (readText s).mapValue String.ofList

/-- An object, folded into a state; `s` starts behind the opening brace. -/
def members {σ : Type} (step : σ → String → Except ReadError (Reader σ)) (start : σ) : Reader σ :=
  membersFrom readName step true start

/-- A reader applied behind the blanks and the first character `c`, where `s` starts with them. -/
def afterFirst {α : Type} {s t : List Char} {c : Char} (h : skipBlanks s = c :: t)
    (r : Result α t) : Result α s :=
  r.widen (by have := length_skipBlanks_le s; rw [h, List.length_cons] at this; omega)

/-- What is left behind a keyword whose first letter was seen already. -/
def keyword {α : Type} (word : List Char) (a : α) {s t : List Char} {c : Char}
    (h : skipBlanks s = c :: t) : Result α s :=
  match expect word t with
  | .error e => .error e
  | .ok r => .ok (a, ⟨r.1, by
      have := length_skipBlanks_le s; have := r.2; rw [h, List.length_cons] at *; omega⟩)

/-! ## Values of the wrong kind -/

/-- The problem where a value of another kind than wanted stands at the start of `s`: a value that is
malformed by itself is reported as such, and a container is not looked into. -/
def refuse (s : List Char) : ReadError :=
  let ofResult {α : Type} {t : List Char} : Result α t → ReadError
    | .error e => e
    | .ok _ => .mismatch
  match h : skipBlanks s with
  | [] => .cutShort
  | c :: t =>
    if c = 'n' then ofResult (keyword ['u', 'l', 'l'] () h)
    else if c = 't' then ofResult (keyword ['r', 'u', 'e'] () h)
    else if c = 'f' then ofResult (keyword ['a', 'l', 's', 'e'] () h)
    else if c = '-' then ofResult (readNumber true t)
    else if c.isDigit then ofResult (readNumber false (c :: t))
    else if c = '"' then ofResult (readText t)
    else if c = '[' ∨ c = '\x7b' then .mismatch
    else .malformed

/-- A text, and nothing else. -/
def string : Reader String := fun s =>
  match h : skipBlanks s with
  | '"' :: t => afterFirst h (readName t)
  | _ => .error (refuse s)

/-! ## Embedded texts -/

/-- The name that marks an object as the text of a value. -/
def embedMark : String := "$serde_json::private::RawValue"

/-- What is left behind the name of the first member of an object, if this name is the mark; `s`
starts behind the opening brace. -/
def behindMark? (s : List Char) : Option (Rest s) :=
  match nextMember true s with
  | .ok (.entry r) =>
    match readName r.1 with
    | .ok (name, r') => if name = embedMark then some r'.within else none
    | .error _ => none
  | _ => none

/-- The closing brace of an object that has to end here. -/
def closeMembers {α : Type} (a : α) (s : List Char) : Result α s :=
  match h : skipBlanks s with
  | [] => .error .cutShort
  | c :: t => if c = '\x7d' then .ok (a, ⟨t, length_lt_of_skipBlanks h⟩) else .error .malformed

/-- The value of the text that an object holds as its only member; `s` starts behind the name. -/
def embeddedValue (embedded : String → Option Json) (s : List Char) : Result Json s :=
  match readColon s with
  | .error e => .error e
  | .ok (_, r) =>
    match string r.1 with
    | .error e => .error e
    | .ok (inner, r') =>
      match embedded inner with
      | none => .error .mismatch
      | some v => (closeMembers v r'.1).widen (by have := r.2; have := r'.2; omega)

/-! ## Kept values -/

/-- Any value, with at most `depth` containers inside each other; `embedded` gives the value of a text
by itself, if it has one. -/
def valueIn (embedded : String → Option Json) (depth : Nat) (s : List Char) : Result Json s :=
  match h : skipBlanks s with
  | [] => .error .cutShort
  | c :: t =>
    if c = 'n' then keyword ['u', 'l', 'l'] .null h
    else if c = 't' then keyword ['r', 'u', 'e'] (.bool true) h
    else if c = 'f' then keyword ['a', 'l', 's', 'e'] (.bool false) h
    else if c = '-' then afterFirst h ((readNumber true t).mapValue .number)
    else if c.isDigit then
      ((readNumber false (skipBlanks s)).mapValue .number).widen (length_skipBlanks_le s)
    else if c = '"' then afterFirst h ((readName t).mapValue .text)
    else if c = '[' then
      match depth with
      | 0 => .error .malformed
      | depth + 1 =>
        let push (acc : List Json) : Reader (List Json) := fun u =>
          (valueIn embedded depth u).mapValue (· :: acc)
        afterFirst h ((items push [] t).mapValue fun vs => .list vs.reverse)
    else if c = '\x7b' then
      match depth with
      | 0 => .error .malformed
      | depth + 1 =>
        let put (acc : List (String × Json)) (name : String) :
            Except ReadError (Reader (List (String × Json))) := .ok fun u =>
          (valueIn embedded depth u).mapValue (insert name · acc)
        match behindMark? t with
        | some r => afterFirst h (r.andThen (embeddedValue embedded r.1))
        | none => afterFirst h ((members put [] t).mapValue .object)
    else .error .malformed

/-! ## Whole texts -/

/-- Read a whole text: nothing but blanks may follow what `read` takes. -/
def readAll {α : Type} (read : Reader α) (s : String) : Except ReadError α :=
  match read s.toList with
  | .error e => .error e
  | .ok (a, r) => if (skipBlanks r.1).isEmpty then .ok a else .error .malformed

/-- The value that a text stands for. A text that is embedded in another one is shorter than it. -/
def parse (s : String) : Except ReadError Json :=
  readAll (valueIn (fun inner => if inner.length < s.length then (parse inner).toOption else none)
    maxDepth) s
termination_by s.length

/-- Any value, with at most `depth` containers inside each other. A value that is embedded as a text
is read by itself, and its containers do not count. -/
def value (depth : Nat) : Reader Json := valueIn (fun inner => (parse inner).toOption) depth

/-! ## Lists and counts -/

/-- A list whose entries `step` folds into a state; it counts as one of `depth` containers. -/
def listOf {σ : Type} (depth : Nat) (step : Nat → σ → Reader σ) (start : σ) : Reader σ := fun s =>
  match h : skipBlanks s with
  | '[' :: t =>
    match depth with
    | 0 => .error .malformed
    | depth + 1 => afterFirst h (items (step depth) start t)
  | _ => .error (refuse s)

/-- A list of texts. -/
def strings (depth : Nat) : Reader (List String) := fun s =>
  let push (_ : Nat) (acc : List String) : Reader (List String) := fun u =>
    (string u).mapValue (· :: acc)
  (listOf depth push [] s).mapValue List.reverse

/-- A number that was read, if it is a whole one without a sign. -/
def unsigned {s : List Char} : Result Number s → Result (Option Nat) s
  | .error e => .error e
  | .ok (.int n, r) => if 0 ≤ n then .ok (some n.toNat, r) else .error .mismatch
  | .ok (.real _, _) => .error .mismatch

/-- An unsigned 64-bit number, or null for none. -/
def count? : Reader (Option Nat) := fun s =>
  match h : skipBlanks s with
  | [] => .error .cutShort
  | c :: t =>
    if c = 'n' then keyword ['u', 'l', 'l'] none h
    else if c = '-' then afterFirst h (unsigned (readNumber true t))
    else if c.isDigit then
      (unsigned (readNumber false (skipBlanks s))).widen (length_skipBlanks_le s)
    else .error (refuse s)

/-! ## Skipped values -/

/-- Pass over a value with at most `depth` containers inside each other. -/
def skipWithin (depth : Nat) (s : List Char) : Result Unit s :=
  match h : skipBlanks s with
  | [] => .error .cutShort
  | c :: t =>
    if c = 'n' then keyword ['u', 'l', 'l'] () h
    else if c = 't' then keyword ['r', 'u', 'e'] () h
    else if c = 'f' then keyword ['a', 'l', 's', 'e'] () h
    else if c = '-' then afterFirst h (skipNumber t)
    else if c.isDigit then (skipNumber (skipBlanks s)).widen (length_skipBlanks_le s)
    else if c = '"' then afterFirst h (skipText t)
    else if c = '[' then
      match depth with
      | 0 => .error .malformed
      | depth + 1 => afterFirst h (items (fun _ => skipWithin depth) () t)
    else if c = '\x7b' then
      match depth with
      | 0 => .error .malformed
      | depth + 1 =>
        afterFirst h (membersFrom skipText (fun _ _ => .ok (skipWithin depth)) true () t)
    else .error .malformed

/-- Pass over a value of any depth: a text cannot nest deeper than it is long. -/
def skip : Reader Unit := fun s => skipWithin s.length s

end DataMart.Json
