import DataMart.Toml.Scalar

/-!
# TOML documents

A document is a table of names and values, written line by line: `key = value` puts a value under a
key, and `[key]` opens the table that the lines below belong to. Keys with points reach into tables.
How a table came about decides who may add to it (`Origin`); no name is given two meanings.

Values are texts, whole numbers, lists and tables. Truth values, fractional numbers, times and lists
of tables are refused like any other text that does not belong there.
-/

namespace DataMart

namespace Toml

/-- How a table came about. -/
inductive Origin where
  /-- A header of its own opened it. -/
  | header
  /-- It is named on the way to the table of some header. -/
  | implied
  /-- It is named on the way to the value of some key. -/
  | dotted
  /-- It stands in braces and is complete. -/
  | inline
  deriving DecidableEq, Repr

end Toml

/-- A TOML value. -/
inductive Toml where
  | text (s : String)
  | int (n : Int)
  | list (items : List Toml)
  | table (origin : Toml.Origin) (members : List (String × Toml))

namespace Toml

instance : Inhabited Toml := ⟨.list []⟩

/-- The members of a table. -/
abbrev Members := List (String × Toml)

/-! ## Putting tables together -/

/-- The members with another value under a name that is among them. -/
def replace (name : String) (v : Toml) (ms : Members) : Members :=
  ms.map fun m => if m.1 = name then (name, v) else m

/-- Put a value under a key. The key may reach into tables that keys or headers named on their way,
and makes those that are missing. -/
def put (v : Toml) : (key : List String) → Members → Except Problem Members
  | [], _ => .error .malformed
  | [n], ms => if (ms.lookup n).isSome then .error (.redefined n) else .ok (ms ++ [(n, v)])
  | n :: rest, ms =>
    match ms.lookup n with
    | none => (put v rest []).map fun inner => ms ++ [(n, .table .dotted inner)]
    | some (.table .dotted inner) =>
      (put v rest inner).map fun inner => replace n (.table .dotted inner) ms
    | some (.table .implied inner) =>
      (put v rest inner).map fun inner => replace n (.table .implied inner) ms
    | some _ => .error (.redefined n)

/-- Open the table of a header. A table that was only named on the way to others may be opened. -/
def openTable : (path : List String) → Members → Except Problem Members
  | [], _ => .error .malformed
  | [n], ms =>
    match ms.lookup n with
    | none => .ok (ms ++ [(n, .table .header [])])
    | some (.table .implied inner) => .ok (replace n (.table .header inner) ms)
    | some _ => .error (.redefined n)
  | n :: rest, ms =>
    match ms.lookup n with
    | none => (openTable rest []).map fun inner => ms ++ [(n, .table .implied inner)]
    | some (.table .inline _) => .error (.redefined n)
    | some (.table origin inner) =>
      (openTable rest inner).map fun inner => replace n (.table origin inner) ms
    | some _ => .error (.redefined n)

/-- Change the members of the table under a path. -/
def within (change : Members → Except Problem Members) :
    (path : List String) → Members → Except Problem Members
  | [], ms => change ms
  | n :: rest, ms =>
    match ms.lookup n with
    | some (.table origin inner) =>
      (within change rest inner).map fun inner => replace n (.table origin inner) ms
    | _ => .error (.redefined n)

/-! ## Values -/

/-- The items of a list up to its closing bracket; a comma may follow the last one, and lines may end
between them. -/
def items (value : List Char → Step Toml) (s : List Char) : Step (List Toml) :=
  match skipLines false s with
  | ']' :: rest => .ok ([], rest)
  | t =>
    match value t with
    | .error e => .error e
    | .ok (v, rest) =>
      match skipLines false rest with
      | ']' :: rest => .ok ([v], rest)
      | ',' :: rest =>
        if _h : rest.length < s.length then (items value rest).map fun (vs, r) => (v :: vs, r)
        else .error .malformed
      | _ => .error .malformed
termination_by s.length

/-- A key, the sign behind it, and a value. -/
def keyValue (value : List Char → Step Toml) (s : List Char) : Step (List String × Toml) :=
  match key s with
  | .error e => .error e
  | .ok (k, '=' :: rest) => (value (skipBlanks rest)).map fun (v, r) => ((k, v), r)
  | .ok _ => .error .malformed

/-- The members of a table in braces from one of them on, all on one line. -/
def inlineMembers (value : List Char → Step Toml) (ms : Members) (s : List Char) : Step Members :=
  match keyValue value s with
  | .error e => .error e
  | .ok ((k, v), rest) =>
    match put v k ms with
    | .error e => .error e
    | .ok ms =>
      match skipBlanks rest with
      | '\x7d' :: rest => .ok (ms, rest)
      | ',' :: rest =>
        if _h : rest.length < s.length then inlineMembers value ms rest else .error .malformed
      | _ => .error .malformed
termination_by s.length

/-- A value with at most `depth` lists and tables around each other. -/
def value : (depth : Nat) → List Char → Step Toml
  | 0, _ => .error .malformed
  | depth + 1, s =>
    match text? s with
    | some step => step.map fun (cs, r) => (.text (String.ofList cs), r)
    | none =>
      match s with
      | '[' :: rest => (items (value depth) rest).map fun (vs, r) => (.list vs, r)
      | '\x7b' :: rest =>
        match skipBlanks rest with
        | '\x7d' :: rest => .ok (.table .inline [], rest)
        | _ => (inlineMembers (value depth) [] rest).map fun (ms, r) => (.table .inline ms, r)
      | s =>
        let isWord (c : Char) : Bool := isBare c || c = '+'
        match int? (s.takeWhile isWord) with
        | some n => .ok (.int n, s.dropWhile isWord)
        | none => .error .malformed

/-! ## Lines -/

/-- The end of a line: blanks, a comment perhaps, and nothing else. -/
def lineEnd (s : List Char) : Except Problem (List Char) :=
  let rest := match skipBlanks s with
    | '#' :: comment => comment.dropWhile isPlain
    | rest => rest
  if atLineEnd rest then .ok rest else .error .malformed

/-- The key of a header, behind its opening bracket. -/
def header (s : List Char) : Step (List String) :=
  match key s with
  | .error e => .error e
  | .ok (path, ']' :: rest) => .ok (path, rest)
  | .ok _ => .error .malformed

/-- The lines of a document, put into the table that `path` leads to until a header opens another. -/
def lines (path : List String) (doc : Members) (s : List Char) : Except Problem Members :=
  match skipLines false s with
  | [] => .ok doc
  | '[' :: rest =>
    match header rest with
    | .error e => .error e
    | .ok (path, rest) =>
      match openTable path doc, lineEnd rest with
      | .ok doc, .ok rest =>
        if _h : rest.length < s.length then lines path doc rest else .error .malformed
      | .error e, _ => .error e
      | _, .error e => .error e
  | t =>
    match keyValue (value t.length) t with
    | .error e => .error e
    | .ok ((k, v), rest) =>
      match within (put v k) path doc, lineEnd rest with
      | .ok doc, .ok rest =>
        if _h : rest.length < s.length then lines path doc rest else .error .malformed
      | .error e, _ => .error e
      | _, .error e => .error e
termination_by s.length

/-- The table that a text stands for; a byte order mark at its start is no part of it. -/
def parse (text : String) : Except Problem Members :=
  match text.toList with
  | '\ufeff' :: rest => lines [] [] rest
  | s => lines [] [] s

end Toml

end DataMart
