import DataMart.Decimal.Reading
import DataMart.Json.Token

/-!
# Texts, numbers and keys in TOML

Texts stand between double quotes, with escapes, or between single quotes, as they are; either kind
may be tripled to run over several lines. Whole numbers have 64 bits with a sign and are written in
base ten, or without a sign in base sixteen, eight or two, with underscores between digits.

A step of the reader gives what it read and what is left, or the problem that it met.
-/

namespace DataMart.Toml

/-- Why a text is no TOML document. -/
inductive Problem where
  /-- Something stands where the grammar has no place for it. -/
  | malformed
  /-- A name is given a second meaning. -/
  | redefined (name : String)
  deriving DecidableEq, Repr

/-- What a step of the reader gives. -/
abbrev Step (α : Type) := Except Problem (α × List Char)

/-- Whether a character is a blank inside a line. -/
def isBlank (c : Char) : Bool := c = ' ' || c = '\t'

/-- What is left behind blanks. -/
def skipBlanks (s : List Char) : List Char := s.dropWhile isBlank

/-- Whether a character may stand in a line as it is: control characters may not, a tab may. -/
def isPlain (c : Char) : Bool := c = '\t' || (32 ≤ c.toNat && c.toNat ≠ 127)

/-- Whether a line ends here. -/
def atLineEnd : List Char → Bool
  | [] => true
  | '\n' :: _ => true
  | '\r' :: '\n' :: _ => true
  | _ => false

/-- What is left behind blank lines and comments. -/
def skipLines : (comment : Bool) → List Char → List Char
  | _, [] => []
  | _, '\n' :: rest => skipLines false rest
  | _, '\r' :: '\n' :: rest => skipLines false rest
  | true, c :: rest => if isPlain c then skipLines true rest else c :: rest
  | false, c :: rest =>
    if isBlank c then skipLines false rest
    else if c = '#' then skipLines true rest
    else c :: rest

/-! ## Texts -/

/-- The character that a letter stands for behind a backslash. -/
def escape? : Char → Option Char
  | 'b' => some '\x08'
  | 't' => some '\t'
  | 'n' => some '\n'
  | 'f' => some '\x0c'
  | 'r' => some '\r'
  | '"' => some '"'
  | '\\' => some '\\'
  | _ => none

/-- The character with a number in hexadecimal digits. -/
def codePoint? (digits : List Char) : Option Char := do
  let ds ← digits.mapM Json.hexValue?
  let n := ds.foldl (fun acc d => 16 * acc + d) 0
  if n.isValidChar then some (Char.ofNat n) else none

/-- One more character in front of a text. -/
def push (c : Option Char) (rest : Step (List Char)) : Step (List Char) :=
  match c with
  | none => .error .malformed
  | some c => rest.map fun (cs, r) => (c :: cs, r)

/-- The rest of a text between double quotes. -/
def basicText : List Char → Step (List Char)
  | [] => .error .malformed
  | '"' :: rest => .ok ([], rest)
  | '\\' :: 'u' :: a :: b :: c :: d :: rest => push (codePoint? [a, b, c, d]) (basicText rest)
  | '\\' :: 'U' :: a :: b :: c :: d :: e :: f :: g :: h :: rest =>
    push (codePoint? [a, b, c, d, e, f, g, h]) (basicText rest)
  | '\\' :: e :: rest => push (escape? e) (basicText rest)
  | c :: rest => if isPlain c then push (some c) (basicText rest) else .error .malformed

/-- The end of a tripled text behind its three quotes: up to two more quotes belong to the text. -/
def closeTripled (quote : Char) : List Char → Step (List Char)
  | c :: d :: rest =>
    if c = quote then
      if d = quote then .ok ([quote, quote], rest) else .ok ([quote], d :: rest)
    else .ok ([], c :: d :: rest)
  | [c] => if c = quote then .ok ([quote], []) else .ok ([], [c])
  | [] => .ok ([], [])

/-- The rest of a text between tripled double quotes. A backslash at the end of a line joins the next
lines up to their first character; `joining` while it does. -/
def longBasicText : (joining : Bool) → List Char → Step (List Char)
  | _, [] => .error .malformed
  | joining, '\n' :: rest =>
    if joining then longBasicText true rest else push (some '\n') (longBasicText false rest)
  | joining, '\r' :: '\n' :: rest =>
    if joining then longBasicText true rest else push (some '\n') (longBasicText false rest)
  | _, '"' :: '"' :: '"' :: rest => closeTripled '"' rest
  | _, '\\' :: 'u' :: a :: b :: c :: d :: rest =>
    push (codePoint? [a, b, c, d]) (longBasicText false rest)
  | _, '\\' :: 'U' :: a :: b :: c :: d :: e :: f :: g :: h :: rest =>
    push (codePoint? [a, b, c, d, e, f, g, h]) (longBasicText false rest)
  | _, '\\' :: e :: rest =>
    if isBlank e || e = '\n' || e = '\r' then
      if !(skipBlanks (e :: rest)).isEmpty && atLineEnd (skipBlanks (e :: rest)) then
        longBasicText true (e :: rest)
      else .error .malformed
    else push (escape? e) (longBasicText false rest)
  | joining, c :: rest =>
    if joining && isBlank c then longBasicText true rest
    else if isPlain c then push (some c) (longBasicText false rest)
    else .error .malformed

/-- The rest of a text between single quotes. -/
def literalText : List Char → Step (List Char)
  | [] => .error .malformed
  | '\x27' :: rest => .ok ([], rest)
  | c :: rest => if isPlain c then push (some c) (literalText rest) else .error .malformed

/-- The rest of a text between tripled single quotes. -/
def longLiteralText : List Char → Step (List Char)
  | [] => .error .malformed
  | '\n' :: rest => push (some '\n') (longLiteralText rest)
  | '\r' :: '\n' :: rest => push (some '\n') (longLiteralText rest)
  | '\x27' :: '\x27' :: '\x27' :: rest => closeTripled '\x27' rest
  | c :: rest => if isPlain c then push (some c) (longLiteralText rest) else .error .malformed

/-- A text without the line end right at its start. -/
def dropFirstLineEnd : List Char → List Char
  | '\n' :: rest => rest
  | '\r' :: '\n' :: rest => rest
  | s => s

/-- A text of any kind, if one starts here. -/
def text? : List Char → Option (Step (List Char))
  | '"' :: '"' :: '"' :: rest => some (longBasicText false (dropFirstLineEnd rest))
  | '"' :: rest => some (basicText rest)
  | '\x27' :: '\x27' :: '\x27' :: rest => some (longLiteralText (dropFirstLineEnd rest))
  | '\x27' :: rest => some (literalText rest)
  | _ => none

/-! ## Whole numbers -/

/-- The digits of a number without the underscores between them; an underscore that has not a digit
on either side is refused. -/
def ungroup? (isDigit : Char → Bool) : (afterDigit : Bool) → List Char → Option (List Char)
  | afterDigit, [] => if afterDigit then some [] else none
  | afterDigit, c :: rest =>
    if isDigit c then (ungroup? isDigit true rest).map (c :: ·)
    else if afterDigit && c = '_' then ungroup? isDigit false rest
    else none

/-- A number in a base given by its digits. -/
def inBase? (base : Nat) (s : List Char) : Option Nat := do
  let isDigit (c : Char) : Bool := (Json.hexValue? c).any (· < base)
  let ds ← ungroup? isDigit false s
  let ns ← ds.mapM Json.hexValue?
  return ns.foldl (fun acc d => base * acc + d) 0

/-- A number in base ten, without leading zeros. -/
def decimal? (s : List Char) : Option Nat :=
  match s with
  | '0' :: _ :: _ => none
  | s => inBase? 10 s

/-- The whole number of 64 bits that a word stands for. -/
def int? (word : List Char) : Option Int := do
  let n ← match word with
    | '0' :: 'x' :: ds => (inBase? 16 ds).map Int.ofNat
    | '0' :: 'o' :: ds => (inBase? 8 ds).map Int.ofNat
    | '0' :: 'b' :: ds => (inBase? 2 ds).map Int.ofNat
    | '-' :: ds => (decimal? ds).map fun n => -(n : Int)
    | '+' :: ds => (decimal? ds).map Int.ofNat
    | ds => (decimal? ds).map Int.ofNat
  if Word.fitsSigned n then some n else none

/-! ## Keys -/

/-- Whether a character may stand in a key without quotes. -/
def isBare (c : Char) : Bool := c.isAlphanum || c = '_' || c = '-'

/-- One name of a key. -/
def name : List Char → Step String
  | '"' :: rest => (basicText rest).map fun (cs, r) => (String.ofList cs, r)
  | '\x27' :: rest => (literalText rest).map fun (cs, r) => (String.ofList cs, r)
  | s =>
    let bare := s.takeWhile isBare
    if bare.isEmpty then .error .malformed
    else .ok (String.ofList bare, s.dropWhile isBare)

/-- A key: names with points between them, and blanks around each. -/
def key (s : List Char) : Step (List String) :=
  match name (skipBlanks s) with
  | .error e => .error e
  | .ok (n, rest) =>
    match skipBlanks rest with
    | '.' :: more =>
      if _h : more.length < s.length then (key more).map fun (ns, r) => (n :: ns, r)
      else .error .malformed
    | rest => .ok ([n], rest)
termination_by s.length

end DataMart.Toml
