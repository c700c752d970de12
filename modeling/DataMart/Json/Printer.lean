import DataMart.Json.Basic
import DataMart.Decimal.Layout

/-!
# JSON in text

`Json.compact` writes a value without any blanks. `Json.pretty` writes each member and each item on
a line of its own, two blanks deeper than what holds it; an empty object or list stays closed up. In
a text only the quote, the backslash and the characters below U+0020 are escaped, five of them by a
letter and the others by four hexadecimal digits.
-/

namespace DataMart.Json

/-- A hexadecimal digit, small letters. -/
def hexDigit (n : Nat) : Char := Nat.digitChar n

/-- A character of a text as it stands between quotes. -/
def escapeChar (c : Char) : List Char :=
  if c = '"' then ['\\', '"']
  else if c = '\\' then ['\\', '\\']
  else if c = '\n' then ['\\', 'n']
  else if c = '\r' then ['\\', 'r']
  else if c = '\t' then ['\\', 't']
  else if c = '\x08' then ['\\', 'b']
  else if c = '\x0c' then ['\\', 'f']
  else if c.toNat < 32 then ['\\', 'u', '0', '0', hexDigit (c.toNat / 16), hexDigit (c.toNat % 16)]
  else [c]

/-- A text between quotes. -/
def quoted (s : String) : String := String.ofList ('"' :: s.toList.flatMap escapeChar ++ ['"'])

/-- A number. -/
def Number.print : Number → String
  | .int n => toString n
  | .real x => Decimal.inJson x

mutual

/-- A value in text without blanks. -/
def compact : Json → String
  | .null => "null"
  | .bool true => "true"
  | .bool false => "false"
  | .number n => n.print
  | .text s => quoted s
  | .list [] => "[]"
  | .list (item :: rest) => "[" ++ compact item ++ compactItems rest ++ "]"
  | .object [] => "\x7b\x7d"
  | .object ((name, value) :: rest) =>
    "\x7b" ++ quoted name ++ ":" ++ compact value ++ compactMembers rest ++ "\x7d"

/-- Further items of a list, each behind a comma. -/
def compactItems : List Json → String
  | [] => ""
  | item :: rest => "," ++ compact item ++ compactItems rest

/-- Further members of an object, each behind a comma. -/
def compactMembers : List (String × Json) → String
  | [] => ""
  | (name, value) :: rest =>
    "," ++ quoted name ++ ":" ++ compact value ++ compactMembers rest

end

/-- A new line, indented by two blanks a level. -/
def newLine (depth : Nat) : String := String.ofList ('\n' :: List.replicate (2 * depth) ' ')

mutual

/-- A value in text over several lines, itself standing at `depth`. -/
def prettyAt (depth : Nat) : Json → String
  | .null => "null"
  | .bool true => "true"
  | .bool false => "false"
  | .number n => n.print
  | .text s => quoted s
  | .list [] => "[]"
  | .list (item :: rest) =>
    "[" ++ newLine (depth + 1) ++ prettyAt (depth + 1) item ++ prettyItems (depth + 1) rest ++
      newLine depth ++ "]"
  | .object [] => "\x7b\x7d"
  | .object ((name, value) :: rest) =>
    "\x7b" ++ newLine (depth + 1) ++ quoted name ++ ": " ++ prettyAt (depth + 1) value ++
      prettyMembers (depth + 1) rest ++ newLine depth ++ "\x7d"

/-- Further items of a list, each on a line of its own. -/
def prettyItems (depth : Nat) : List Json → String
  | [] => ""
  | item :: rest => "," ++ newLine depth ++ prettyAt depth item ++ prettyItems depth rest

/-- Further members of an object, each on a line of its own. -/
def prettyMembers (depth : Nat) : List (String × Json) → String
  | [] => ""
  | (name, value) :: rest =>
    "," ++ newLine depth ++ quoted name ++ ": " ++ prettyAt depth value ++
      prettyMembers depth rest

end

/-- A value in text over several lines. -/
def pretty (v : Json) : String := prettyAt 0 v

end DataMart.Json
