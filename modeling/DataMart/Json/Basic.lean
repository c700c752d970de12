import DataMart.Word

/-!
# JSON values

A JSON number is either an integer that fits 64 bits, signed or unsigned, or a floating-point
number; the two are never equal. The members of an object stand in a list. A value that was read
from text has them sorted by name with no name twice (`insert` keeps it so), while an object that is
only written, such as a result row, may list its members in any order and repeat names.
-/

namespace DataMart

/-- A number in JSON. -/
inductive Json.Number where
  /-- A whole number from -2^63 to 2^64 - 1. -/
  | int (n : Int)
  /-- Any other number. -/
  | real (x : Float)

/-- A JSON value. -/
inductive Json where
  | null
  | bool (b : Bool)
  | number (n : Json.Number)
  | text (s : String)
  | list (items : List Json)
  | object (members : List (String × Json))

namespace Json

instance : Inhabited Json := ⟨.null⟩

/-- Numbers are the same if they are of one kind and equal as numbers. -/
def Number.same : Number → Number → Bool
  | .int a, .int b => a == b
  | .real x, .real y => x == y
  | _, _ => false

mutual

/-- Whether two values are the same. -/
def same : Json → Json → Bool
  | .null, .null => true
  | .bool a, .bool b => a == b
  | .number a, .number b => a.same b
  | .text a, .text b => a == b
  | .list a, .list b => sameItems a b
  | .object a, .object b => sameMembers a b
  | _, _ => false

/-- Whether two lists of values are the same. -/
def sameItems : List Json → List Json → Bool
  | [], [] => true
  | a :: as, b :: bs => same a b && sameItems as bs
  | _, _ => false

/-- Whether two lists of members are the same. -/
def sameMembers : List (String × Json) → List (String × Json) → Bool
  | [], [] => true
  | (k, a) :: as, (l, b) :: bs => k == l && same a b && sameMembers as bs
  | _, _ => false

end

instance : BEq Json := ⟨same⟩

/-- Put a member into a list of members sorted by name, in place of one with the same name. -/
def insert (name : String) (value : Json) : List (String × Json) → List (String × Json)
  | [] => [(name, value)]
  | (k, v) :: rest =>
    if name = k then (name, value) :: rest
    else if name < k then (name, value) :: (k, v) :: rest
    else (k, v) :: insert name value rest

/-- A whole number as JSON. -/
def ofInt (n : Int) : Json := .number (.int n)

/-- A natural number as JSON. -/
def ofNat (n : Nat) : Json := .number (.int n)

/-- A floating-point number as JSON; what is not finite has no JSON number and becomes null. -/
def ofFloat (x : Float) : Json := if x.isFinite then .number (.real x) else .null

/-- The integer a value holds, if it is one that fits 64 bits with a sign. -/
def int64? : Json → Option Int
  | .number (.int n) => if n < (Word.signedEnd : Int) then some n else none
  | _ => none

/-- The member of an object with a given name. -/
def get? (name : String) : Json → Option Json
  | .object members => members.lookup name
  | _ => none

end Json

end DataMart
