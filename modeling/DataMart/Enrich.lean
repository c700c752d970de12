import DataMart.Fault
import DataMart.Record

/-!
# Customer details

Rows of a result that carry a customer's id are given the customer's name and contact. The details
come from a directory outside, which is asked once, for all ids at a time. A customer that the
directory does not know gets nulls; that is no fault.
-/

namespace DataMart

/-- What a directory knows of a customer. -/
structure Contact where
  customer : Int
  name : Option String := none
  contact : Option String := none
  deriving DecidableEq, Repr

/-- Finds customers by their ids. -/
abbrev Directory := List Int → Except Fault (List Contact)

/-- How many rows were given details, and how many were not. -/
structure EnrichStats where
  matched : Nat := 0
  unmatched : Nat := 0
  deriving DecidableEq, Repr

namespace EnrichStats

/-- The counts in JSON. -/
def toJson (s : EnrichStats) : Json :=
  .object [("matched", .ofNat s.matched), ("unmatched", .ofNat s.unmatched)]

end EnrichStats

namespace Directory

/-- The last contact of a customer in a list. -/
def lastOf (contacts : List Contact) (id : Int) : Option Contact :=
  contacts.reverse.find? fun c => c.customer == id

/-- A directory of fixed contacts, of which the last one of an id counts. -/
def ofContacts (contacts : List Contact) : Directory := fun ids =>
  .ok (ids.filterMap (lastOf contacts))

end Directory

namespace Enrich

/-- Put an id into a strictly increasing list. -/
def insertId (id : Int) : List Int → List Int
  | [] => [id]
  | i :: rest =>
    if id < i then id :: i :: rest
    else if id = i then i :: rest
    else i :: insertId id rest

/-- The id of a row, if it has one that is a whole number of 64 bits. -/
def idOf (column : String) (r : Record) : Option Int := (r.get? column).bind Json.int64?

/-- The ids of the rows, each once, in increasing order. -/
def ids (column : String) (records : List Record) : List Int :=
  (records.filterMap (idOf column)).foldr insertId []

/-- A detail in JSON. -/
def detail (d : Option String) : Json := (d.map Json.text).getD .null

/-- A row with the two fields appended. -/
def withDetails (r : Record) (name contact : Option String) : Record :=
  (r.push "customer_name" (detail name)).push "contact" (detail contact)

/-- The contact of a row in a reply. -/
def contactOf (column : String) (reply : List Contact) (r : Record) : Option Contact :=
  (idOf column r).bind (Directory.lastOf reply)

/-- A row with the details that a reply has for it. -/
def enrichOne (column : String) (reply : List Contact) (r : Record) : Record :=
  match contactOf column reply r with
  | some c => withDetails r c.name c.contact
  | none => withDetails r none none

/-- The rows that a reply has a contact for, counted. -/
def stats (column : String) (reply : List Contact) (records : List Record) : EnrichStats where
  matched := records.countP fun r => (contactOf column reply r).isSome
  unmatched := records.countP fun r => (contactOf column reply r).isNone

/-- What enriching gave: the ids asked for at each look-up, the counts or the directory's fault, and
the rows. -/
structure Enriched where
  lookups : List (List Int)
  result : Except Fault EnrichStats
  records : List Record

/-- Give every row the details of its customer. Without any id the directory is not asked, and if it
fails the rows stay as they are. -/
def enrich (directory : Directory) (column : String) (records : List Record) : Enriched :=
  let wanted := ids column records
  let reply := if wanted.isEmpty then .ok [] else directory wanted
  let lookups := if wanted.isEmpty then [] else [wanted]
  match reply with
  | .error e => ⟨lookups, .error e, records⟩
  | .ok contacts =>
    ⟨lookups, .ok (stats column contacts records), records.map (enrichOne column contacts)⟩

end Enrich

end DataMart
