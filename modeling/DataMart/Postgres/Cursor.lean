import DataMart.Extract.Connector
import DataMart.Postgres.Types

/-!
# Cursors of PostgreSQL

A query is extracted through a cursor inside a read-only transaction: the transaction is begun, the
cursor declared, rows are fetched in order, and one text closes the cursor and ends the transaction.
Each query has a connection of its own.

The server is known by what it answers, and a `Session` of it keeps a log of what it was sent. If the
transaction or the cursor is refused, the connection is ended at once.
-/

namespace DataMart.Postgres

/-- The name of the cursor. -/
def cursorName : String := "salesmart_extract"

/-- The text that begins the transaction. -/
def beginText : String := "BEGIN READ ONLY"

/-- The text that declares the cursor of a query. -/
def declareText (query : String) : String :=
  "DECLARE " ++ cursorName ++ " NO SCROLL CURSOR FOR " ++ stripTerminator query

/-- The text that fetches the next rows. -/
def fetchText (n : Nat) : String := "FETCH FORWARD " ++ toString n ++ " FROM " ++ cursorName

/-- The text that closes the cursor and ends the transaction. -/
def closeText : String := "CLOSE " ++ cursorName ++ "; COMMIT"

/-- Which queries a relation answers. -/
inductive Match where
  /-- The query with exactly this text. -/
  | query (text : String)
  /-- Every query in which this text stands. -/
  | part (text : String)

/-- What the server has for some queries, and the faults it answers with. -/
structure Relation where
  answers : Match
  columns : List ResultColumn := []
  rows : List (List (Option String)) := []
  declareError : Option String := none
  /-- The fetch, counted from one, that is cancelled. -/
  fetchErrorAt : Option Nat := none
  closeError : Option String := none

/-- A server, or the reason why it cannot be reached. -/
structure Server where
  relations : List Relation := []
  beginError : Option String := none
  /-- The server answers, but lets nobody in. -/
  refusal : Option String := none
  /-- The network does not reach the server. -/
  networkFault : Option String := none

/-- A cursor that was declared: its relation, the rows not fetched yet, and the fetches so far. -/
structure Cursor where
  relation : Relation
  rows : List (List (Option String))
  fetches : Nat := 0

/-- What was sent to a server so far, newest first, and the cursor that is open. -/
structure Session where
  server : Server
  log : List String := []
  cursor : Option Cursor := none

/-- Whether a relation answers a query. -/
def Relation.answersQuery (r : Relation) (query : String) : Bool :=
  match r.answers with
  | .query text => text == query
  | .part text => occurs text.toList query.toList
where
  /-- Whether one text stands somewhere in another. -/
  occurs (part : List Char) : List Char → Bool
    | [] => part.isEmpty
    | c :: rest => part.isPrefixOf (c :: rest) || occurs part rest

/-- An error of the server as it reaches the caller. -/
def fromServer (text : String) : String := "error returned from database: " ++ text

namespace Session

/-- Write a line into the log. -/
def note (s : Session) (line : String) : Session := { s with log := line :: s.log }

/-- Connect, begin the transaction and declare the cursor of a query. -/
def connect (query : String) (s : Session) : Except Fault Unit × Session :=
  let s := { s with cursor := none }
  match s.server.networkFault with
  | some e => (.error (.sourceUnavailable ("error communicating with database: " ++ e)), s)
  | none =>
    let s := s.note "connect"
    match s.server.refusal with
    | some e => (.error (.sourceUnavailable (fromServer e)), s.note "refused")
    | none =>
      let s := s.note beginText
      match s.server.beginError with
      | some e => (.error (.sourceQuery (fromServer e)), s.note "terminate")
      | none =>
        let s := s.note (declareText query)
        match s.server.relations.find? fun r => r.answersQuery (stripTerminator query) with
        | none => (.error (.sourceQuery (fromServer "relation does not exist")), s.note "terminate")
        | some r =>
          match r.declareError with
          | some e => (.error (.sourceQuery (fromServer e)), s.note "terminate")
          | none => (.ok (), { s with cursor := some { relation := r, rows := r.rows } })

/-- Fetch the next rows. -/
def fetch (n : Nat) (s : Session) : Except Fault Batch × Session :=
  let s := s.note (fetchText n)
  match s.cursor with
  | none => (.error (.sourceQuery (fromServer "cursor does not exist")), s)
  | some c =>
    let counted := { c with fetches := c.fetches + 1 }
    if c.relation.fetchErrorAt = some counted.fetches then
      (.error (.sourceQuery (fromServer "canceling statement due to conflict with recovery")),
        { s with cursor := some counted })
    else
      (batchOfRows c.relation.columns (c.rows.take n),
        { s with cursor := some { counted with rows := c.rows.drop n } })

/-- Close the cursor and end the connection. -/
def close (s : Session) : Except Fault Unit × Session :=
  let s := s.note closeText
  let answer := match s.cursor.bind fun c => c.relation.closeError with
    | some e => .error (.sourceQuery (fromServer e))
    | none => .ok ()
  (answer, { s.note "terminate" with cursor := none })

/-- Go away without closing anything. -/
def abandon (s : Session) : Session :=
  match s.cursor with
  | some _ => { s.note "hangup" with cursor := none }
  | none => s

/-- The rows that were not fetched yet. -/
def left (s : Session) : Nat := (s.cursor.map fun c => c.rows.length).getD 0

/-- A batch of no rows has no rows. -/
theorem isEmpty_of_batchOfRows {columns : List ResultColumn} {b : Batch}
    (h : batchOfRows columns [] = .ok b) : b.isEmpty = true := by
  simp only [batchOfRows, batchOfRowsWith, List.isEmpty_nil, if_true] at h
  cases h
  rfl

/-- A fetch that gives rows leaves fewer. -/
theorem left_fetch_lt {n : Nat} {s : Session} {b : Batch} (h : (s.fetch n).1 = .ok b)
    (hb : b.isEmpty = false) : (s.fetch n).2.left < s.left := by
  unfold fetch at h ⊢
  simp only [note] at h ⊢
  cases hc : s.cursor with
  | none => simp [hc] at h
  | some c =>
    simp only [hc] at h ⊢
    split at h
    · simp at h
    · rename_i hf
      rw [if_neg hf]
      have hne : (c.rows.take n) ≠ [] := by
        intro he
        simp only [he] at h
        rw [isEmpty_of_batchOfRows h] at hb
        exact Bool.noConfusion hb
      have hlen := List.length_pos_iff.2 hne
      simp only [left, hc, Option.map_some, Option.getD_some, List.length_drop, List.length_take]
        at hlen ⊢
      omega

/-- The open cursor as a source. -/
def source : Source Session where
  fetch := fetch
  close := close
  left := left
  left_fetch h hb := left_fetch_lt h hb

end Session

/-- The connector of a server. -/
def connector : Connector Session := Connector.ofSource Session.connect Session.source

/-! ## Addresses -/

/-- Whether an address names a scheme: a letter, then letters, digits and `+`, `-`, `.` up to a
colon. -/
def hasScheme (url : String) : Bool :=
  let isSchemeChar (c : Char) : Bool := c.isAlphanum || c = '+' || c = '-' || c = '.'
  let s := url.toList.dropWhile fun c => c.toNat ≤ 32
  (s.head?.map Char.isAlpha).getD false && (s.dropWhile isSchemeChar).head? == some ':'

/-- The connector of the server at an address. Without a scheme there is nothing to connect to. -/
def connectorAt (url : String) : Connector Session :=
  let connect (query : String) (s : Session) : Except Fault Unit × Session :=
    if hasScheme url then s.connect query
    else
      (.error (.sourceUnavailable "error with configuration: relative URL without a base"), s)
  Connector.ofSource connect Session.source

end DataMart.Postgres
