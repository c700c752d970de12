import DataMart.Postgres.Cursor
import DataMart.Proofs.Load.Release

/-!
# Conversations with a server

What a server is sent in the load of a spec: `Opening` is what it is sent until the cursor of the
query is declared, or something stands in the way, and `Conversation` is all of it. What was sent is
read off what the connector was asked (`exists_said`), so a run is one episode after another, and one
conversation after another (`released_run`).
-/

namespace DataMart.Postgres

/-- A server declares a cursor for a query if it knows of it and nothing is wrong. -/
def Server.Declares (server : Server) (query : String) : Prop :=
  ∃ r, server.relations.find? (fun r => r.answersQuery (stripTerminator query)) = some r ∧
    r.declareError = none

/-- There is a server at an address, and it lets one in. -/
structure Server.Admits (server : Server) (url : String) : Prop where
  scheme : hasScheme url = true
  reachable : server.networkFault = none
  admitted : server.refusal = none

/-- What a server is sent so that it declares a cursor, and what comes of it. -/
inductive Opening (url : String) (server : Server) (query : String) :
    Except Fault Unit → List String → Prop where
  /-- Nothing is sent where there is no server. -/
  | unreachable {e : Fault} (fault : hasScheme url = false ∨ server.networkFault.isSome) :
      Opening url server query (.error e) []
  /-- The server lets nobody in. -/
  | refused {e : Fault} (scheme : hasScheme url = true) (reachable : server.networkFault = none)
      (refusal : server.refusal.isSome) :
      Opening url server query (.error e) ["connect", "refused"]
  /-- The transaction cannot be begun. -/
  | unbegun {e : Fault} (admits : server.Admits url) (fault : server.beginError.isSome) :
      Opening url server query (.error e) ["connect", beginText, "terminate"]
  /-- The cursor cannot be declared. -/
  | undeclared {e : Fault} (admits : server.Admits url) (begun : server.beginError = none)
      (fault : ¬ server.Declares query) :
      Opening url server query (.error e) ["connect", beginText, declareText query, "terminate"]
  /-- The cursor is declared. -/
  | declared (admits : server.Admits url) (begun : server.beginError = none)
      (declares : server.Declares query) :
      Opening url server query (.ok ()) ["connect", beginText, declareText query]

/-- What a server is sent in the load of a query: if the cursor is declared, at least one fetch of
`n` rows, and then what closes it, once. -/
inductive Conversation (url : String) (server : Server) (n : Nat) (query : String) :
    List String → Prop where
  | broken {e : Fault} {lines : List String} (opening : Opening url server query (.error e) lines) :
      Conversation url server n query lines
  | held {lines : List String} (opening : Opening url server query (.ok ()) lines) (k : Nat) :
      Conversation url server n query
        (lines ++ List.replicate (k + 1) (fetchText n) ++ [closeText, "terminate"])

/-- What a server is sent for one question to the connector. -/
def Says (url : String) (server : Server) : Event → List String → Prop
  | .opened query answer, lines => Opening url server query answer lines
  | .fetched n _ _, lines => lines = [fetchText n]
  | .closed _, lines => lines = [closeText, "terminate"]

namespace Session

/-- What a session sends so that a cursor is declared, once there is an address. -/
theorem exists_opening {url : String} (scheme : hasScheme url = true) (query : String)
    (s : Session) :
    ∃ lines, Opening url s.server query (s.connect query).1 lines ∧
      (s.connect query).2.server = s.server ∧
      (s.connect query).2.log.reverse = s.log.reverse ++ lines := by
  cases reachable : s.server.networkFault with
  | some e =>
      simp only [connect, reachable]
      exact ⟨_, .unreachable (.inr (by rw [reachable]; rfl)), trivial, (List.append_nil _).symm⟩
  | none =>
      cases admitted : s.server.refusal with
      | some e =>
          simp only [connect, note, reachable, admitted]
          exact ⟨_, .refused scheme reachable (by rw [admitted]; rfl), trivial, by simp⟩
      | none =>
          have admits : s.server.Admits url := ⟨scheme, reachable, admitted⟩
          cases begun : s.server.beginError with
          | some e =>
              simp only [connect, note, reachable, admitted, begun]
              exact ⟨_, .unbegun admits (by rw [begun]; rfl), trivial, by simp⟩
          | none =>
              cases found : s.server.relations.find?
                  (fun r => r.answersQuery (stripTerminator query)) with
              | none =>
                  have unknown : ¬ s.server.Declares query := by
                    rintro ⟨r, hr, -⟩
                    rw [found] at hr
                    cases hr
                  simp only [connect, note, reachable, admitted, begun, found]
                  exact ⟨_, .undeclared admits begun unknown, trivial, by simp⟩
              | some r =>
                  cases declared : r.declareError with
                  | some e =>
                      have faulty : ¬ s.server.Declares query := by
                        rintro ⟨r', hr', hnone⟩
                        rw [found] at hr'
                        cases hr'
                        rw [declared] at hnone
                        cases hnone
                      simp only [connect, note, reachable, admitted, begun, found, declared]
                      exact ⟨_, .undeclared admits begun faulty, trivial, by simp⟩
                  | none =>
                      simp only [connect, note, reachable, admitted, begun, found, declared]
                      exact ⟨_, .declared admits begun ⟨r, found, declared⟩, trivial, by simp⟩

/-- What a session sends to fetch rows. -/
theorem sent_fetch (n : Nat) (s : Session) :
    (s.fetch n).2.server = s.server ∧ (s.fetch n).2.log = fetchText n :: s.log := by
  unfold fetch
  dsimp only
  split
  · exact ⟨rfl, rfl⟩
  · split <;> exact ⟨rfl, rfl⟩

end Session

variable {url : String} {server : Server} {n : Nat}

/-- What opening a source sends. The server stays as it is. -/
theorem exists_opening (url query : String) (s : Session) :
    ∃ lines, Opening url s.server query ((connectorAt url).connect query s).1 lines ∧
      ((connectorAt url).connect query s).2.server = s.server ∧
      ((connectorAt url).connect query s).2.log.reverse = s.log.reverse ++ lines := by
  have hconnect : (connectorAt url).connect query s = if hasScheme url then s.connect query
      else (.error (.sourceUnavailable "error with configuration: relative URL without a base"),
        s) := rfl
  rw [hconnect]
  split
  · rename_i scheme
    exact Session.exists_opening scheme query s
  · rename_i scheme
    exact ⟨[], .unreachable (.inl (eq_false_of_ne_true scheme)), rfl,
      (List.append_nil _).symm⟩

/-- What was sent since `s` is what the server at the address is sent for all that the connector was
asked. -/
structure Said (url : String) (s : Session) (w : Watched Session) : Prop where
  server_eq : w.state.server = s.server
  exists_said : ∃ said, List.Forall₂ (Says url s.server) w.events said ∧
    w.state.log.reverse = s.log.reverse ++ said.flatten

/-- One more question, and what is sent for it. -/
theorem Said.step {s : Session} {w w' : Watched Session} (h : Said url s w) {event : Event}
    {lines : List String} (hevents : w'.events = w.events ++ [event])
    (hlines : Says url w.state.server event lines) (hserver : w'.state.server = w.state.server)
    (hlog : w'.state.log.reverse = w.state.log.reverse ++ lines) : Said url s w' := by
  obtain ⟨said, hsaid, hsent⟩ := h.exists_said
  rw [h.server_eq] at hlines
  refine ⟨hserver.trans h.server_eq, said ++ [lines], ?_, ?_⟩
  · rw [hevents]
    exact List.rel_append hsaid (.cons hlines .nil)
  · rw [hlog, hsent, List.flatten_append, List.flatten_singleton, List.append_assoc]

/-- So it is whatever the connector was asked. -/
theorem said_of_reaches {s : Session} {w : Watched Session}
    (h : (connectorAt url).watched.Reaches ⟨s, []⟩ w) : Said url s w := by
  induction h with
  | start => exact ⟨rfl, [], .nil, (List.append_nil _).symm⟩
  | @connect w _ query ih =>
      obtain ⟨lines, hopening, hserver, hlog⟩ := exists_opening url query w.state
      exact ih.step rfl hopening hserver hlog
  | @fetch w _ n m ih =>
      obtain ⟨hserver, hlog⟩ := w.state.sent_fetch n
      refine ih.step rfl (show Says url _ (.fetched n _ _) _ from rfl) hserver ?_
      exact (congrArg List.reverse hlog).trans List.reverse_cons
  | @close w _ m ih =>
      refine ih.step rfl (show Says url _ (.closed _) _ from rfl) rfl ?_
      exact (List.reverse_append : (["terminate", closeText] ++ w.state.log).reverse = _)

/-! ## Conversations -/

/-- What is said for some questions and then for others. -/
theorem exists_append_of_forall₂ {first second : List Event} {said : List (List String)}
    (h : List.Forall₂ (Says url server) (first ++ second) said) :
    ∃ said₁ said₂, said = said₁ ++ said₂ ∧ List.Forall₂ (Says url server) first said₁ ∧
      List.Forall₂ (Says url server) second said₂ :=
  ⟨_, _, (List.take_append_drop first.length said).symm,
    (List.forall₂_take_append said first second h.flip).flip,
    (List.forall₂_drop_append said first second h.flip).flip⟩

/-- For the fetches of an episode a server is sent just as many fetches. -/
theorem exists_replicate_of_fetches {load : TableLoad} {fetches : List Event}
    (h : Fetches n load fetches) {said : List (List String)}
    (hsaid : List.Forall₂ (Says url server) fetches said) :
    ∃ k, said.flatten = List.replicate (k + 1) (fetchText n) := by
  induction h generalizing said with
  | last halts =>
      obtain - | ⟨rfl, - | -⟩ := hsaid
      exact ⟨0, rfl⟩
  | more full written later ih =>
      obtain - | ⟨rfl, hrest⟩ := hsaid
      obtain ⟨k, hk⟩ := ih hrest
      exact ⟨k + 1, congrArg (fetchText n :: ·) hk⟩

/-- For an episode a server is sent a conversation. -/
theorem conversation_of_episode {spec : TableSpec} {episode : List Event}
    (h : Episode n spec episode) {said : List (List String)}
    (hsaid : List.Forall₂ (Says url server) episode said) :
    Conversation url server n spec.query said.flatten := by
  cases h with
  | unopened =>
      obtain - | ⟨hopening, - | -⟩ := hsaid
      rw [List.flatten_singleton]
      exact .broken hopening
  | released answer fetched =>
      -- what was said is cut as the episode is: the opening, the fetches, the closing
      obtain - | ⟨hopening, hrest⟩ := hsaid
      obtain ⟨said₁, said₂, rfl, hfetches, hclosed⟩ := exists_append_of_forall₂ hrest
      obtain ⟨k, hk⟩ := exists_replicate_of_fetches fetched hfetches
      obtain - | ⟨rfl, - | -⟩ := hclosed
      rw [List.flatten_cons, List.flatten_append, hk, List.flatten_singleton, ← List.append_assoc]
      exact .held hopening k

/-- For one episode after another a server is sent one conversation after another. -/
theorem exists_conversations {specs : List TableSpec} {episodes : List (List Event)}
    (h : List.Forall₂ (Episode n) specs episodes) {said : List (List String)}
    (hsaid : List.Forall₂ (Says url server) episodes.flatten said) :
    ∃ conversations, List.Forall₂ (fun spec => Conversation url server n spec.query) specs
      conversations ∧ said.flatten = conversations.flatten := by
  induction h generalizing said with
  | nil =>
      obtain - | - := hsaid
      exact ⟨[], .nil, rfl⟩
  | cons hepisode _ ih =>
      obtain ⟨said₁, said₂, rfl, hfirst, hrest⟩ := exists_append_of_forall₂ hsaid
      obtain ⟨conversations, hconversations, heq⟩ := ih hrest
      refine ⟨_, .cons (conversation_of_episode hepisode hfirst) hconversations, ?_⟩
      rw [List.flatten_append, heq, List.flatten_cons]

end DataMart.Postgres

namespace DataMart.Pipeline

end DataMart.Pipeline
