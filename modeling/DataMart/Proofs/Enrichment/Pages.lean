import Mathlib.Data.List.Nodup
import DataMart.Proofs.Enrichment

/-!
# Rows enriched page by page

A directory is asked once for all ids of a list of rows. If what it replies for an id does not depend
on the other ids that it is asked for (`Directory.Steady`), every row is given what it would be given
in any other list: how the rows of a result are cut into pages, or in which order they come, does not
matter.

* `steady_ofContacts`: a directory of fixed contacts is of that kind.
* `contactOf_eq_of_mem`: two lists that share a row find the same contact for it.
* `enrich_pages`: two pages behind each other, and the rows of a page in another order.
-/

namespace DataMart

/-- The members of a list that stand at some places, in the order in which the places are given. -/
def picked {α : Type} (places : List Nat) (l : List α) : List α := places.filterMap (l[·]?)

section picked

variable {α β : Type} {l : List α} {places : List Nat}

theorem mem_of_mem_picked {a : α} (h : a ∈ picked places l) : a ∈ l := by
  obtain ⟨i, -, hi⟩ := List.mem_filterMap.1 h
  exact List.mem_of_getElem? hi

theorem picked_map (f : α → β) (places : List Nat) (l : List α) :
    picked places (l.map f) = (picked places l).map f := by
  simp only [picked, List.map_filterMap, List.getElem?_map]

/-- Every place in order gives the list itself. -/
theorem picked_range (l : List α) : picked (List.range l.length) l = l := by
  induction l with
  | nil => rfl
  | cons a l ih =>
      have hshift : (List.range l.length).filterMap (fun i => (a :: l)[i + 1]?) = l := by
        simpa [picked] using ih
      rw [picked, List.length_cons, List.range_succ_eq_map, List.filterMap_cons,
        List.filterMap_map]
      exact congrArg (a :: ·) hshift

/-- Every place once, in some order, gives a permutation. -/
theorem picked_perm (h : places.Perm (List.range l.length)) : (picked places l).Perm l := by
  have hperm := h.filterMap (l[·]?)
  rwa [show (List.range l.length).filterMap (l[·]?) = l from picked_range l] at hperm

end picked

/-! ## Directories -/

namespace Directory

/-- What a directory can be asked for: some ids, each once, in increasing order. -/
structure Askable (ids : List Int) : Prop where
  some : ids ≠ []
  increasing : ids.Pairwise (· < ·)

/-- The contacts that a reply has for an id. -/
def repliedFor (id : Int) (reply : List Contact) : List Contact :=
  reply.filter fun c => c.customer = id

/-- A directory does not fail, and what it replies for an id does not depend on the other ids that it
is asked for. -/
structure Steady (directory : Directory) : Prop where
  answers : ∀ ids, Askable ids → ∃ reply, directory ids = .ok reply
  alike : ∀ ids ids' reply reply', Askable ids → Askable ids' →
    directory ids = .ok reply → directory ids' = .ok reply' →
    ∀ id ∈ ids, id ∈ ids' → repliedFor id reply = repliedFor id reply'

variable {directory : Directory} {contacts reply : List Contact} {id : Int} {ids : List Int}

/-- Only the contacts of a customer count for it. -/
theorem lastOf_repliedFor (id : Int) (reply : List Contact) :
    lastOf (repliedFor id reply) id = lastOf reply id := by
  simp only [lastOf, repliedFor, ← List.filter_reverse, List.find?_filter]
  congr 1
  funext c
  by_cases h : c.customer = id <;> simp [h]

/-- A contact that is found for an id is one of that customer. -/
theorem customer_of_lastOf {c : Contact} (h : lastOf contacts id = some c) : c.customer = id :=
  (lastOf_eq_some_iff.1 h).1

/-- Of the contacts that are found for some ids, those of one of them. -/
theorem repliedFor_filterMap (hids : ids.Nodup) (h : id ∈ ids) :
    repliedFor id (ids.filterMap (lastOf contacts)) = (lastOf contacts id).toList := by
  have hfound (i : Int) : (lastOf contacts i).filter (fun c => c.customer = id) =
      if i = id then lastOf contacts i else none := by
    cases hi : lastOf contacts i with
    | none => simp
    | some c => simp [Option.filter_some, customer_of_lastOf hi]
  have hone : ids.filter (fun i => i = id) = [id] := by
    rw [List.filter_eq, List.count_eq_one_of_mem hids h]
    rfl
  calc repliedFor id (ids.filterMap (lastOf contacts))
      = (ids.filter fun i => i = id).filterMap (lastOf contacts) := by
        rw [repliedFor, List.filter_filterMap, List.filterMap_filter]
        simp only [hfound, decide_eq_true_eq]
    _ = (lastOf contacts id).toList := by
        rw [hone]
        cases h : lastOf contacts id <;> simp [h]

/-- **A directory of fixed contacts is steady.** -/
theorem steady_ofContacts (contacts : List Contact) : Steady (ofContacts contacts) where
  answers ids _ := ⟨_, rfl⟩
  alike := by
    intro ids ids' reply reply' hids hids' hreply hreply' id hmem hmem'
    obtain rfl := Except.ok.inj hreply
    obtain rfl := Except.ok.inj hreply'
    have hnodup : ∀ {l : List Int}, Askable l → l.Nodup := fun h =>
      h.increasing.imp fun hlt => Int.ne_of_lt hlt
    rw [repliedFor_filterMap (hnodup hids) hmem, repliedFor_filterMap (hnodup hids') hmem']

end Directory

namespace Enrich

open Directory (Askable Steady repliedFor lastOf lastOf_repliedFor)

variable {directory : Directory} {column : String} {rows rows' : List Record} {r : Record}
  {reply reply' : List Contact} {id : Int}

/-! ## Rows that are shared -/

/-- A steady directory replies to what it is asked for some rows. -/
theorem exists_replyTo (h : Steady directory) (column : String) (rows : List Record) :
    ∃ reply, replyTo directory (ids column rows) = .ok reply := by
  unfold replyTo
  split_ifs with hnone
  · exact ⟨[], rfl⟩
  · exact h.answers _ ⟨hnone, pairwise_ids⟩

/-- Where an id is asked for the reply comes from the directory. -/
theorem asked_of_mem (hreply : replyTo directory (ids column rows) = .ok reply)
    (hid : id ∈ ids column rows) :
    Askable (ids column rows) ∧ directory (ids column rows) = .ok reply := by
  have hsome : ids column rows ≠ [] := List.ne_nil_of_mem hid
  rw [replyTo, if_neg hsome] at hreply
  exact ⟨⟨hsome, pairwise_ids⟩, hreply⟩

/-- **A row finds the same contact in whatever list it stands.** -/
theorem contactOf_eq_of_mem (h : Steady directory)
    (hreply : replyTo directory (ids column rows) = .ok reply)
    (hreply' : replyTo directory (ids column rows') = .ok reply') (hr : r ∈ rows)
    (hr' : r ∈ rows') : contactOf column reply r = contactOf column reply' r := by
  unfold contactOf
  cases hid : idOf column r with
  | none => rfl
  | some id =>
      have hhas := idOf_eq_some_iff.1 hid
      have hmem : id ∈ ids column rows := mem_ids.2 ⟨r, hr, hhas⟩
      have hmem' : id ∈ ids column rows' := mem_ids.2 ⟨r, hr', hhas⟩
      obtain ⟨hask, hasked⟩ := asked_of_mem hreply hmem
      obtain ⟨hask', hasked'⟩ := asked_of_mem hreply' hmem'
      have hsame := h.alike _ _ _ _ hask hask' hasked hasked' id hmem hmem'
      rw [Option.bind_some, Option.bind_some, ← lastOf_repliedFor id reply, hsame,
        lastOf_repliedFor]

/-- So a list gives its rows the details that any list around it gives them. -/
theorem map_enrichOne_eq (h : Steady directory)
    (hreply : replyTo directory (ids column rows) = .ok reply)
    (hreply' : replyTo directory (ids column rows') = .ok reply') (hsub : rows' ⊆ rows) :
    rows'.map (enrichOne column reply) = rows'.map (enrichOne column reply') := by
  refine List.map_congr_left fun r hr => ?_
  rw [enrichOne, enrichOne, contactOf_eq_of_mem h hreply hreply' (hsub hr) hr]

/-- And as many of them. -/
theorem stats_eq (h : Steady directory)
    (hreply : replyTo directory (ids column rows) = .ok reply)
    (hreply' : replyTo directory (ids column rows') = .ok reply') (hsub : rows' ⊆ rows) :
    stats column reply rows' = stats column reply' rows' := by
  have hsame : ∀ r ∈ rows', contactOf column reply r = contactOf column reply' r :=
    fun r hr => contactOf_eq_of_mem h hreply hreply' (hsub hr) hr
  rw [stats, stats, EnrichStats.mk.injEq]
  constructor <;> exact List.countP_congr fun r hr => by rw [hsame r hr]

theorem stats_append (column : String) (reply : List Contact) (xs ys : List Record) :
    stats column reply (xs ++ ys) =
      ⟨(stats column reply xs).matched + (stats column reply ys).matched,
        (stats column reply xs).unmatched + (stats column reply ys).unmatched⟩ := by
  simp only [stats, List.countP_append]

theorem stats_perm {xs ys : List Record} (h : xs.Perm ys) :
    stats column reply xs = stats column reply ys := by
  simp only [stats, h.countP_eq]

/-! ## Pages -/

/-- **Enriching does not depend on how rows are cut into pages or ordered.** With a steady directory
two pages behind each other are enriched as each of them by itself, and the counts add up. The rows of
a page in another order are given the same details in that order, and are counted the same. -/
theorem enrich_pages (h : Steady directory) (column : String) (xs ys : List Record) :
    (∃ s t, (enrich directory column xs).result = .ok s ∧
      (enrich directory column ys).result = .ok t ∧
      (enrich directory column (xs ++ ys)).result =
        .ok ⟨s.matched + t.matched, s.unmatched + t.unmatched⟩ ∧
      (enrich directory column (xs ++ ys)).records =
        (enrich directory column xs).records ++ (enrich directory column ys).records) ∧
    ∀ places : List Nat, places.Perm (List.range xs.length) →
      (enrich directory column (picked places xs)).result = (enrich directory column xs).result ∧
      (enrich directory column (picked places xs)).records =
        picked places (enrich directory column xs).records := by
  obtain ⟨replyX, hx⟩ := exists_replyTo h column xs
  obtain ⟨hresultX, hrecordsX⟩ := enrich_eq_of_ok hx
  constructor
  · obtain ⟨replyY, hy⟩ := exists_replyTo h column ys
    obtain ⟨reply, hreply⟩ := exists_replyTo h column (xs ++ ys)
    obtain ⟨hresultY, hrecordsY⟩ := enrich_eq_of_ok hy
    obtain ⟨hresult, hrecords⟩ := enrich_eq_of_ok hreply
    have hsubX : xs ⊆ xs ++ ys := List.subset_append_left xs ys
    have hsubY : ys ⊆ xs ++ ys := List.subset_append_right xs ys
    refine ⟨_, _, hresultX, hresultY, ?_, ?_⟩
    · rw [hresult, stats_append, stats_eq h hreply hx hsubX, stats_eq h hreply hy hsubY]
    · rw [hrecords, hrecordsX, hrecordsY, List.map_append,
        map_enrichOne_eq h hreply hx hsubX, map_enrichOne_eq h hreply hy hsubY]
  · intro places hplaces
    obtain ⟨reply, hreply⟩ := exists_replyTo h column (picked places xs)
    obtain ⟨hresult, hrecords⟩ := enrich_eq_of_ok hreply
    have hsub : picked places xs ⊆ xs := fun r hr => mem_of_mem_picked hr
    constructor
    · rw [hresult, hresultX, ← stats_eq h hx hreply hsub, stats_perm (picked_perm hplaces)]
    · rw [hrecords, hrecordsX, picked_map, map_enrichOne_eq h hx hreply hsub]

/-- Two pages of sales: one customer is on both, another on the first, and two sales have none. -/
def twoPages : List Record × List Record :=
  (threeSales, [⟨[("customer_id", .null)]⟩, ⟨[("customer_id", .number (.int 7))]⟩])

/-- A directory that knows both customers. -/
def twoCustomers : Directory := Directory.ofContacts [⟨2, some "Rui", none⟩, ⟨7, some "Ana", none⟩]

/-- Together the pages match three rows, as many as one after the other, and the first page in another
order matches its two. -/
theorem twoPages_enriched :
    Steady twoCustomers ∧
    (enrich twoCustomers "customer_id" (twoPages.1 ++ twoPages.2)).result = .ok ⟨3, 2⟩ ∧
    (enrich twoCustomers "customer_id" (picked [2, 0, 1] twoPages.1)).result = .ok ⟨2, 1⟩ := by
  have hsteady : Steady twoCustomers := Directory.steady_ofContacts _
  obtain ⟨⟨s, t, hs, ht, hsum, -⟩, horder⟩ :=
    enrich_pages hsteady "customer_id" twoPages.1 twoPages.2
  have hfirst : (enrich twoCustomers "customer_id" twoPages.1).result = .ok ⟨2, 1⟩ := rfl
  have hsecond : (enrich twoCustomers "customer_id" twoPages.2).result = .ok ⟨1, 1⟩ := rfl
  obtain rfl := Except.ok.inj (hs.symm.trans hfirst)
  obtain rfl := Except.ok.inj (ht.symm.trans hsecond)
  exact ⟨hsteady, hsum, (horder [2, 0, 1] (by decide)).1.trans hfirst⟩

end Enrich

end DataMart
