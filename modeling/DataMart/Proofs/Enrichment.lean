import Mathlib.Data.List.Forall2
import DataMart.Enrich
import DataMart.Proofs.Json.Parts

/-!
# Rows with the details of their customers

The directory is asked once, for the ids of all rows at a time, and every row is then given what the
reply has for its id. The ids and the reply meet only in the values of the ids: a reply may be short,
be in any order, name a customer twice or one that was not asked for.

* `get?_eq_some_iff`, `lastOf_eq_some_iff`: a later field hides an earlier one of its name, and a
  later contact an earlier one of its customer; both are said by `LastWith`.
* `pairwise_ids`, `mem_ids`: what the directory is asked for.
* `detailed_enrichOne`: what a row is given.
* `enrich_details`: what enriching gives, for any rows and any directory.
-/

namespace DataMart

/-! ## The last member of a kind -/

section last

variable {α : Type} {p : α → Prop} {l : List α} {a : α}

/-- A member of a list is the last one with a property. -/
def LastWith (p : α → Prop) (l : List α) (a : α) : Prop :=
  ∃ before after, l = before ++ a :: after ∧ p a ∧ ∀ b ∈ after, ¬ p b

/-- It is the first one with the property from the end. -/
theorem lastWith_iff_reverse : LastWith p l a ↔
    ∃ after before, l.reverse = after ++ a :: before ∧ p a ∧ ∀ b ∈ after, ¬ p b := by
  constructor
  · rintro ⟨before, after, rfl, ha, hafter⟩
    refine ⟨after.reverse, before.reverse, by simp, ha, ?_⟩
    intro b hb
    exact hafter b (List.mem_reverse.1 hb)
  · rintro ⟨after, before, hl, ha, hafter⟩
    refine ⟨before.reverse, after.reverse, ?_, ha, ?_⟩
    · rw [← List.reverse_reverse l, hl]
      simp
    · intro b hb
      exact hafter b (List.mem_reverse.1 hb)

end last

/-- The field that is found is the last one of its name. -/
theorem Record.get?_eq_some_iff {r : Record} {name : String} {value : Json} :
    r.get? name = some value ↔ LastWith (fun f => f.1 = name) r.fields (name, value) := by
  rw [get?, List.lookup_eq_some_iff, lastWith_iff_reverse]
  simp only [bne_iff_ne, ne_eq, true_and, eq_comm (a := name)]

/-- The contact that is found is the last one of its customer. -/
theorem Directory.lastOf_eq_some_iff {contacts : List Contact} {id : Int} {c : Contact} :
    lastOf contacts id = some c ↔
      c.customer = id ∧ LastWith (fun d => d.customer = c.customer) contacts c := by
  rw [lastOf, List.find?_eq_some_iff_append, lastWith_iff_reverse]
  constructor
  · rintro ⟨hc, after, before, hl, hafter⟩
    obtain rfl : c.customer = id := by simpa using hc
    exact ⟨rfl, after, before, hl, rfl, fun d hd => by simpa using hafter d hd⟩
  · rintro ⟨rfl, after, before, hl, -, hafter⟩
    exact ⟨by simp, after, before, hl, fun d hd => by simpa using hafter d hd⟩

/-- A contact is found for the customers of the list. -/
theorem Directory.isSome_lastOf_iff {contacts : List Contact} {id : Int} :
    (lastOf contacts id).isSome = true ↔ ∃ c ∈ contacts, c.customer = id := by
  simp [lastOf, List.find?_isSome]

/-! ## Ids -/

/-- A row has an id: the last field of the column's name holds it, as a whole number that is not too
great for 64 bits with a sign. None of the numbers that JSON has is too small for that
(`HasId.fits`). -/
def Record.HasId (column : String) (r : Record) (id : Int) : Prop :=
  LastWith (fun f => f.1 = column) r.fields (column, .number (.int id)) ∧
    id < (Word.signedEnd : Int)

/-- The ids of rows that hold JSON are those of 64 bits with a sign. -/
theorem Record.HasId.fits {column : String} {r : Record} {id : Int} (h : r.HasId column id)
    (hproper : ∀ f ∈ r.fields, f.2.Proper) : Word.fitsSigned id = true := by
  obtain ⟨⟨before, after, hfields, -, -⟩, hid⟩ := h
  obtain ⟨hlow, -⟩ := hproper (column, .number (.int id)) (by simp [hfields])
  simp only [Word.fitsSigned, Bool.and_eq_true, decide_eq_true_iff]
  exact ⟨hlow, hid⟩

namespace Enrich

variable {column : String} {records : List Record} {r : Record} {id i : Int} {l : List Int}
  {reply : List Contact}

theorem int64?_eq_some_iff {v : Json} :
    v.int64? = some id ↔ v = .number (.int id) ∧ id < (Word.signedEnd : Int) := by
  unfold Json.int64?
  split
  · rename_i n
    rw [Option.ite_none_right_eq_some, Option.some.injEq, Json.number.injEq, Json.Number.int.injEq]
    constructor
    · rintro ⟨hn, rfl⟩
      exact ⟨rfl, hn⟩
    · rintro ⟨rfl, hn⟩
      exact ⟨hn, rfl⟩
  · rename_i hother
    simp only [reduceCtorEq, false_iff, not_and]
    intro hv
    exact absurd hv (hother id)

theorem idOf_eq_some_iff : idOf column r = some id ↔ r.HasId column id := by
  simp only [idOf, Option.bind_eq_some_iff, int64?_eq_some_iff, Record.get?_eq_some_iff]
  constructor
  · rintro ⟨v, hfield, rfl, hid⟩
    exact ⟨hfield, hid⟩
  · rintro ⟨hfield, hid⟩
    exact ⟨_, hfield, rfl, hid⟩

/-- Nothing is lost when an id is put into a list, and nothing but the id comes in. -/
theorem mem_insertId : i ∈ insertId id l ↔ i = id ∨ i ∈ l := by
  induction l with
  | nil => simp [insertId]
  | cons j l ih =>
      rw [insertId]
      split_ifs with hless heq
      · simp
      · simp [heq]
      · simp [ih, or_left_comm]

/-- A strictly increasing list stays one when an id is put into it. -/
theorem pairwise_insertId (h : l.Pairwise (· < ·)) : (insertId id l).Pairwise (· < ·) := by
  induction l with
  | nil => simp [insertId]
  | cons j l ih =>
      obtain ⟨hfirst, hrest⟩ := List.pairwise_cons.1 h
      rw [insertId]
      split_ifs with hless heq
      · refine List.pairwise_cons.2 ⟨?_, h⟩
        intro k hk
        rcases List.mem_cons.1 hk with rfl | hk
        · exact hless
        · exact Int.lt_trans hless (hfirst k hk)
      · exact h
      · refine List.pairwise_cons.2 ⟨?_, ih hrest⟩
        intro k hk
        rcases mem_insertId.1 hk with rfl | hk
        · omega
        · exact hfirst k hk

/-- The directory is asked for the ids of the rows. -/
theorem mem_ids : id ∈ ids column records ↔ ∃ r ∈ records, r.HasId column id := by
  have hfold : ∀ found : List Int, id ∈ found.foldr insertId [] ↔ id ∈ found := by
    intro found
    induction found with
    | nil => simp
    | cons j found ih => rw [List.foldr_cons, mem_insertId, ih, List.mem_cons]
  simp only [ids, hfold, List.mem_filterMap, idOf_eq_some_iff]

/-- It is asked for each of them once, from the least to the greatest. -/
theorem pairwise_ids : (ids column records).Pairwise (· < ·) := by
  unfold ids
  induction records.filterMap (idOf column) with
  | nil => exact List.Pairwise.nil
  | cons j found ih => exact pairwise_insertId ih

/-! ## Details -/

/-- A reply has a contact for a row. -/
def Known (column : String) (reply : List Contact) (r : Record) : Prop :=
  ∃ c ∈ reply, r.HasId column c.customer

/-- What becomes of a row: its fields are kept, and two are added at the end, with the details of the
last contact that the reply has for the row. A detail that is lacking is null, and so are both if
there is no contact. -/
inductive Detailed (column : String) (reply : List Contact) (r : Record) : Record → Prop
  | known {c : Contact} (hid : r.HasId column c.customer)
      (hlast : LastWith (fun d => d.customer = c.customer) reply c) :
      Detailed column reply r
        ⟨r.fields ++ [("customer_name", detail c.name), ("contact", detail c.contact)]⟩
  | unknown (hunknown : ¬ Known column reply r) :
      Detailed column reply r ⟨r.fields ++ [("customer_name", .null), ("contact", .null)]⟩

theorem isSome_contactOf_iff : (contactOf column reply r).isSome = true ↔ Known column reply r := by
  simp only [contactOf, Option.isSome_bind, Option.any_eq_true, idOf_eq_some_iff,
    Directory.isSome_lastOf_iff, Known]
  constructor
  · rintro ⟨id, hid, c, hc, rfl⟩
    exact ⟨c, hc, hid⟩
  · rintro ⟨c, hc, hid⟩
    exact ⟨c.customer, hid, c, hc, rfl⟩

instance (column : String) (reply : List Contact) (r : Record) : Decidable (Known column reply r) :=
  decidable_of_iff _ isSome_contactOf_iff

/-- Every row is given its details. -/
theorem detailed_enrichOne (column : String) (reply : List Contact) (r : Record) :
    Detailed column reply r (enrichOne column reply r) := by
  unfold enrichOne
  cases hcontact : contactOf column reply r with
  | none =>
      have hunknown : ¬ Known column reply r := by
        rw [← isSome_contactOf_iff, hcontact]
        exact Bool.false_ne_true
      simpa [withDetails, Record.push, detail] using Detailed.unknown hunknown
  | some c =>
      obtain ⟨id, hid, hfound⟩ := Option.bind_eq_some_iff.1 hcontact
      obtain ⟨rfl, hlast⟩ := Directory.lastOf_eq_some_iff.1 hfound
      simpa [withDetails, Record.push] using
        Detailed.known (idOf_eq_some_iff.1 hid) hlast

/-- The rows that were given details are those the reply has a contact for. -/
theorem matched_stats (column : String) (reply : List Contact) (records : List Record) :
    (stats column reply records).matched = records.countP (Known column reply ·) := by
  refine List.countP_congr fun r _ => ?_
  rw [isSome_contactOf_iff, decide_eq_true_iff]

/-- Every row is counted once. -/
theorem matched_add_unmatched (column : String) (reply : List Contact) (records : List Record) :
    (stats column reply records).matched + (stats column reply records).unmatched =
      records.length := by
  rw [List.length_eq_countP_add_countP (fun r => (contactOf column reply r).isSome)]
  simp only [stats, Bool.not_eq_true, Option.isSome_eq_false_iff, Bool.decide_eq_true]

/-! ## Enriching -/

/-- What is known of some ids: what the directory replies, and nothing of no ids, for which it is not
asked. -/
def replyTo (directory : Directory) (ids : List Int) : Except Fault (List Contact) :=
  if ids = [] then .ok [] else directory ids

/-- The directory is asked for the ids of the rows, if there are any. -/
theorem lookups_enrich (directory : Directory) (column : String) (records : List Record) :
    (enrich directory column records).lookups =
      if ids column records = [] then [] else [ids column records] := by
  simp only [enrich, List.isEmpty_iff]
  split_ifs <;> split <;> rfl

theorem enrich_eq_of_error {directory : Directory} {e : Fault}
    (h : replyTo directory (ids column records) = .error e) :
    (enrich directory column records).result = .error e ∧
      (enrich directory column records).records = records := by
  unfold replyTo at h
  constructor <;> simp only [enrich, List.isEmpty_iff, h]

theorem enrich_eq_of_ok {directory : Directory}
    (h : replyTo directory (ids column records) = .ok reply) :
    (enrich directory column records).result = .ok (stats column reply records) ∧
      (enrich directory column records).records = records.map (enrichOne column reply) := by
  unfold replyTo at h
  constructor <;> simp only [enrich, List.isEmpty_iff, h]

/-- A directory plays no part but in its answer to what it is asked. -/
theorem enrich_congr {directory other : Directory}
    (h : ∀ asked ∈ (enrich directory column records).lookups, other asked = directory asked) :
    enrich other column records = enrich directory column records := by
  rw [lookups_enrich] at h
  by_cases hnone : ids column records = []
  · simp only [enrich, hnone, List.isEmpty_nil, if_true]
  · rw [if_neg hnone] at h
    have hsame := h _ (List.mem_singleton.2 rfl)
    simp only [enrich, List.isEmpty_iff, hnone, if_false, hsame]

/-- Sales of customers: two with ids, of which the first hides another one, and one without. -/
def threeSales : List Record :=
  [⟨[("customer_id", .number (.int 5)), ("customer_id", .number (.int 7))]⟩,
    ⟨[("customer_id", .number (.int 2))]⟩, ⟨[("customer_id", .text "7")]⟩]

/-- A directory that knows one customer, under two names. -/
def renamedCustomer : Directory := fun _ =>
  .ok [⟨7, some "Ana", none⟩, ⟨9, some "Rui", none⟩, ⟨7, some "Ana Lima", none⟩]

end Enrich

end DataMart
