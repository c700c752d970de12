import DataMart.Proofs.Json.Reading

/-!
# Reading printed lists and objects

A list or an object is read back when each of its entries is. What the entries are folded into is up
to the caller, so an entry is described by what it does to the state: `ReadsItems` and `ReadsMembers`
follow the state through the entries, and `gives_items` and `gives_members` are about the loops.

`readsItems_push` and `readsMembers_foldl` are for the callers that do the same with every entry.
-/

namespace DataMart.Json

variable {α β σ : Type} {s u rest : List Char} {acc acc' acc'' : σ}

/-- Texts in a row with a comma between each two. -/
def commas : List (List Char) → List Char
  | [] => []
  | x :: xs => x ++ xs.flatMap (',' :: ·)

/-! ## Items -/

/-- A text with which an item of a list can start. -/
def Opens (x : List Char) : Prop := ∃ c t, x = c :: t ∧ isBlank c = false ∧ c ≠ ']'

theorem Opens.append {x : List Char} (h : Opens x) (t : List Char) : Opens (x ++ t) := by
  obtain ⟨c, v, rfl, hc⟩ := h
  exact ⟨c, v ++ t, rfl, hc⟩

theorem nextItem_closed (first : Bool) (rest : List Char) :
    ∃ h, nextItem first (']' :: rest) = .ok (.closed ⟨rest, h⟩) :=
  ⟨by simp, by rfl⟩

theorem nextItem_first (hs : Opens s) : ∃ h, nextItem true s = .ok (.entry ⟨s, h⟩) := by
  obtain ⟨c, t, rfl, hc, hclose⟩ := hs
  refine ⟨Nat.le_refl _, ?_⟩
  unfold nextItem
  split
  · next h => cases (skipBlanks_cons hc t).symm.trans h
  · next h =>
    cases (skipBlanks_cons hc t).symm.trans h
    rw [if_neg hclose, if_pos rfl]

theorem nextItem_comma (hs : Opens s) : ∃ h, nextItem false (',' :: s) = .ok (.entry ⟨s, h⟩) := by
  obtain ⟨c, t, rfl, hc, hclose⟩ := hs
  refine ⟨Nat.le_succ _, ?_⟩
  have hcomma := skipBlanks_cons (c := ',') rfl (c :: t)
  unfold nextItem
  split
  · next h => cases hcomma.symm.trans h
  · next h =>
    cases hcomma.symm.trans h
    simp only
    rw [if_neg (by decide), if_neg (by decide), if_pos trivial]
    split
    · next hb => cases (skipBlanks_cons hc t).symm.trans hb
    · next hb =>
      cases (skipBlanks_cons hc t).symm.trans hb
      rw [if_neg hclose]

theorem gives_itemsFrom_closed (step : σ → Reader σ) (first : Bool) (acc : σ) (rest : List Char) :
    Gives (itemsFrom step first acc (']' :: rest)) acc rest := by
  obtain ⟨h, heq⟩ := nextItem_closed first rest
  refine ⟨h, ?_⟩
  rw [itemsFrom, heq]

theorem gives_itemsFrom_entry {step : σ → Reader σ} {first : Bool} {x : List Char}
    (hnext : ∃ h, nextItem first s = .ok (.entry ⟨x, h⟩)) (hstep : Gives (step acc x) acc' u)
    (hmore : Gives (itemsFrom step false acc' u) acc'' rest) :
    Gives (itemsFrom step first acc s) acc'' rest := by
  obtain ⟨hx, hnext⟩ := hnext
  obtain ⟨hu, hstep⟩ := hstep
  obtain ⟨hrest, hmore⟩ := hmore
  refine ⟨by omega, ?_⟩
  rw [itemsFrom, hnext]
  simp only [hstep, hmore]
  rfl

/-- The states that a reader goes through along items with these texts. -/
inductive ReadsItems (step : σ → Reader σ) : σ → List (List Char) → σ → Prop
  | nil (acc : σ) : ReadsItems step acc [] acc
  | cons {acc acc' acc'' : σ} {x : List Char} {xs : List (List Char)} (opens : Opens x)
      (read : ∀ rest, Ends rest → Gives (step acc (x ++ rest)) acc' rest)
      (more : ReadsItems step acc' xs acc'') : ReadsItems step acc (x :: xs) acc''

/-- Behind a comma or a bracket stands what may follow a value. -/
theorem ends_flatMap (xs : List (List Char)) {close : List Char} (hclose : Ends close) :
    Ends (xs.flatMap (',' :: ·) ++ close) := by
  cases xs with
  | nil => exact hclose
  | cons x xs => exact ends_comma _

theorem gives_itemsFrom_more {step : σ → Reader σ} {xs : List (List Char)}
    (h : ReadsItems step acc xs acc') (rest : List Char) :
    Gives (itemsFrom step false acc (xs.flatMap (',' :: ·) ++ ']' :: rest)) acc' rest := by
  induction h with
  | nil acc => exact gives_itemsFrom_closed step false acc rest
  | cons opens read more ih =>
      rw [List.flatMap_cons, List.append_assoc]
      exact gives_itemsFrom_entry (nextItem_comma (opens.append _))
        (read _ (ends_flatMap _ (ends_bracket rest))) ih

/-- **A list is read back when each item is.** -/
theorem gives_items {step : σ → Reader σ} {xs : List (List Char)}
    (h : ReadsItems step acc xs acc') (rest : List Char) :
    Gives (items step acc (commas xs ++ ']' :: rest)) acc' rest := by
  rw [items]
  cases h with
  | nil => exact gives_itemsFrom_closed step true acc rest
  | cons opens read more =>
      rw [commas, List.append_assoc]
      exact gives_itemsFrom_entry (nextItem_first (opens.append _))
        (read _ (ends_flatMap _ (ends_bracket rest))) (gives_itemsFrom_more more rest)

/-- Items of which each puts one value in front of a list. -/
theorem readsItems_push {step : List β → Reader (List β)} (write : α → List Char) (value : α → β)
    {as : List α} (h : ∀ a ∈ as, Opens (write a) ∧ ∀ acc rest, Ends rest →
      Gives (step acc (write a ++ rest)) (value a :: acc) rest) :
    ReadsItems step [] (as.map write) (as.map value).reverse := by
  suffices hacc : ∀ acc, ReadsItems step acc (as.map write) ((as.map value).reverse ++ acc) by
    rw [← List.append_nil (as.map value).reverse]
    exact hacc []
  induction as with
  | nil => exact fun acc => .nil acc
  | cons a as ih =>
      obtain ⟨⟨hopens, hread⟩, has⟩ := List.forall_mem_cons.1 h
      intro acc
      rw [List.map_cons, List.map_cons, List.reverse_cons, List.append_assoc]
      exact .cons hopens (hread acc) (ih has (value a :: acc))

/-! ## Members -/

/-- A member as it stands in an object, its value being written as `x`. -/
def memberText (name : String) (x : List Char) : List Char := (quoted name).toList ++ ':' :: x

/-- A member starts with the quote of its name, and a colon stands before its value. -/
theorem memberText_append (name : String) (x t : List Char) :
    memberText name x ++ t = '"' :: (behindQuote name ++ ':' :: (x ++ t)) := by
  simp [memberText, toList_quoted]

theorem nextMember_closed (first : Bool) (rest : List Char) :
    ∃ h, nextMember first ('\x7d' :: rest) = .ok (.closed ⟨rest, h⟩) :=
  ⟨by simp, by rfl⟩

theorem nextMember_first (t : List Char) :
    ∃ h, nextMember true ('"' :: t) = .ok (.entry ⟨t, h⟩) :=
  ⟨by simp, by rfl⟩

theorem nextMember_comma (t : List Char) :
    ∃ h, nextMember false (',' :: '"' :: t) = .ok (.entry ⟨t, h⟩) :=
  ⟨by simp; omega, by rfl⟩

theorem gives_readColon (t : List Char) : Gives (readColon (':' :: t)) () t :=
  ⟨by simp, by rfl⟩

variable {step : σ → String → Except ReadError (Reader σ)}

theorem gives_membersFrom_closed (first : Bool) (acc : σ) (rest : List Char) :
    Gives (membersFrom readName step first acc ('\x7d' :: rest)) acc rest := by
  obtain ⟨h, heq⟩ := nextMember_closed first rest
  refine ⟨h, ?_⟩
  rw [membersFrom, heq]

theorem gives_membersFrom_entry {first : Bool} {name : String} {x : List Char} {read : Reader σ}
    (hnext : ∃ h, nextMember first s = .ok (.entry ⟨behindQuote name ++ ':' :: x, h⟩))
    (hstep : step acc name = .ok read) (hread : Gives (read x) acc' u)
    (hmore : Gives (membersFrom readName step false acc' u) acc'' rest) :
    Gives (membersFrom readName step first acc s) acc'' rest := by
  obtain ⟨hs, hnext⟩ := hnext
  obtain ⟨hname, hreadName⟩ := gives_readName name (':' :: x)
  obtain ⟨hcolon, hreadColon⟩ := gives_readColon x
  obtain ⟨hu, hread⟩ := hread
  obtain ⟨hrest, hmore⟩ := hmore
  refine ⟨by omega, ?_⟩
  rw [membersFrom, hnext]
  simp only [hreadName, hstep, hreadColon, hread, hmore]
  rfl

/-- The states that a reader goes through along members with these names and texts of values. -/
inductive ReadsMembers (step : σ → String → Except ReadError (Reader σ)) :
    σ → List (String × List Char) → σ → Prop
  | nil (acc : σ) : ReadsMembers step acc [] acc
  | cons {acc acc' acc'' : σ} {name : String} {x : List Char} {xs : List (String × List Char)}
      {reader : Reader σ} (accept : step acc name = .ok reader)
      (read : ∀ rest, Ends rest → Gives (reader (x ++ rest)) acc' rest)
      (more : ReadsMembers step acc' xs acc'') : ReadsMembers step acc ((name, x) :: xs) acc''

theorem ReadsMembers.append {xs ys : List (String × List Char)} (hxs : ReadsMembers step acc xs acc')
    (hys : ReadsMembers step acc' ys acc'') : ReadsMembers step acc (xs ++ ys) acc'' := by
  induction hxs with
  | nil => exact hys
  | cons accept read more ih => exact .cons accept read (ih hys)

/-- The texts of members. -/
def memberTexts (xs : List (String × List Char)) : List (List Char) :=
  xs.map fun m => memberText m.1 m.2

theorem gives_membersFrom_more {xs : List (String × List Char)}
    (h : ReadsMembers step acc xs acc') (rest : List Char) :
    Gives (membersFrom readName step false acc
      ((memberTexts xs).flatMap (',' :: ·) ++ '\x7d' :: rest)) acc' rest := by
  induction h with
  | nil acc => exact gives_membersFrom_closed false acc rest
  | cons accept read more ih =>
      rw [memberTexts, List.map_cons, List.flatMap_cons, List.append_assoc, List.cons_append,
        memberText_append]
      exact gives_membersFrom_entry (nextMember_comma _) accept
        (read _ (ends_flatMap _ (ends_brace rest))) ih

/-- **An object is read back when each member is.** -/
theorem gives_members {xs : List (String × List Char)} (h : ReadsMembers step acc xs acc')
    (rest : List Char) :
    Gives (members step acc (commas (memberTexts xs) ++ '\x7d' :: rest)) acc' rest := by
  rw [members]
  cases h with
  | nil => exact gives_membersFrom_closed true acc rest
  | cons accept read more =>
      rw [memberTexts, List.map_cons, commas, List.append_assoc, memberText_append]
      exact gives_membersFrom_entry (nextMember_first _) accept
        (read _ (ends_flatMap _ (ends_brace rest))) (gives_membersFrom_more more rest)

/-- Members that are put into the state in one way. -/
theorem readsMembers_foldl (f : σ → α → σ) (name : α → String) (write : α → List Char)
    {as : List α} (h : ∀ a ∈ as, ∀ acc, ∃ reader, step acc (name a) = .ok reader ∧
      ∀ rest, Ends rest → Gives (reader (write a ++ rest)) (f acc a) rest) (acc : σ) :
    ReadsMembers step acc (as.map fun a => (name a, write a)) (as.foldl f acc) := by
  induction as generalizing acc with
  | nil => exact .nil acc
  | cons a as ih =>
      obtain ⟨ha, has⟩ := List.forall_mem_cons.1 h
      obtain ⟨reader, haccept, hread⟩ := ha acc
      exact .cons haccept hread (ih has (f acc a))

end DataMart.Json
