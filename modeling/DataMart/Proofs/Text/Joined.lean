import Mathlib.Tactic.Ring
import DataMart.Text.Joined

/-!
# The characters of joined texts

* `joinWith_append`: a joined text can be parted at each separator.
* `additive_joinWith`: what adds up over texts in a row is had by adding up its texts and the
  separators between them; so its length (`length_joinWith`).
* `mem_joinWith`: it has no other characters than these.
-/

namespace DataMart.Text

variable {sep s x : String} {xs ys : List String} {c : Char}

theorem joinWith_cons (sep x : String) (h : xs ≠ []) :
    joinWith sep (x :: xs) = x ++ sep ++ joinWith sep xs := by
  cases xs with
  | nil => exact absurd rfl h
  | cons y xs => rfl

/-- Between any two of its texts a joined text has a separator. -/
theorem joinWith_append (sep : String) (hxs : xs ≠ []) (hys : ys ≠ []) :
    joinWith sep (xs ++ ys) = joinWith sep xs ++ sep ++ joinWith sep ys := by
  induction xs with
  | nil => exact absurd rfl hxs
  | cons x xs ih =>
      by_cases hrest : xs = []
      · rw [hrest, List.singleton_append, joinWith_cons sep x hys, joinWith]
      · have hboth : xs ++ ys ≠ [] := List.append_ne_nil_of_left_ne_nil hrest ys
        rw [List.cons_append, joinWith_cons sep x hboth, ih hrest, joinWith_cons sep x hrest]
        simp only [String.append_assoc]

/-- What adds up over texts in a row adds up over the texts of a joined text and the separators
between them. -/
theorem additive_joinWith {f : String → Nat} (hempty : f "" = 0)
    (happend : ∀ a b, f (a ++ b) = f a + f b) (sep : String) (xs : List String) :
    f (joinWith sep xs) = (xs.map f).sum + (xs.length - 1) * f sep := by
  induction xs with
  | nil => simp [joinWith, hempty]
  | cons x xs ih =>
      cases xs with
      | nil => simp [joinWith]
      | cons y xs =>
          rw [joinWith_cons sep x (List.cons_ne_nil y xs), happend, happend, ih]
          simp only [List.map_cons, List.sum_cons, List.length_cons, Nat.add_sub_cancel]
          ring

/-- A joined text is as long as its texts and the separators between them. -/
theorem length_joinWith (sep : String) (xs : List String) : (joinWith sep xs).toList.length =
    (xs.map fun x => x.toList.length).sum + (xs.length - 1) * sep.toList.length := by
  have happend : ∀ a b : String, (a ++ b).toList.length = a.toList.length + b.toList.length := by
    intro a b
    rw [String.toList_append, List.length_append]
  exact additive_joinWith (f := fun x => x.toList.length) rfl happend sep xs

/-- A joined text has the characters of its texts and of the separator. -/
theorem mem_joinWith (h : c ∈ (joinWith sep xs).toList) :
    c ∈ sep.toList ∨ ∃ x ∈ xs, c ∈ x.toList := by
  induction xs with
  | nil => simp [joinWith] at h
  | cons x xs ih =>
      by_cases hrest : xs = []
      · subst hrest
        exact .inr ⟨x, List.mem_singleton_self x, h⟩
      · rw [joinWith_cons sep x hrest, String.toList_append, String.toList_append,
          List.mem_append, List.mem_append] at h
        rcases h with (hx | hsep) | hjoined
        · exact .inr ⟨x, List.mem_cons_self .., hx⟩
        · exact .inl hsep
        · refine (ih hjoined).imp_right ?_
          rintro ⟨y, hy, hc⟩
          exact ⟨y, List.mem_cons_of_mem x hy, hc⟩

/-! ## Texts of one width -/

theorem length_repeated (n : Nat) (s : String) :
    (repeated n s).toList.length = n * s.toList.length := by
  rw [repeated, length_joinWith]
  simp

theorem mem_repeated {n : Nat} (h : c ∈ (repeated n s).toList) : c ∈ s.toList := by
  rcases mem_joinWith h with hempty | ⟨x, hx, hc⟩
  · simp at hempty
  · rwa [List.eq_of_mem_replicate hx] at hc

/-- A text is filled up with blanks. -/
theorem mem_padTo {width : Nat} (h : c ∈ (padTo width s).toList) : c ∈ s.toList ∨ c = ' ' := by
  rw [padTo, String.toList_ofList, List.mem_append] at h
  exact h.imp_right List.eq_of_mem_replicate

end DataMart.Text
