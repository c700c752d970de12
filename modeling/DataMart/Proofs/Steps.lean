import Mathlib.Data.List.Forall2

/-!
# Steps that may fail

Laws of computations that stop with the first fault. A computation that gave a result is taken apart
by `bind_eq_ok`, and one that failed by `bind_eq_error_iff`; two computations that agree up to a view
of their results go on to agree (`map_bind_congr`), also when one step is repeated over two lists
(`map_mapM_congr`).
-/

namespace DataMart

/-- A step that succeeded hands its result on. -/
theorem ok_bind {ε α β : Type} (a : α) (f : α → Except ε β) : (Except.ok a >>= f) = f a := rfl

/-- A step that failed ends the computation. -/
theorem error_bind {ε α β : Type} (e : ε) (f : α → Except ε β) :
    (Except.error e >>= f) = .error e := rfl

/-- What a computation gave came from its first step. -/
theorem bind_eq_ok {ε α β : Type} {x : Except ε α} {f : α → Except ε β} {b : β}
    (h : x >>= f = .ok b) : ∃ a, x = .ok a ∧ f a = .ok b := by
  cases x with
  | error e => cases h
  | ok a => exact ⟨a, rfl, h⟩

/-- A computation failed in its first step, or behind it. -/
theorem bind_eq_error_iff {ε α β : Type} {x : Except ε α} {f : α → Except ε β} {e : ε} :
    x >>= f = .error e ↔ x = .error e ∨ ∃ a, x = .ok a ∧ f a = .error e := by
  cases x with
  | error e' => simp [error_bind]
  | ok a => simp [ok_bind]

/-- A fault that is told otherwise was one before. -/
theorem mapError_eq_error_iff {ε δ α : Type} {x : Except ε α} {f : ε → δ} {d : δ} :
    x.mapError f = .error d ↔ ∃ e, x = .error e ∧ f e = d := by
  cases x with
  | error e => simp [Except.mapError]
  | ok a => simp [Except.mapError]

/-- A result is the same however faults are told. -/
theorem mapError_eq_ok_iff {ε δ α : Type} {x : Except ε α} {f : ε → δ} {a : α} :
    x.mapError f = .ok a ↔ x = .ok a := by
  cases x with
  | error e => simp [Except.mapError]
  | ok b => simp [Except.mapError]

/-- Steps that agree up to a view of their results, followed by steps that agree on such results. -/
theorem map_bind_congr {ε α β γ δ : Type} {x y : Except ε α} {f : α → γ} {k l : α → Except ε β}
    {g : β → δ} (h : x.map f = y.map f) (hk : ∀ a b, f a = f b → (k a).map g = (l b).map g) :
    (x >>= k).map g = (y >>= l).map g := by
  cases x with
  | error e =>
      cases y with
      | error e' => simpa [Except.map, error_bind] using h
      | ok b => simp [Except.map] at h
  | ok a =>
      cases y with
      | error e' => simp [Except.map] at h
      | ok b => exact hk a b (by simpa [Except.map] using h)

/-- A step repeated over two lists whose members it treats alike. -/
theorem map_mapM_congr {ε α β γ : Type} {p : α → Except ε β} {f : β → γ} {xs ys : List α}
    (h : List.Forall₂ (fun x y => (p x).map f = (p y).map f) xs ys) :
    (xs.mapM p).map (List.map f) = (ys.mapM p).map (List.map f) := by
  induction h with
  | nil => rfl
  | cons hxy _ ih =>
      rw [List.mapM_cons, List.mapM_cons]
      refine map_bind_congr hxy fun a b hab => map_bind_congr ih fun as bs habs => ?_
      exact congrArg Except.ok (by rw [List.map_cons, List.map_cons, hab, habs])

/-- A step repeated over a list gives the results in the order of the list. -/
theorem mapM_eq_ok_iff {ε α β : Type} {p : α → Except ε β} {xs : List α} {ys : List β} :
    xs.mapM p = .ok ys ↔ List.Forall₂ (fun x y => p x = .ok y) xs ys := by
  induction xs generalizing ys with
  | nil =>
      rw [List.mapM_nil, List.forall₂_nil_left_iff]
      exact ⟨fun h => (Except.ok.inj h).symm, fun h => congrArg Except.ok h.symm⟩
  | cons x xs ih =>
      rw [List.mapM_cons, List.forall₂_cons_left_iff]
      constructor
      · intro h
        obtain ⟨y, hy, h⟩ := bind_eq_ok h
        obtain ⟨zs, hzs, h⟩ := bind_eq_ok h
        exact ⟨y, zs, hy, ih.1 hzs, (Except.ok.inj h).symm⟩
      · rintro ⟨y, zs, hy, hzs, rfl⟩
        rw [hy, ok_bind, ih.2 hzs]
        rfl

/-- A step repeated over a list fails exactly if it fails for a member. -/
theorem mapM_eq_error_iff {ε α β : Type} {p : α → Except ε β} {xs : List α} :
    (∃ e, xs.mapM p = .error e) ↔ ∃ x ∈ xs, ∃ e, p x = .error e := by
  induction xs with
  | nil => exact ⟨nofun, nofun⟩
  | cons x xs ih =>
      rw [List.mapM_cons, List.exists_mem_cons_iff, ← ih]
      cases hx : p x with
      | error e => exact ⟨fun _ => .inl ⟨e, rfl⟩, fun _ => ⟨e, rfl⟩⟩
      | ok y =>
          rw [ok_bind]
          cases xs.mapM p with
          | error e => exact ⟨fun _ => .inr ⟨e, rfl⟩, fun _ => ⟨e, rfl⟩⟩
          | ok ys => exact ⟨nofun, nofun⟩

/-- A test that every member of a list passes leaves the list as it is. -/
theorem filterM_eq_ok_self {ε α : Type} {p : α → Except ε Bool} {xs : List α}
    (h : ∀ x ∈ xs, p x = .ok true) : xs.filterM p = .ok xs := by
  have haux : ∀ ys acc, (∀ y ∈ ys, p y = .ok true) →
      List.filterAuxM p ys acc = .ok (ys.reverse ++ acc) := by
    intro ys
    induction ys with
    | nil => exact fun _ _ => rfl
    | cons y ys ih =>
        intro acc hys
        obtain ⟨hy, hys⟩ := List.forall_mem_cons.1 hys
        rw [List.filterAuxM, hy, ok_bind]
        show List.filterAuxM p ys (y :: acc) = _
        rw [ih (y :: acc) hys, List.reverse_cons, List.append_assoc]
        rfl
  rw [List.filterM, haux xs [] h, ok_bind, List.append_nil, List.reverse_reverse]
  rfl

end DataMart
