import DataMart.Proofs.Floating.Nearest
import DataMart.Proofs.Json.Parts
import DataMart.Proofs.Query.Shape

/-!
# What bound values read back as

The values of a compiled request read back as the scalars of its conditions. A bound whole number has
63 bits and a sign, so a whole number that takes all 64 bits is bound as a floating-point number, the
nearest there is, and reads back as that.

* `Json.Held`: what every scalar that JSON can hold is like.
* `Json.bound`: what a scalar reads back as. `Json.bound_eq_self_iff`: only the greatest whole numbers
  read back as something else.
* `params_read_back`: all of it for the values of a compiled request.
-/

namespace DataMart

open Floating (Nearest nearest_ofInt)

namespace Json

/-- A scalar as JSON holds it: whole numbers fit 64 bits, with a sign or without, and other numbers
are finite. -/
structure Held (v : Json) : Prop where
  proper : v.Proper
  finite : ∀ x, v = .number (.real x) → x.isFinite = true

/-- What a scalar reads back as once it is bound. -/
def bound : Json → Json
  | .number (.int n) =>
    if n < (Word.signedEnd : Int) then .number (.int n) else .number (.real (Float.ofInt n))
  | v => v

/-- Whole numbers of 64 bits are held by JSON. -/
theorem held_ofInt {n : Int} (hn : -(Word.signedEnd : Int) ≤ n ∧ n < (Word.unsignedEnd : Int)) :
    (ofInt n).Held := ⟨hn, nofun⟩

/-- The JSON of a finite floating-point number is that number. -/
theorem ofFloat_of_isFinite {x : Float} (hx : x.isFinite = true) : ofFloat x = .number (.real x) :=
  if_pos hx

/-- The JSON of a floating-point number is no whole number. -/
theorem ofFloat_ne_ofInt (x : Float) (n : Int) : ofFloat x ≠ ofInt n := by
  unfold ofFloat ofInt
  split
  · nofun
  · nofun

/-- Only the whole numbers that take all of 64 bits read back as something else. -/
theorem bound_eq_self_iff (v : Json) :
    v.bound = v ↔ ∀ n, v = .number (.int n) → n < (Word.signedEnd : Int) := by
  cases v with
  | number k =>
      cases k with
      | int n =>
          by_cases hn : n < (Word.signedEnd : Int)
          · simp [bound, hn]
          · simp [bound, hn]
      | real x => simp [bound]
  | _ => simp [bound]

end Json

/-- A whole number that takes all of 64 bits is bound as the nearest floating-point number. -/
theorem nearest_of_proper {n : Int} (hn : (Json.number (.int n)).Proper)
    (hgreat : (Word.signedEnd : Int) ≤ n) : Nearest (Float.ofInt n) n := by
  obtain ⟨-, hend⟩ := hn
  simp only [Word.signedEnd, Word.unsignedEnd] at hgreat hend
  exact nearest_ofInt (by omega) (by omega)

/-- A whole number is bound as it is, unless it takes all of 64 bits. -/
theorem Value.ofJson?_int {n : Int} (hn : (Json.number (.int n)).Proper) :
    Value.ofJson? (.number (.int n)) =
      some (if n < (Word.signedEnd : Int) then .int n else .float (Float.ofInt n)) := by
  have hfits : Word.fitsSigned n = decide (n < (Word.signedEnd : Int)) := by
    rw [Word.fitsSigned, decide_eq_true hn.1, Bool.true_and]
  rw [Value.ofJson?, hfits]
  by_cases hless : n < (Word.signedEnd : Int)
  · simp [hless]
  · simp [hless]

/-- The value of a scalar reads back as the scalar, but for the greatest whole numbers. -/
theorem Value.toJson_of_ofJson? {j : Json} {v : Value} (h : Value.ofJson? j = some v)
    (hj : j.Held) : v.toJson = j.bound := by
  cases j with
  | number k =>
      cases k with
      | int n =>
          rw [Value.ofJson?_int hj.proper] at h
          obtain rfl := Option.some.inj h
          rw [Json.bound]
          by_cases hless : n < (Word.signedEnd : Int)
          · rw [if_pos hless, if_pos hless]
            rfl
          · obtain ⟨q, hq, -⟩ := nearest_of_proper hj.proper (Int.not_lt.1 hless)
            have hfinite : (Float.ofInt n).isFinite = true := by
              rw [Floating.isFinite_eq_isSome, hq]
              rfl
            rw [if_neg hless, if_neg hless]
            exact Json.ofFloat_of_isFinite hfinite
      | real x =>
          obtain rfl := Option.some.inj h
          exact Json.ofFloat_of_isFinite (hj.finite x rfl)
  | list items => cases h
  | object members => cases h
  | _ =>
      obtain rfl := Option.some.inj h
      rfl

namespace Compiler

variable {c : Compiler} {r : Request} {s : Statement}

/-- A compiled request has a value for each scalar, in its place. -/
theorem exists_param (h : c.compile r = .ok s) {i : Nat} {j : Json} (hj : r.scalars[i]? = some j) :
    ∃ v, s.params[i]? = some v ∧ Value.ofJson? j = some v := by
  have hparams := congrArg (·[i]?) (params_of_compile h)
  simp only [List.getElem?_map, hj, Option.map_some] at hparams
  obtain ⟨v, hv, hvalue⟩ := Option.map_eq_some_iff.1 hparams
  exact ⟨v, hv, hvalue.symm⟩

/-- It has no other values. -/
theorem length_params (h : c.compile r = .ok s) : s.params.length = r.scalars.length := by
  simpa using congrArg List.length (params_of_compile h)

/-- The values read back as the scalars do. -/
theorem map_toJson_params (h : c.compile r = .ok s) (hheld : ∀ v ∈ r.scalars, v.Held) :
    s.params.map Value.toJson = r.scalars.map Json.bound := by
  apply List.ext_getElem?
  intro i
  rw [List.getElem?_map, List.getElem?_map]
  cases hj : r.scalars[i]? with
  | none =>
      rw [List.getElem?_eq_none_iff, ← length_params h, ← List.getElem?_eq_none_iff] at hj
      rw [hj]
      rfl
  | some j =>
      obtain ⟨v, hv, hvalue⟩ := exists_param h hj
      rw [hv, Option.map_some, Option.map_some,
        Value.toJson_of_ofJson? hvalue (hheld j (List.mem_of_getElem? hj))]

/-- **What the values of a compiled request read back as.** They read back as the scalars of its
conditions, those on rows first, each in its place. A whole number that takes all of 64 bits is bound
as the nearest floating-point number and reads back as that one; every other is bound as it is. So
the scalars themselves are read back exactly if no whole number takes all of 64 bits. -/
theorem params_read_back (h : c.compile r = .ok s) (hheld : ∀ v ∈ r.scalars, v.Held) :
    s.params.map Value.toJson = r.scalars.map Json.bound ∧
    (s.params.map Value.toJson = r.scalars ↔
      ∀ n, .number (.int n) ∈ r.scalars → n < (Word.signedEnd : Int)) ∧
    ∀ (i : Nat) (n : Int), r.scalars[i]? = some (.number (.int n)) →
      (n < (Word.signedEnd : Int) → s.params[i]? = some (.int n)) ∧
      ((Word.signedEnd : Int) ≤ n →
        s.params[i]? = some (.float (Float.ofInt n)) ∧ Nearest (Float.ofInt n) n) := by
  have hback := map_toJson_params h hheld
  refine ⟨hback, ?_, fun i n hi => ?_⟩
  · have hself : r.scalars.map Json.bound = r.scalars ↔ ∀ v ∈ r.scalars, v.bound = v := by
      have hmap := List.map_inj_left (f := Json.bound) (g := id) (l := r.scalars)
      rwa [List.map_id] at hmap
    rw [hback, hself]
    constructor
    · intro hall n hn
      exact (Json.bound_eq_self_iff _).1 (hall _ hn) n rfl
    · rintro hall v hv
      refine (Json.bound_eq_self_iff v).2 ?_
      rintro n rfl
      exact hall n hv
  · have hproper := (hheld _ (List.mem_of_getElem? hi)).proper
    obtain ⟨v, hv, hvalue⟩ := exists_param h hi
    rw [hv, ← hvalue, Value.ofJson?_int hproper]
    constructor
    · intro hless
      rw [if_pos hless]
    · intro hgreat
      rw [if_neg (Int.not_lt.2 hgreat)]
      exact ⟨rfl, nearest_of_proper hproper hgreat⟩

/-- A request for the sales by store with some of their numbers, and with a mean amount. -/
def numberedSales : Request where
  metrics := ["COUNT(*) AS n"]
  dimensions := ["store_name"]
  filters := [⟨"sale_id", "in", .list [.ofInt 9223372036854775807, .ofInt 18446744073709551615]⟩,
    ⟨"channel_name", "not_null", .null⟩, ⟨"amount", "gt", .number (.real 0.5)⟩]
  having := [⟨"n", "gte", .ofInt (-9223372036854775808)⟩, ⟨"store_name", "ne", .text "Matriz"⟩]

/-- The greatest number of 64 bits is bound as a floating-point number, everything else as it is. -/
theorem numberedSales_read_back :
    ∃ s, (Compiler.mk "fct_sales" 100).compile numberedSales = .ok s ∧
      s.params.map Value.toJson = [.ofInt 9223372036854775807,
        .number (.real (Float.ofInt 18446744073709551615)), .number (.real 0.5),
        .ofInt (-9223372036854775808), .text "Matriz"] ∧
      s.params[0]? = some (.int 9223372036854775807) ∧
      Nearest (Float.ofInt 18446744073709551615) 18446744073709551615 := by
  have hheld : ∀ v ∈ numberedSales.scalars, v.Held := by
    have hscalars : numberedSales.scalars = [.ofInt 9223372036854775807,
      .ofInt 18446744073709551615, .number (.real 0.5), .ofInt (-9223372036854775808),
      .text "Matriz"] := rfl
    rw [hscalars]
    simp only [List.forall_mem_cons]
    refine ⟨Json.held_ofInt (by decide), Json.held_ofInt (by decide), ⟨trivial, ?_⟩,
      Json.held_ofInt (by decide), ⟨trivial, nofun⟩, List.forall_mem_nil _⟩
    rintro x ⟨⟩
    decide +kernel
  obtain ⟨hback, -, hplaces⟩ :=
    params_read_back (c := Compiler.mk "fct_sales" 100) (r := numberedSales) rfl hheld
  refine ⟨_, rfl, hback, ?_, ?_⟩
  · exact (hplaces 0 _ rfl).1 (by decide)
  · exact_mod_cast ((hplaces 1 _ rfl).2 (by decide)).2

/-- A request for a sale whose number takes all of 64 bits. -/
def greatSale : Request where
  metrics := ["COUNT(*) AS n"]
  filters := [⟨"sale_id", "eq", .ofInt 9223372036854775809⟩]

/-- **Such a number is not bound as it is**, but as the same value as the number before it. -/
theorem greatSale_bound_as_float :
    ∃ s, (Compiler.mk "fct_sales" 100).compile greatSale = .ok s ∧
      s.params = [.float (Float.ofInt 9223372036854775809)] ∧
      Float.ofInt 9223372036854775809 = Float.ofInt 9223372036854775808 ∧
      s.params.map Value.toJson ≠ greatSale.scalars := by
  refine ⟨_, rfl, rfl, ?_, ?_⟩
  · decide +kernel
  · intro hsame
    obtain ⟨hfloat, -⟩ := List.cons.inj hsame
    exact Json.ofFloat_ne_ofInt _ _ hfloat

end Compiler

end DataMart
