import Mathlib

/-!
# Whole numbers as floating-point numbers

A floating-point number stands for a mantissa of at most 53 bits times a power of two. A whole number
of 64 bits is made into one by shifting it until 53 bits are left, and rounding what is lost.

* `Nearest`: a floating-point number is finite, and no other is nearer to a rational number.
* `Shifted.rounded_near`: rounding a shifted number moves it by half of its last bit at most.
* `roundWithAccuracy_eq_finite`: how a whole number of 64 bits is rounded.
* `nearest_ofInt`: such a number becomes the nearest floating-point number. Those from 2 ^ 63 on are
  multiples of 2 ^ 11 (`le_or_multiple_of_value`), so half of that apart is near enough.
-/

namespace DataMart.Floating

open Float.Model (Format UnpackedFloat totalExponent)
open Float.Model.UnpackedFloat

/-! ## What floating-point numbers stand for -/

/-- The number that an unpacked floating-point number stands for, if it is finite. -/
def unpackedValue? : UnpackedFloat → Option ℚ
  | .finite .positive m e _ => some (m * 2 ^ e)
  | .finite .negative m e _ => some (-(m * 2 ^ e))
  | .zero _ => some 0
  | .infinity _ => none
  | .notANumber => none

/-- The number that a floating-point number stands for, if it is finite. -/
def value? (x : Float) : Option ℚ := unpackedValue? x.toModel.unpack

/-- A floating-point number is finite, and no other is nearer to `q`. -/
def Nearest (x : Float) (q : ℚ) : Prop :=
  ∃ v, value? x = some v ∧ ∀ y w, value? y = some w → |v - q| ≤ |w - q|

/-- Finite floating-point numbers are those that stand for a number. -/
theorem isFinite_eq_isSome (x : Float) : x.isFinite = (value? x).isSome := by
  have hunpack : x.isFinite = x.toModel.unpack.isFinite := rfl
  rw [hunpack, value?]
  cases x.toModel.unpack with
  | finite s m e hm => cases s <;> rfl
  | _ => rfl

/-- The mantissa of a floating-point number has at most 53 bits. -/
theorem mantissa_lt {bits : BitVec Format.binary64.numBits} {s : Sign} {m : Nat} {e : Int} {hm : 0 < m}
    (h : unpack .binary64 bits = .finite s m e hm) : m < 2 ^ 53 := by
  unfold unpack at h
  dsimp only at h
  split at h
  · split at h <;> cases h
  · split at h
    · split at h
      · cases h
      · -- a number near zero
        injection h with _ hm
        rw [← hm]
        exact (BitVec.isLt _).trans (by decide)
    · injection h with _ hm
      rw [← hm]
      exact BitVec.isLt _

/-- A multiple of 2 ^ 11, written with a mantissa. -/
theorem mantissa_mul_zpow (m k : ℕ) : (m : ℚ) * 2 ^ (11 + (k : ℤ)) = m * 2 ^ k * 2 ^ 11 := by
  rw [zpow_add₀ (by norm_num), zpow_natCast]
  norm_num
  ring

/-- A mantissa of 53 bits times a power of two falls short of 2 ^ 63 by 2 ^ 10, or is a multiple of
2 ^ 11. -/
theorem mul_zpow_le_or_multiple {m : ℕ} (hm : m < 2 ^ 53) (e : ℤ) :
    (m : ℚ) * 2 ^ e ≤ 2 ^ 63 - 2 ^ 10 ∨ ∃ t : ℕ, (m : ℚ) * 2 ^ e = t * 2 ^ 11 := by
  by_cases he : e ≤ 10
  · left
    have hmantissa : (m : ℚ) ≤ 2 ^ 53 - 1 := by
      rw [le_sub_iff_add_le]
      exact_mod_cast hm
    have hpower : (2 : ℚ) ^ e ≤ 2 ^ (10 : ℤ) := zpow_le_zpow_right₀ (by norm_num) he
    calc (m : ℚ) * 2 ^ e ≤ (2 ^ 53 - 1) * 2 ^ (10 : ℤ) := by gcongr
      _ ≤ 2 ^ 63 - 2 ^ 10 := by norm_num
  · right
    obtain ⟨k, rfl⟩ : ∃ k : ℕ, e = 11 + k := ⟨(e - 11).toNat, by omega⟩
    refine ⟨m * 2 ^ k, ?_⟩
    rw [mantissa_mul_zpow]
    push_cast
    rfl

/-- So is every floating-point number: from 2 ^ 63 on they are multiples of 2 ^ 11. -/
theorem le_or_multiple_of_value {x : Float} {v : ℚ} (h : value? x = some v) :
    v ≤ 2 ^ 63 - 2 ^ 10 ∨ ∃ t : ℕ, v = t * 2 ^ 11 := by
  unfold value? at h
  cases hunpack : x.toModel.unpack with
  | finite s m e hm =>
      rw [hunpack] at h
      cases s with
      | positive =>
          obtain rfl := Option.some.inj h
          exact mul_zpow_le_or_multiple (mantissa_lt hunpack) e
      | negative =>
          obtain rfl := Option.some.inj h
          have hvalue : (0 : ℚ) ≤ m * 2 ^ e := by positivity
          exact .inl (by linarith)
  | zero s =>
      rw [hunpack] at h
      obtain rfl := Option.some.inj h
      exact .inl (by norm_num)
  | infinity s =>
      rw [hunpack] at h
      cases h
  | notANumber =>
      rw [hunpack] at h
      cases h

/-! ## Shifting and rounding -/

/-- What is left of `M` when it is shifted by `s` bits: the bits that stay, and of those that are lost
the first one and whether there is any other. -/
structure Shifted (M s : Nat) (em : ExtendedMantissa) : Prop where
  quotient : em.mantissa = M / 2 ^ s
  half : em.roundBit = true ↔ 2 ^ s ≤ 2 * (M % 2 ^ s)
  more : em.stickyBit = true ↔ M % 2 ^ s ≠ 0 ∧ 2 * (M % 2 ^ s) ≠ 2 ^ s

variable {M s : Nat} {em : ExtendedMantissa}

/-- Nothing is lost before the first shift. -/
theorem shifted_zero (M : Nat) : Shifted M 0 (.ofMantissaAndAccuracy M .exact) := by
  constructor <;> simp [ExtendedMantissa.ofMantissaAndAccuracy, Nat.mod_one]

/-- With one more shift the last bit that stayed becomes the first that is lost. -/
theorem Shifted.shiftRightOne (h : Shifted M s em) : Shifted M (s + 1) em.shiftRightOne := by
  have hpos : 0 < 2 ^ s := Nat.two_pow_pos s
  have hlt : M % 2 ^ s < 2 ^ s := Nat.mod_lt _ hpos
  have hrest : M % 2 ^ (s + 1) = M % 2 ^ s + 2 ^ s * (M / 2 ^ s % 2) := Nat.mod_pow_succ
  have hlost : em.roundBit = true ∨ em.stickyBit = true ↔ M % 2 ^ s ≠ 0 := by
    rw [h.half, h.more]
    omega
  have hdouble : 2 ^ (s + 1) = 2 ^ s * 2 := pow_succ 2 s
  refine ⟨?_, ?_, ?_⟩
  · rw [ExtendedMantissa.shiftRightOne, h.quotient, hdouble, Nat.div_div_eq_div_mul]
  · rw [ExtendedMantissa.shiftRightOne, h.quotient, hrest, hdouble]
    rcases Nat.mod_two_eq_zero_or_one (M / 2 ^ s) with hbit | hbit
    · simp [hbit]
      omega
    · simp [hbit]
      omega
  · rw [ExtendedMantissa.shiftRightOne, Bool.or_eq_true, hlost, hrest, hdouble]
    rcases Nat.mod_two_eq_zero_or_one (M / 2 ^ s) with hbit | hbit
    · rw [hbit]
      omega
    · rw [hbit]
      omega

/-- So shifting by any number of bits tells enough of what is lost. -/
theorem shifted_shiftRight (M s : Nat) :
    Shifted M s ((ExtendedMantissa.ofMantissaAndAccuracy M .exact) >>> s) := by
  induction s with
  | zero => exact shifted_zero M
  | succ s ih => exact ih.shiftRightOne

/-- Rounding moves a number by half of its last bit at most. -/
theorem Shifted.rounded_near (h : Shifted M s em) :
    2 * (em.roundedMantissa * 2 ^ s) ≤ 2 * M + 2 ^ s ∧
      2 * M ≤ 2 * (em.roundedMantissa * 2 ^ s) + 2 ^ s := by
  have hM : M / 2 ^ s * 2 ^ s + M % 2 ^ s = M := Nat.div_add_mod' M (2 ^ s)
  have hlt : M % 2 ^ s < 2 ^ s := Nat.mod_lt _ (Nat.two_pow_pos s)
  obtain ⟨quotient, half, more⟩ := em
  obtain ⟨rfl, hhalf, hmore⟩ := h
  dsimp only at hhalf hmore
  cases half <;> cases more <;>
    simp only [ExtendedMantissa.roundedMantissa, ExtendedMantissa.accuracy,
      Accuracy.roundToNearestEven, Nat.add_mul] <;>
    simp only [Bool.false_eq_true, false_iff, true_iff] at hhalf hmore
  · omega
  · omega
  · -- exactly one half is lost, and the last bit decides
    rcases Nat.mod_two_eq_zero_or_one (M / 2 ^ s) with hbit | hbit
    · rw [hbit]
      omega
    · rw [hbit]
      omega
  · omega

/-- A number of 53 bits and more is shifted until 53 are left. -/
theorem shiftToTargetExponent_eq {m : Nat} {e : Int} {d : Nat} (hm : m.log2 = 52 + d)
    (he : -1074 ≤ e + d) : shiftToTargetExponent .binary64 m e .exact =
      ((ExtendedMantissa.ofMantissaAndAccuracy m .exact) >>> d, e + d) := by
  have htarget : Format.binary64.targetExponent (totalExponent m e) = e + d := by
    simp [Format.targetExponent, totalExponent, Format.mantissaBits, Format.minExponent, hm]
    omega
  have hshift : (e + d - e).toNat = d := by omega
  simp only [shiftToTargetExponent, shiftToExponent, htarget, hshift]

/-- A mantissa of 53 bits, or the least one of 54, is brought to 53 bits without loss. -/
theorem exists_shiftToTargetExponent {m : Nat} {e : Int} (hlow : 2 ^ 52 ≤ m) (hhigh : m ≤ 2 ^ 53)
    (he : -1074 ≤ e) : ∃ d em, shiftToTargetExponent .binary64 m e .exact = (em, e + (d : Nat)) ∧
      2 ^ 52 ≤ em.mantissa ∧ em.mantissa < 2 ^ 53 ∧ d ≤ 1 ∧ em.mantissa * 2 ^ d = m := by
  by_cases hfits : m < 2 ^ 53
  · have hlog : m.log2 = 52 + 0 := by
      rw [Nat.log2_eq_iff (by omega)]
      omega
    have hquotient := (shifted_shiftRight m 0).quotient
    refine ⟨0, _, shiftToTargetExponent_eq hlog (by omega), ?_⟩
    rw [hquotient]
    omega
  · obtain rfl : m = 2 ^ 53 := by omega
    have hquotient := (shifted_shiftRight (2 ^ 53) 1).quotient
    refine ⟨1, _, shiftToTargetExponent_eq (by decide) (by omega), ?_⟩
    rw [hquotient]
    decide

/-- **Rounding a whole number of 64 bits.** It becomes a mantissa of 53 bits times a power of two, and
moves by half of the last bit at most. -/
theorem roundWithAccuracy_eq_finite {k : Nat} (hlow : 2 ^ 63 ≤ k) (hhigh : k < 2 ^ 64) :
    ∃ m d hm, roundWithAccuracy .binary64 .positive (k * 2 ^ 53) (-53) .exact =
        .finite .positive m (11 + (d : Nat)) hm ∧ 2 ^ 52 ≤ m ∧ m < 2 ^ 53 ∧ d ≤ 1 ∧
      m * 2 ^ d * 2 ^ 11 ≤ k + 2 ^ 10 ∧ k ≤ m * 2 ^ d * 2 ^ 11 + 2 ^ 10 := by
  have hlog : (k * 2 ^ 53).log2 = 52 + 64 := by
    rw [Nat.log2_eq_iff (by omega)]
    omega
  have hnear := (shifted_shiftRight (k * 2 ^ 53) 64).rounded_near
  unfold roundWithAccuracy
  rw [shiftToTargetExponent_eq hlog (by decide)]
  dsimp only
  generalize ((ExtendedMantissa.ofMantissaAndAccuracy (k * 2 ^ 53) .exact) >>> 64).roundedMantissa =
    rounded at hnear ⊢
  obtain ⟨d, em, hshift, hmin, hmax, hd, hsame⟩ :=
    exists_shiftToTargetExponent (m := rounded) (e := -53 + (64 : Nat)) (by omega) (by omega)
      (by decide)
  rw [hshift]
  have hne : em.mantissa ≠ 0 := by omega
  refine ⟨em.mantissa, d, Nat.pos_of_ne_zero hne, ?_, hmin, hmax, hd, ?_⟩
  · rw [dif_neg hne]
    rfl
  · rw [hsame]
    omega

/-! ## Packed numbers -/

/-- A number of 53 bits that is packed and unpacked is the same. -/
theorem unpack_pack_finite {m d : Nat} (hm : 0 < m) (hlow : 2 ^ 52 ≤ m) (hhigh : m < 2 ^ 53)
    (hd : d ≤ 1) : unpack .binary64 (pack .binary64 (.finite .positive m (11 + (d : Nat)) hm)) =
      .finite .positive m (11 + (d : Nat)) hm := by
  have hlog : m.log2 + 1 = Format.binary64.mantissaBits := by
    have hlog2 : m.log2 = 52 := by
      rw [Nat.log2_eq_iff (by omega)]
      omega
    rw [hlog2]
    rfl
  have hbiased : (11 + (d : Int) + Format.binary64.exponentBias +
      Format.binary64.mantissaBitsWithoutImplicit).toNat = 1086 + d := by
    simp [Format.exponentBias]
    omega
  unfold pack
  simp only [hbiased]
  rw [if_neg (by simp; omega), if_pos hlog]
  have hmantissa : (1#1 ++ BitVec.ofNat 52 m).toNat = m := by
    rw [BitVec.toNat_append, ← Nat.shiftLeft_add_eq_or_of_lt (BitVec.isLt _)]
    simp only [BitVec.toNat_ofNat, Nat.shiftLeft_eq]
    omega
  have hexponent : ((BitVec.ofNat 11 (1086 + d)).toNat : Int) -
      ((Format.binary64.exponentBias : Int) + (52 : Nat)) = 11 + (d : Nat) := by
    simp [Format.exponentBias]
    omega
  have hfinite : BitVec.ofNat 11 (1086 + d) ≠ -1#11 ∧ BitVec.ofNat 11 (1086 + d) ≠ 0#11 := by
    obtain rfl | rfl : d = 0 ∨ d = 1 := by omega
    · decide
    · decide
  unfold unpack
  simp only [unpackMantissa_packComponents, unpackExponent_packComponents,
    unpackSign_packComponents, Sign.ofBitVec_toBitVec, if_neg hfinite.1, if_neg hfinite.2,
    hmantissa, hexponent]

/-! ## Whole numbers -/

/-- A whole number is read with 53 bits behind its last one, and rounded. -/
theorem ofScientific_eq_roundWithAccuracy {k : Nat} (hk : k ≠ 0) :
    UnpackedFloat.ofScientific .binary64 k 0 =
      roundWithAccuracy .binary64 .positive (k * 2 ^ 53) (-53) .exact := by
  have hshift : k <<< Format.binary64.mantissaBits * 10 ^ (0 : Int).toNat = k * 2 ^ 53 := by
    rw [Nat.shiftLeft_eq]
    exact Nat.mul_one _
  have hsmall : ¬ (0 : Int) < -((2 ^ Format.binary64.exponentBits : Int) + k.log2) := by
    simp
  unfold UnpackedFloat.ofScientific
  rw [dif_neg hk, if_neg (by decide), if_neg hsmall, if_pos (by decide), ← hshift]
  rfl

/-- What a whole number of 64 bits is as a floating-point number. -/
theorem exists_unpack_ofInt {n : Int} (hlow : 2 ^ 63 ≤ n) (hhigh : n < 2 ^ 64) :
    ∃ m d hm, (Float.ofInt n).toModel.unpack = .finite .positive m (11 + (d : Nat)) hm ∧
      (m * 2 ^ d * 2 ^ 11 : Int) ≤ n + 2 ^ 10 ∧ n ≤ m * 2 ^ d * 2 ^ 11 + 2 ^ 10 := by
  obtain ⟨k, rfl⟩ := Int.eq_ofNat_of_zero_le (show 0 ≤ n by omega)
  obtain ⟨m, d, hm, hround, hmin, hmax, hd, habove, hbelow⟩ :=
    roundWithAccuracy_eq_finite (k := k) (by omega) (by omega)
  refine ⟨m, d, hm, ?_, by exact_mod_cast habove, by exact_mod_cast hbelow⟩
  -- such a number is too great for the short way of making one
  have hlong : ¬ (k < 2 ^ 53 ∧ 0 ≤ 22) := by omega
  calc (Float.ofInt k).toModel.unpack
      = (Float.ofScientific k false 0).toModel.unpack := rfl
    _ = unpack .binary64 (pack .binary64 (UnpackedFloat.ofScientific .binary64 k 0)) := by
        rw [Float.ofScientific, dif_neg hlong]
        rfl
    _ = .finite .positive m (11 + (d : Nat)) hm := by
        rw [ofScientific_eq_roundWithAccuracy (by omega), hround,
          unpack_pack_finite hm hmin hmax hd]

/-- **A whole number of 64 bits that takes all of them is made into the nearest floating-point
number.** -/
theorem nearest_ofInt {n : Int} (hlow : 2 ^ 63 ≤ n) (hhigh : n < 2 ^ 64) :
    Nearest (Float.ofInt n) n := by
  obtain ⟨m, d, hm, hunpack, habove, hbelow⟩ := exists_unpack_ofInt hlow hhigh
  refine ⟨((m * 2 ^ d * 2 ^ 11 : ℤ) : ℚ), ?_, fun y w hw => ?_⟩
  · rw [value?, hunpack, unpackedValue?, mantissa_mul_zpow]
    push_cast
    rfl
  · rcases le_or_multiple_of_value hw with hsmall | ⟨t, rfl⟩
    · have hnear : |((m * 2 ^ d * 2 ^ 11 : ℤ) : ℚ) - n| ≤ 2 ^ 10 := by
        have hint : |(m * 2 ^ d * 2 ^ 11 - n : ℤ)| ≤ 2 ^ 10 := by
          rw [abs_le]
          omega
        exact_mod_cast hint
      have hn : (2 : ℚ) ^ 63 ≤ n := by exact_mod_cast hlow
      calc |((m * 2 ^ d * 2 ^ 11 : ℤ) : ℚ) - n| ≤ 2 ^ 10 := hnear
        _ ≤ n - w := by linarith
        _ ≤ |w - n| := by
            rw [abs_sub_comm]
            exact le_abs_self _
    · have hint : |(m * 2 ^ d * 2 ^ 11 - n : ℤ)| ≤ |(t * 2 ^ 11 - n : ℤ)| := by
        rw [Int.abs_eq_natAbs, Int.abs_eq_natAbs]
        omega
      exact_mod_cast hint

end DataMart.Floating
