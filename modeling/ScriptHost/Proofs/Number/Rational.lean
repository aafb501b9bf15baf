import Mathlib.Algebra.Order.Field.Basic
import Mathlib.Algebra.Order.Field.Rat
import Mathlib.Data.Nat.Cast.Field
import ScriptHost.Number.Double

/-! The rational numbers that doubles stand for. Doubles that stand for one number are equal, and those that stand for
an integer are that. -/
namespace ScriptHost

theorem pow2_succ (shift : Nat) : pow2 (shift + 1 : Int) = 2 ^ (shift + 1) := by
  rw [pow2, show ((shift : Int) + 1).toNat = shift + 1 by omega]
  rfl

namespace Double
variable {x y : Double} {k : Int} {q : ℚ}

/-- The number that a double stands for, if that is finite. -/
def toRat? (x : Double) : Option ℚ :=
  if x.isNaN || x.isInfinite then none
  else some (x.signedDecode.1 * (2 : ℚ) ^ x.signedDecode.2)

theorem abs_signedDecode (x : Double) : |(x.signedDecode.1 : ℚ)| = x.decode.1 := by
  unfold signedDecode
  dsimp only
  split <;> simp

/-! ### Equality -/

theorem toNat_magnitude (x : Double) : x.magnitude.toNat = x.bits.toNat % 2 ^ 63 := by
  rw [show x.magnitude = x.bits &&& 0x7fffffffffffffff from rfl, UInt64.toNat_and]
  exact Nat.and_two_pow_sub_one_eq_mod _ 63

/-- The bits are the sign and those without the sign. -/
theorem eq_of_magnitude (hmagnitude : x.magnitude = y.magnitude) (hsign : x.isNegative = y.isNegative) : x = y := by
  have hx := x.toNat_magnitude
  have hy := y.toNat_magnitude
  have hxlt := x.bits.toNat_lt
  have hylt := y.bits.toNat_lt
  have hnonnegative (z : Double) : z.isNegative = false ↔ z.bits.toNat < 2 ^ 63 := by
    rw [isNegative, bne_eq_false_iff_eq, ← UInt64.toNat_inj, z.toNat_magnitude]
    omega
  have hsame : x.bits.toNat < 2 ^ 63 ↔ y.bits.toNat < 2 ^ 63 := by rw [← hnonnegative, ← hnonnegative, hsign]
  have hbits : x.bits = y.bits := UInt64.toNat_inj.mp (by rw [hmagnitude] at hx; omega)
  cases x
  cases y
  exact congrArg _ hbits

/-- The magnitude of a finite number has 53 bits, and fewer only at the least exponent. -/
theorem decode_spec (x : Double) : x.decode.1 < 2 ^ 53 ∧ -1074 ≤ x.decode.2 ∧
    (-1074 < x.decode.2 → 2 ^ 52 ≤ x.decode.1) ∧
    (x.magnitude.toNat : Int) = (x.decode.2 + 1074) * 2 ^ 52 + x.decode.1 := by
  unfold decode
  dsimp only
  split
  · omega
  · omega

/-- Finite numbers of one magnitude are decoded alike. -/
theorem decode_injective (h : (x.decode.1 : ℚ) * 2 ^ x.decode.2 = y.decode.1 * 2 ^ y.decode.2) :
    x.magnitude = y.magnitude := by
  suffices hle : ∀ {x y : Double}, (x.decode.1 : ℚ) * 2 ^ x.decode.2 = y.decode.1 * 2 ^ y.decode.2 →
      x.decode.2 ≤ y.decode.2 → x.magnitude = y.magnitude by
    rcases le_total x.decode.2 y.decode.2 with hxy | hyx
    · exact hle h hxy
    · exact (hle h.symm hyx).symm
  intro x y h hxy
  obtain ⟨hxlt, hxleast, -, hxword⟩ := x.decode_spec
  obtain ⟨-, -, hynormal, hyword⟩ := y.decode_spec
  obtain ⟨shift, hshift⟩ := Int.le.dest hxy
  have hm : x.decode.1 = y.decode.1 * 2 ^ shift := by
    rw [← hshift, zpow_add₀ two_ne_zero, zpow_natCast, mul_left_comm, mul_comm] at h
    have hcancelled := mul_left_cancel₀ (zpow_ne_zero x.decode.2 two_ne_zero) h
    exact_mod_cast hcancelled
  have hsame : shift = 0 := by
    by_contra hne
    have hlarge := hynormal (by omega)
    have htwice : 2 ^ 1 ≤ 2 ^ shift := Nat.pow_le_pow_right (by decide) (by omega)
    have hproduct := Nat.mul_le_mul hlarge htwice
    omega
  subst hsame
  rw [pow_zero, mul_one] at hm
  rw [← UInt64.toNat_inj]
  omega

/-- A number without magnitude is a zero. -/
theorem isZero_of_decode (h : x.decode.1 = 0) : x.isZero = true := by
  obtain ⟨-, hleast, hnormal, hword⟩ := x.decode_spec
  rw [isZero, beq_iff_eq, ← UInt64.toNat_inj, UInt64.toNat_zero]
  omega

/-- Doubles that stand for one number are equal. -/
theorem equals_of_toRat? (hx : x.toRat? = some q) (hy : y.toRat? = some q) : x.equals y = true := by
  unfold toRat? at hx hy
  split at hx
  · cases hx
  split at hy
  · cases hy
  next hxfinite hyfinite =>
  simp only [Bool.or_eq_true, not_or, Bool.not_eq_true] at hxfinite hyfinite
  have hsigned := (Option.some.inj hx).trans (Option.some.inj hy).symm
  have hmagnitude : x.magnitude = y.magnitude := by
    have habs := congrArg abs hsigned
    rw [abs_mul, abs_mul, abs_signedDecode, abs_signedDecode, abs_of_pos (zpow_pos two_pos _),
      abs_of_pos (zpow_pos two_pos _)] at habs
    exact decode_injective habs
  have hdecode : x.decode = y.decode := by rw [decode, hmagnitude, decode]
  have hzero : x.isZero = y.isZero := by rw [isZero, hmagnitude, isZero]
  rw [equals, hxfinite.1, hyfinite.1, Bool.not_false, Bool.true_and, Bool.true_and, Bool.or_eq_true, beq_iff_eq,
    Bool.and_eq_true, ← hzero, and_self]
  by_cases hsign : x.isNegative = y.isNegative
  · exact .inl (congrArg bits (eq_of_magnitude hmagnitude hsign))
  · refine .inr (isZero_of_decode ?_)
    unfold signedDecode at hsigned
    rw [hdecode] at hsigned ⊢
    have hcancelled := mul_right_cancel₀ (zpow_ne_zero _ two_ne_zero) hsigned
    cases hneg : x.isNegative <;> cases hneg' : y.isNegative <;> simp_all

/-! ### Integers -/

/-- A double that is an integer stands for that. -/
theorem toRat?_of_toInt? (h : x.toInt? = some k) : x.toRat? = some (k : ℚ) := by
  unfold toInt? at h
  split at h
  · cases h
  · next hfinite =>
    rcases hd : x.decode with ⟨m, q⟩
    rw [hd] at h
    obtain ⟨whole, hwhole, hk⟩ : ∃ whole : Nat, (whole : ℚ) = m * (2 : ℚ) ^ q ∧
        (if x.isNegative then -(whole : Int) else whole) = k := by
      cases q with
      | ofNat shift => exact ⟨m * pow2 shift, by simp [pow2], by simpa using h⟩
      | negSucc shift =>
        dsimp only at h
        rw [pow2_succ] at h
        by_cases hdivides : m % 2 ^ (shift + 1) = 0
        · refine ⟨m / 2 ^ (shift + 1), ?_, by simpa [hdivides] using h⟩
          rw [Nat.cast_div (Nat.dvd_of_mod_eq_zero hdivides) (by simp), zpow_negSucc]
          push_cast
          rw [div_eq_mul_inv]
        · simp [hdivides] at h
    rw [toRat?, if_neg hfinite, signedDecode, hd]
    dsimp only
    split at hk
    · next hnegative =>
      rw [if_pos hnegative, ← hk]
      push_cast
      rw [hwhole, neg_mul]
    · next hnegative =>
      rw [if_neg hnegative, ← hk]
      push_cast
      rw [hwhole]

/-- A double that stands for an integer is that. -/
theorem toInt?_of_toRat? (h : x.toRat? = some (k : ℚ)) : x.toInt? = some k := by
  unfold toRat? at h
  split at h
  · cases h
  next hfinite =>
  have hsigned := Option.some.inj h
  obtain ⟨n, hn⟩ : ∃ n : Nat, |k| = n := ⟨k.natAbs, Int.abs_eq_natAbs k⟩
  have hmagnitude : (x.decode.1 : ℚ) * 2 ^ x.decode.2 = n := by
    have habs := congrArg abs hsigned
    rwa [abs_mul, abs_signedDecode, abs_of_pos (zpow_pos two_pos _), ← Int.cast_abs, hn, Int.cast_natCast] at habs
  have hsign : (if x.isNegative then -(n : Int) else n) = k := by
    unfold signedDecode at hsigned
    dsimp only at hsigned
    split
    · next hnegative =>
      rw [if_pos hnegative] at hsigned
      push_cast at hsigned
      rw [neg_mul, hmagnitude, ← Int.cast_natCast, ← Int.cast_neg] at hsigned
      exact Rat.intCast_inj.mp hsigned
    · next hnegative =>
      rw [if_neg hnegative, Int.cast_natCast, hmagnitude] at hsigned
      exact_mod_cast hsigned
  rcases hd : x.decode with ⟨m, e⟩
  rw [hd] at hmagnitude
  dsimp only at hmagnitude
  rw [toInt?, if_neg hfinite, hd]
  cases e with
  | ofNat shift =>
    have hwhole : m * pow2 shift = n := by
      rw [Int.ofNat_eq_natCast, zpow_natCast] at hmagnitude
      rw [pow2, Int.toNat_natCast]
      exact_mod_cast hmagnitude
    simpa [hwhole] using hsign
  | negSucc shift =>
    have hwhole : m = n * 2 ^ (shift + 1) := by
      rw [zpow_negSucc, ← div_eq_mul_inv, div_eq_iff (pow_ne_zero _ two_ne_zero)] at hmagnitude
      exact_mod_cast hmagnitude
    simpa [pow2_succ, hwhole] using hsign

end Double
end ScriptHost
