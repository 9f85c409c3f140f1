import Mathlib
import SurveyGateway.Proofs.Number.Interval

/-!
# The parts of a float

A float is taken apart into sign, mantissa and exponent to be written. `unpack_cases` lists what the bits can stand
for. A positive mantissa and its exponent are `Canonical` (`canonical_of_unpack`).
-/

namespace SurveyGateway.Number

open Float.Model Float.Model.UnpackedFloat

variable {spec : Format} {b : BitVec spec.numBits}

theorem minExponent_eq (spec : Format) :
    spec.minExponent = 1 - ((spec.exponentBias : ℤ) + spec.mantissaBitsWithoutImplicit) := by
  have hone : 1 ≤ 2 ^ (spec.exponentBits - 1) := Nat.one_le_two_pow
  unfold Format.minExponent Format.exponentBias Format.mantissaBits
  push_cast [Nat.cast_sub hone]
  ring

/-- The implicit bit stands ahead of the mantissa. -/
theorem toNat_implicit {n : ℕ} (v : BitVec n) : (1#1 ++ v).toNat = 2 ^ n + v.toNat := by
  have hor := Nat.shiftLeft_add_eq_or_of_lt v.isLt 1
  rw [BitVec.toNat_append, BitVec.toNat_ofNat, Nat.mod_eq_of_lt (by decide), ← hor, Nat.one_shiftLeft]

/-- Bits stand for no number, for a zero, for a number below the full mantissas, or for one with a full mantissa. -/
theorem unpack_cases (b : BitVec spec.numBits) :
    (UnpackedFloat.unpack spec b).isFinite = false ∨
      unpackExponent b = 0#_ ∧ unpackMantissa b = 0#_ ∧
        UnpackedFloat.unpack spec b = .zero (Sign.ofBitVec (unpackSign b)) ∨
      unpackExponent b = 0#_ ∧ (∃ h, UnpackedFloat.unpack spec b =
        .finite (Sign.ofBitVec (unpackSign b)) (unpackMantissa b).toNat spec.minExponent h) ∨
      unpackExponent b ≠ 0#_ ∧ ∃ h, UnpackedFloat.unpack spec b =
        .finite (Sign.ofBitVec (unpackSign b)) (2 ^ spec.mantissaBitsWithoutImplicit + (unpackMantissa b).toNat)
          ((unpackExponent b).toNat - (spec.exponentBias + spec.mantissaBitsWithoutImplicit : ℤ)) h := by
  unfold UnpackedFloat.unpack
  simp only
  split
  · left
    split <;> rfl
  · split
    · next h0 =>
      split
      · next hm => exact Or.inr (Or.inl ⟨h0, hm, rfl⟩)
      · next hm =>
        have hpos : 0 < (unpackMantissa b).toNat := BitVec.toNat_pos_of_ne_zero hm
        have hexp : ((unpackExponent b).toNat : ℤ) - (spec.exponentBias + spec.mantissaBitsWithoutImplicit : ℤ) + 1 =
            spec.minExponent := by
          rw [h0, minExponent_eq, BitVec.toNat_zero]
          omega
        exact Or.inr (Or.inr (Or.inl ⟨h0, hpos, by simp only [hexp]⟩))
    · next h0 =>
      have hpos : 0 < 2 ^ spec.mantissaBitsWithoutImplicit + (unpackMantissa b).toNat := by positivity
      exact Or.inr (Or.inr (Or.inr ⟨h0, hpos, by simp only [toNat_implicit]⟩))

/-- The mantissa and the exponent that are unpacked are those of the format. -/
theorem canonical_of_unpack {s : Sign} {m : ℕ} {e : ℤ} {h : 0 < m}
    (hb : UnpackedFloat.unpack spec b = .finite s m e h) : Canonical spec m e := by
  have hlt := (unpackMantissa b).isLt
  rcases unpack_cases b with hnot | ⟨-, -, hzero⟩ | ⟨-, hpos, hsub⟩ | ⟨h0, hpos, hfull⟩
  · rw [hb] at hnot
    cases hnot
  · cases hb.symm.trans hzero
  · cases hb.symm.trans hsub
    exact ⟨hpos, by rw [pow_succ]; omega, le_refl _, Or.inl rfl⟩
  · cases hb.symm.trans hfull
    have hexp : 0 < (unpackExponent b).toNat := BitVec.toNat_pos_of_ne_zero h0
    refine ⟨hpos, by rw [pow_succ]; omega, ?_, Or.inr (Nat.le_add_right _ _)⟩
    rw [minExponent_eq]
    omega

end SurveyGateway.Number
