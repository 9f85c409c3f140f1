import Mathlib
import SurveyGateway.Volume.Metadata

/-!
# Reading blocks back

A block holds its samples and nothing else: `decodeSamples` gives back what `encodeSamples` was given, to the bit
(`decodeSamples_encodeSamples`).
-/

namespace SurveyGateway

/-- A byte of a word, put back to its place, has the bits of its place. -/
theorem getLsbD_byte (w : BitVec 32) (k : ℕ) {i : ℕ} (hi : i < 32) :
    (((w >>> k).setWidth 8).setWidth 32 <<< k).getLsbD i = (decide (k ≤ i ∧ i < k + 8) && w.getLsbD i) := by
  rcases Nat.lt_or_ge i k with hlt | hge
  · have hnot : ¬ k ≤ i := by omega
    simp [hlt, hnot]
  · obtain ⟨j, rfl⟩ := Nat.exists_eq_add_of_le hge
    have hj : j < 32 := by omega
    simp [hi, hj]

/-- A word is read back from its four bytes. -/
theorem word_littleEndian (w : UInt32) :
    w.toUInt8.toUInt32 ||| ((w >>> 8).toUInt8.toUInt32 <<< 8) ||| ((w >>> 16).toUInt8.toUInt32 <<< 16) |||
      ((w >>> 24).toUInt8.toUInt32 <<< 24) = w := by
  refine UInt32.toBitVec_inj.mp (BitVec.eq_of_getLsbD_eq fun i hi => ?_)
  have hbytes : (w.toUInt8.toUInt32 ||| ((w >>> 8).toUInt8.toUInt32 <<< 8) ||| ((w >>> 16).toUInt8.toUInt32 <<< 16) |||
      ((w >>> 24).toUInt8.toUInt32 <<< 24)).toBitVec =
        (w.toBitVec.setWidth 8).setWidth 32 ||| ((w.toBitVec >>> 8).setWidth 8).setWidth 32 <<< 8 |||
          ((w.toBitVec >>> 16).setWidth 8).setWidth 32 <<< 16 |||
          ((w.toBitVec >>> 24).setWidth 8).setWidth 32 <<< 24 := rfl
  have hlow := getLsbD_byte w.toBitVec 0 hi
  rw [BitVec.ushiftRight_zero, BitVec.shiftLeft_zero] at hlow
  rw [hbytes, BitVec.getLsbD_or, BitVec.getLsbD_or, BitVec.getLsbD_or, hlow, getLsbD_byte _ 8 hi,
    getLsbD_byte _ 16 hi, getLsbD_byte _ 24 hi, ← Bool.and_or_distrib_right, ← Bool.and_or_distrib_right,
    ← Bool.and_or_distrib_right]
  -- every bit stands in one of the four places
  have hplace : (decide (0 ≤ i ∧ i < 0 + 8) || decide (8 ≤ i ∧ i < 8 + 8) || decide (16 ≤ i ∧ i < 16 + 8) ||
      decide (24 ≤ i ∧ i < 24 + 8)) = true := by
    simp only [Bool.or_eq_true, decide_eq_true_eq]
    omega
  rw [hplace, Bool.true_and]

theorem decodeSamples_encodeSamples (samples : List Float32) : decodeSamples (encodeSamples samples) = samples := by
  induction samples with
  | nil => rfl
  | cons x samples ih =>
    have hcons : encodeSamples (x :: samples) = littleEndian x.toBits ++ encodeSamples samples := List.flatMap_cons
    rw [hcons]
    simp only [littleEndian, List.cons_append, List.nil_append, decodeSamples, word_littleEndian,
      Float32.ofBits_toBits, ih]

end SurveyGateway
