import Mathlib
import SurveyGateway.Proofs.Number.Order

/-!
# The total order of floats

Floats are sorted by their bits. The order of the bits is that of sign and magnitude, so it tells every two patterns
apart; on floats it is the order of numbers, with the negative zero ahead of the other one and with what is no number
at the end.

## The model

`PrecedesBits` is the order of bit patterns, and `Precedes` that of floats, in terms of their comparison. `placeOf` is
where the parts of a float stand on a line of whole numbers, with both zeros at its zero.

## What is proved

* `totalRank_lt_iff` — ranks are in order as the patterns are.
* `totalRank_inj` — no two patterns have the same rank.
* `lt_iff_place` — two numbers are compared as their places are.
* `precedes_iff` — the bits of floats are in order as the floats are.
-/

namespace SurveyGateway.Number

open Float.Model Float.Model.UnpackedFloat

/-! ### Bit patterns -/

/-- One bit pattern is ahead of another one: a negative pattern is ahead of the others, and of two patterns with one
sign that of the lesser magnitude is ahead, or that of the greater one if both are negative. -/
def PrecedesBits (a b : UInt64) : Prop :=
  if a < 0x8000000000000000 then b < 0x8000000000000000 ∧ a < b else b < 0x8000000000000000 ∨ b < a

instance : DecidableRel PrecedesBits := fun a b => inferInstanceAs (Decidable
  (if a < 0x8000000000000000 then b < 0x8000000000000000 ∧ a < b else b < 0x8000000000000000 ∨ b < a))

variable {a b : UInt64}

theorem precedesBits_iff_toNat : PrecedesBits a b ↔
    a.toNat < 2 ^ 63 ∧ b.toNat < 2 ^ 63 ∧ a.toNat < b.toNat ∨
      2 ^ 63 ≤ a.toNat ∧ (b.toNat < 2 ^ 63 ∨ b.toNat < a.toNat) := by
  have hsign : (0x8000000000000000 : UInt64).toNat = 2 ^ 63 := rfl
  unfold PrecedesBits
  simp only [UInt64.lt_iff_toNat_lt, hsign]
  split <;> omega

theorem toNat_totalRank (a : UInt64) :
    (totalRank a).toNat = if a.toNat < 2 ^ 63 then a.toNat + 2 ^ 63 else 2 ^ 64 - 1 - a.toNat := by
  have hsign : (0x8000000000000000 : UInt64).toNat = 2 ^ 63 := rfl
  unfold totalRank
  simp only [UInt64.lt_iff_toNat_lt, hsign]
  split
  · next h =>
    have hor := Nat.two_pow_add_eq_or_of_lt h 1
    rw [mul_one] at hor
    rw [UInt64.toNat_or, hsign, Nat.lor_comm, ← hor, Nat.add_comm]
  · exact UInt64.toNat_not a

theorem totalRank_lt_iff : totalRank a < totalRank b ↔ PrecedesBits a b := by
  have ha := a.toNat_lt
  have hb := b.toNat_lt
  rw [UInt64.lt_iff_toNat_lt, toNat_totalRank, toNat_totalRank, precedesBits_iff_toNat]
  split <;> split <;> omega

theorem totalRank_inj (h : totalRank a = totalRank b) : a = b := by
  have ha := a.toNat_lt
  have hb := b.toNat_lt
  have hrank := congrArg UInt64.toNat h
  rw [toNat_totalRank, toNat_totalRank] at hrank
  refine UInt64.toNat_inj.mp ?_
  split at hrank <;> split at hrank <;> omega

/-! ### Places -/

/-- Where the mantissa and the exponent of a positive float put it. -/
def magnitude (m : ℕ) (e : ℤ) : ℤ := (e - Format.binary64.minExponent) * 2 ^ 52 + m

/-- Where the parts of a float stand on a line of whole numbers, in steps from one float to the next. The place of what
is no number is of no account. -/
def placeOf : UnpackedFloat → ℤ
  | .notANumber | .zero _ => 0
  | .infinity s => s.apply (2047 * 2 ^ 52)
  | .finite s m e _ => s.apply (magnitude m e)

/-- Where a float stands. -/
def place (x : Float) : ℤ := placeOf x.toModel.unpack

theorem minExponent_binary64 : Format.binary64.minExponent = -1074 := rfl

/-- Positive floats are compared as their places are. -/
theorem compare_magnitude {m m' : ℕ} {e e' : ℤ} (hc : Canonical .binary64 m e) (hc' : Canonical .binary64 m' e') :
    (compare e e').then (compare m m') = compare (magnitude m e) (magnitude m' e') := by
  have hlt : m < 2 ^ 53 := hc.lt
  have hlt' : m' < 2 ^ 53 := hc'.lt
  have hmin := hc.le
  have hmin' := hc'.le
  have hfull : e = _ ∨ 2 ^ 52 ≤ m := hc.full
  have hfull' : e' = _ ∨ 2 ^ 52 ≤ m' := hc'.full
  unfold magnitude
  rcases lt_trichotomy e e' with he | rfl | he
  · rw [compare_lt_iff_lt.mpr he]
    exact (compare_lt_iff_lt.mpr (by omega)).symm
  · rw [compare_eq_iff_eq.mpr rfl]
    rcases lt_trichotomy m m' with hm | rfl | hm
    · rw [compare_lt_iff_lt.mpr hm]
      exact (compare_lt_iff_lt.mpr (by omega)).symm
    · rw [compare_eq_iff_eq.mpr rfl]
      exact (compare_eq_iff_eq.mpr rfl).symm
    · rw [compare_gt_iff_gt.mpr hm]
      exact (compare_gt_iff_gt.mpr (by omega)).symm
  · rw [compare_gt_iff_gt.mpr he]
    exact (compare_gt_iff_gt.mpr (by omega)).symm

variable {u v : UnpackedFloat}

/-- A finite float other than zero stands between zero and infinity. -/
theorem magnitude_bounds {m : ℕ} {e : ℤ} (hc : Canonical .binary64 m e) (hr : InRange .binary64 e) :
    0 < magnitude m e ∧ magnitude m e < 2047 * 2 ^ 52 := by
  have hpos := hc.pos
  have hlt : m < 2 ^ 53 := hc.lt
  have hmin : -1074 ≤ e := hc.le
  have hr : (e + 1023 + 52).toNat + 1 < 2048 := hr
  rw [magnitude, minExponent_binary64]
  omega

theorem some_lt_eq {x y : ℤ} (h : x < y) : some Ordering.lt = some (compare x y) :=
  congrArg some (compare_lt_iff_lt.mpr h).symm

theorem some_gt_eq {x y : ℤ} (h : y < x) : some Ordering.gt = some (compare x y) :=
  congrArg some (compare_gt_iff_gt.mpr h).symm

/-- Parts are compared as their places are. -/
theorem compare_eq_place (hu : Fits .binary64 u) (hv : Fits .binary64 v) (hnu : u.isNaN = false)
    (hnv : v.isNaN = false) : u.compare v = some (compare (placeOf u) (placeOf v)) := by
  cases u with
  | notANumber => cases hnu
  | zero s =>
    cases v with
    | notANumber => cases hnv
    | zero s' => rfl
    | infinity s' => cases s' <;> rfl
    | finite s' m' e' h' =>
      obtain ⟨hpos, -⟩ := magnitude_bounds hv.1 hv.2
      cases s' with
      | positive => exact some_lt_eq hpos
      | negative => exact some_gt_eq (neg_lt_zero.mpr hpos)
  | infinity s =>
    cases v with
    | notANumber => cases hnv
    | zero s' => cases s <;> rfl
    | infinity s' => cases s <;> cases s' <;> rfl
    | finite s' m' e' h' =>
      obtain ⟨hpos, hlt⟩ := magnitude_bounds hv.1 hv.2
      cases s with
      | positive => cases s' <;> exact some_gt_eq (by simp only [placeOf, Sign.apply]; omega)
      | negative => cases s' <;> exact some_lt_eq (by simp only [placeOf, Sign.apply]; omega)
  | finite s m e h =>
    obtain ⟨hpos, hlt⟩ := magnitude_bounds hu.1 hu.2
    cases v with
    | notANumber => cases hnv
    | zero s' =>
      cases s with
      | positive => exact some_gt_eq hpos
      | negative => exact some_lt_eq (neg_lt_zero.mpr hpos)
    | infinity s' =>
      cases s' with
      | positive => cases s <;> exact some_lt_eq (by simp only [placeOf, Sign.apply]; omega)
      | negative => cases s <;> exact some_gt_eq (by simp only [placeOf, Sign.apply]; omega)
    | finite s' m' e' h' =>
      obtain ⟨hpos', -⟩ := magnitude_bounds hv.1 hv.2
      have hsame := compare_magnitude hu.1 hv.1
      cases s with
      | positive =>
        cases s' with
        | positive => exact congrArg some hsame
        | negative => exact some_gt_eq (by simp only [placeOf, Sign.apply]; omega)
      | negative =>
        cases s' with
        | positive => exact some_lt_eq (by simp only [placeOf, Sign.apply]; omega)
        | negative =>
          have hneg : StrictAnti fun x : ℤ => -x := fun _ _ h => neg_lt_neg h
          show some ((compare e e').then (compare m m')).swap = some (compare (-magnitude m e) (-magnitude m' e'))
          rw [hsame, ← cmp_eq_compare, ← cmp_eq_compare, hneg.cmp_map_eq, cmp_swap]

/-- Two floats are in order if both are numbers and their places are in order. -/
theorem lt_iff_place {x y : Float} : x < y ↔ x.isNaN = false ∧ y.isNaN = false ∧ place x < place y := by
  show decide (x.toModel < y.toModel) = true ↔ _
  rw [decide_eq_true_iff]
  show x.toModel.unpack.lt y.toModel.unpack = true ↔ x.toModel.unpack.isNaN = false ∧ y.toModel.unpack.isNaN = false ∧ _
  unfold UnpackedFloat.lt place
  by_cases hnan : x.toModel.unpack.isNaN = true ∨ y.toModel.unpack.isNaN = true
  · rw [compare_of_isNaN hnan]
    rcases hnan with h | h <;> simp [h]
  · obtain ⟨hx, hy⟩ := not_or.mp hnan
    rw [Bool.not_eq_true] at hx hy
    rw [compare_eq_place (fits x) (fits y) hx hy, beq_iff_eq, Option.some.injEq, compare_lt_iff_lt]
    simp [hx, hy]

/-! ### Bits and places -/

/-- A bit pattern is its sign, its exponent and its mantissa. -/
theorem toNat_eq_parts (b : BitVec Format.binary64.numBits) :
    b.toNat = (unpackSign b).toNat * 2 ^ 63 + (unpackExponent b).toNat * 2 ^ 52 + (unpackMantissa b).toNat := by
  have hlt : b.toNat < 2 ^ 64 := b.isLt
  simp only [unpackSign, unpackExponent, unpackMantissa, BitVec.toNat_cast, BitVec.extractLsb_toNat,
    Nat.shiftRight_eq_div_pow]
  norm_num
  omega

/-- The place of a bit pattern is what is behind its sign. -/
theorem placeOf_unpack {b : BitVec Format.binary64.numBits} (h : (UnpackedFloat.unpack .binary64 b).isNaN = false) :
    placeOf (UnpackedFloat.unpack .binary64 b) =
      (Sign.ofBitVec (unpackSign b)).apply ((unpackExponent b).toNat * 2 ^ 52 + (unpackMantissa b).toNat) := by
  rcases unpack_cases b with hnot | ⟨he, hm, hzero⟩ | ⟨he, hpos, hsub⟩ | ⟨he, hpos, hfull⟩
  · -- infinity has all bits of the exponent and none of the mantissa
    rcases isFinite_or_infinity h with hfin | ⟨s, hs⟩
    · rw [hfin] at hnot
      cases hnot
    · have hs' := hs
      unfold UnpackedFloat.unpack at hs'
      simp only at hs'
      split_ifs at hs' with hexp hman
      cases hs'
      rw [hs, hexp, hman]
      rfl
  · rw [hzero, he, hm]
    cases Sign.ofBitVec (unpackSign b) <;> simp [placeOf, Sign.apply]
  · rw [hsub, he]
    simp [placeOf, magnitude]
  · rw [hfull]
    simp only [placeOf, magnitude, minExponent_binary64]
    congr 1
    show (((unpackExponent b).toNat : ℤ) - (1023 + 52 : ℕ) - -1074) * 2 ^ 52 +
      ((2 ^ 52 + (unpackMantissa b).toNat : ℕ) : ℤ) = _
    push_cast
    ring

/-- No place is beyond those of the infinities. -/
theorem placeOf_bounds (hu : Fits .binary64 u) : -(2047 * 2 ^ 52) ≤ placeOf u ∧ placeOf u ≤ 2047 * 2 ^ 52 := by
  cases u with
  | notANumber => decide
  | zero s => cases s <;> decide
  | infinity s => cases s <;> decide
  | finite s m e h =>
    obtain ⟨hpos, hlt⟩ := magnitude_bounds hu.1 hu.2
    cases s <;> simp only [placeOf, Sign.apply] <;> omega

/-- The bits of parts are their place, with a sign ahead if they are negative. -/
theorem toNat_eq_placeOf {b : BitVec Format.binary64.numBits} (h : (UnpackedFloat.unpack .binary64 b).isNaN = false) :
    b.toNat < 2 ^ 63 ∧ (b.toNat : ℤ) = placeOf (UnpackedFloat.unpack .binary64 b) ∨
      2 ^ 63 ≤ b.toNat ∧ (b.toNat : ℤ) = 2 ^ 63 - placeOf (UnpackedFloat.unpack .binary64 b) := by
  have hparts := toNat_eq_parts b
  have hexp : (unpackExponent b).toNat < 2 ^ 11 := (unpackExponent b).isLt
  have hman : (unpackMantissa b).toNat < 2 ^ 52 := (unpackMantissa b).isLt
  rw [placeOf_unpack h]
  rcases BitVec.eq_zero_or_eq_one (unpackSign b) with hsign | hsign
  · rw [hsign] at hparts ⊢
    simp only [Sign.ofBitVec, Sign.apply, if_pos, BitVec.toNat_zero] at hparts ⊢
    omega
  · have hne : ¬ (1#1 : BitVec 1) = 0#1 := by decide
    rw [hsign] at hparts ⊢
    simp only [Sign.ofBitVec, Sign.apply, if_neg hne, BitVec.toNat_ofNat] at hparts ⊢
    omega

variable {x y : Float}

/-- The bits of a number are its place, with a sign ahead if it is negative. -/
theorem toNat_toBits (h : x.isNaN = false) :
    x.toBits.toNat < 2 ^ 63 ∧ (x.toBits.toNat : ℤ) = place x ∨
      2 ^ 63 ≤ x.toBits.toNat ∧ (x.toBits.toNat : ℤ) = 2 ^ 63 - place x :=
  toNat_eq_placeOf h

theorem place_bounds (x : Float) : -(2047 * 2 ^ 52) ≤ place x ∧ place x ≤ 2047 * 2 ^ 52 := placeOf_bounds (fits x)

/-- The bits of what is no number are always the same. -/
theorem toNat_toBits_of_isNaN (h : x.isNaN = true) : x.toBits.toNat = 0x7ff8000000000000 := by
  have hunpack : UnpackedFloat.unpack .binary64 x.toModel.toBits.toBitVec = .notANumber := by
    have h : x.toModel.unpack.isNaN = true := h
    unfold Float.Model.unpack at h
    cases hx : UnpackedFloat.unpack .binary64 x.toModel.toBits.toBitVec with
    | notANumber => rfl
    | _ =>
      rw [hx] at h
      cases h
  have hpack := UnpackedFloat.pack_unpack_of_valid x.toModel.valid
  rw [hunpack] at hpack
  exact (congrArg BitVec.toNat hpack).symm

theorem eq_zero_iff : x = 0.0 ↔ x.toBits.toNat = 0 := by
  rw [← Float.toBits_inj, ← UInt64.toNat_inj]
  rfl

theorem eq_neg_zero_iff : x = -0.0 ↔ x.toBits.toNat = 2 ^ 63 := by
  rw [← Float.toBits_inj, ← UInt64.toNat_inj]
  rfl

/-! ### Floats -/

/-- One float is ahead of another one: it is less, or it is the negative zero ahead of the other one, or it is a number
ahead of what is none. -/
def Precedes (x y : Float) : Prop := x < y ∨ x = -0.0 ∧ y = 0.0 ∨ x.isNaN = false ∧ y.isNaN = true

instance : DecidableRel Precedes := fun x y =>
  inferInstanceAs (Decidable (x < y ∨ x = -0.0 ∧ y = 0.0 ∨ x.isNaN = false ∧ y.isNaN = true))

/-- The bits of floats are in order as the floats are. -/
theorem precedes_iff : PrecedesBits x.toBits y.toBits ↔ Precedes x y := by
  rw [precedesBits_iff_toNat, Precedes, lt_iff_place, eq_zero_iff, eq_neg_zero_iff]
  have hx := place_bounds x
  have hy := place_bounds y
  cases hnx : x.isNaN with
  | true =>
    have hbits := toNat_toBits_of_isNaN hnx
    cases hny : y.isNaN with
    | true =>
      have hbits' := toNat_toBits_of_isNaN hny
      simp [hbits, hbits']
    | false =>
      have hbits' := toNat_toBits hny
      simp only [Bool.true_eq_false, false_and, or_false, false_or]
      omega
  | false =>
    have hbits := toNat_toBits hnx
    cases hny : y.isNaN with
    | true =>
      have hbits' := toNat_toBits_of_isNaN hny
      simp only [Bool.true_eq_false, false_and, and_false, and_true, or_true, iff_true]
      omega
    | false =>
      have hbits' := toNat_toBits hny
      simp only [Bool.false_eq_true, and_false, or_false, true_and]
      omega

end SurveyGateway.Number
