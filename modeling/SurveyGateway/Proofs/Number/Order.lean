import Mathlib
import SurveyGateway.Number.Conversion
import SurveyGateway.Proofs.Number.Rounding

/-!
# The order of floats

Floats are compared by their parts. This module shows that the order is that of the numbers they stand for, with an
infinity at each end.

## The model

`valueOf` is the extended real number that the parts of a float stand for, and `value` that of a float. What is not a
number has the value zero, which is of no account; every statement says where it matters. `Fits` says of some parts that
they are those of a float.

## What is proved

* `lt_iff`, `le_iff` — two numbers are compared as their values are.
* `le_toNat_iff` — a count is the whole part of a value, as far as words reach.
* `value_le_maximum_right`, `value_minimum_le_left`, `clamp_cases` — the greater and the lesser of two numbers.
-/

namespace SurveyGateway.Number

open Float.Model Float.Model.UnpackedFloat

variable {spec : Format} {u v : UnpackedFloat}

/-! ### Values -/

/-- The number that the parts of a float stand for, with an infinity at each end. -/
noncomputable def valueOf : UnpackedFloat → EReal
  | .infinity .positive => ⊤
  | .infinity .negative => ⊥
  | u => realOf u

/-- The number that a float stands for. -/
noncomputable def value (x : Float) : EReal := valueOf x.toModel.unpack

/-- The number that a 32-bit float stands for. -/
noncomputable def value32 (x : Float32) : EReal := valueOf x.toModel.unpack

/-- The value of what is no number is of no account. -/
theorem value_of_isNaN {x : Float} (h : x.isNaN = true) : value x = 0 := by
  have h : x.toModel.unpack.isNaN = true := h
  unfold value
  cases hx : x.toModel.unpack with
  | notANumber => rfl
  | _ =>
    rw [hx] at h
    cases h

/-- Parts are those of a float of a format. -/
def Fits (spec : Format) : UnpackedFloat → Prop
  | .finite _ m e _ => Canonical spec m e ∧ InRange spec e
  | _ => True

theorem fits_unpack (hbits : 2 ≤ spec.exponentBits) (b : BitVec spec.numBits) :
    Fits spec (UnpackedFloat.unpack spec b) := by
  cases h : UnpackedFloat.unpack spec b with
  | finite s m e hm => exact ⟨canonical_of_unpack h, inRange_of_unpack hbits h⟩
  | _ => trivial

theorem fits (x : Float) : Fits .binary64 x.toModel.unpack := fits_unpack (by decide) _

theorem fits32 (x : Float32) : Fits .binary32 x.toModel.unpack := fits_unpack (by decide) _

/-! ### Comparison -/

/-- A greater exponent or else a greater mantissa makes a greater number. -/
theorem canonical_lt {m m' : ℕ} {e e' : ℤ} (hc : Canonical spec m e) (hc' : Canonical spec m' e')
    (h : e < e' ∨ e = e' ∧ m < m') : (m : ℝ) * 2 ^ e < m' * 2 ^ e' := by
  rcases h with he | ⟨rfl, hm⟩
  · have hmin := hc.le
    have hfull : 2 ^ spec.mantissaBitsWithoutImplicit ≤ m' := hc'.full.resolve_left (by omega)
    have hpow : (2 : ℝ) ^ (e + 1) ≤ 2 ^ e' := zpow_le_zpow_right₀ (by norm_num) (by omega)
    calc (m : ℝ) * 2 ^ e < 2 ^ (spec.mantissaBitsWithoutImplicit + 1) * 2 ^ e :=
          mul_lt_mul_of_pos_right (by exact_mod_cast hc.lt) (by positivity)
      _ = 2 ^ spec.mantissaBitsWithoutImplicit * 2 ^ (e + 1) := by
          rw [pow_succ, zpow_add₀ (by norm_num), zpow_one]
          ring
      _ ≤ m' * 2 ^ e' := mul_le_mul (by exact_mod_cast hfull) hpow (by positivity) (by positivity)
  · exact mul_lt_mul_of_pos_right (by exact_mod_cast hm) (by positivity)

theorem compare_parts {m m' : ℕ} {e e' : ℤ} (hc : Canonical spec m e) (hc' : Canonical spec m' e') :
    (compare e e').then (compare m m') = cmp ((m : ℝ) * 2 ^ e) (m' * 2 ^ e') := by
  rcases lt_trichotomy e e' with he | rfl | he
  · rw [compare_lt_iff_lt.mpr he, (cmp_eq_lt_iff _ _).mpr (canonical_lt hc hc' (Or.inl he))]
    rfl
  · rw [compare_eq_iff_eq.mpr rfl]
    rcases lt_trichotomy m m' with hm | rfl | hm
    · rw [compare_lt_iff_lt.mpr hm, (cmp_eq_lt_iff _ _).mpr (canonical_lt hc hc' (Or.inr ⟨rfl, hm⟩))]
      rfl
    · rw [compare_eq_iff_eq.mpr rfl, (cmp_eq_eq_iff _ _).mpr rfl]
      rfl
    · rw [compare_gt_iff_gt.mpr hm, (cmp_eq_gt_iff _ _).mpr (canonical_lt hc' hc (Or.inr ⟨rfl, hm⟩))]
      rfl
  · rw [compare_gt_iff_gt.mpr he, (cmp_eq_gt_iff _ _).mpr (canonical_lt hc' hc (Or.inl he))]
    rfl

theorem realOf_zero (s : Sign) : realOf (.zero s) = 0 := rfl

theorem realOf_positive {m : ℕ} {e : ℤ} (h : 0 < m) : realOf (.finite .positive m e h) = m * 2 ^ e := by
  simp [realOf, Sign.apply]

theorem realOf_negative {m : ℕ} {e : ℤ} (h : 0 < m) : realOf (.finite .negative m e h) = -(m * 2 ^ e) := by
  simp [realOf, Sign.apply]

theorem valueOf_of_isFinite (h : u.isFinite = true) : valueOf u = realOf u := by
  cases u with
  | notANumber => cases h
  | infinity s => cases h
  | zero s => rfl
  | finite s m e hm => rfl

/-- The parts of finite floats are compared as real numbers. -/
theorem compare_of_isFinite (hu : Fits spec u) (hv : Fits spec v) (hfu : u.isFinite = true)
    (hfv : v.isFinite = true) : u.compare v = some (cmp (realOf u) (realOf v)) := by
  have hpos : ∀ {m : ℕ} {e : ℤ}, 0 < m → (0 : ℝ) < m * 2 ^ e := fun h => by positivity
  have hneg : StrictAnti fun x : ℝ => -x := fun _ _ h => neg_lt_neg h
  cases u with
  | notANumber => cases hfu
  | infinity s => cases hfu
  | zero s =>
    cases v with
    | notANumber => cases hfv
    | infinity s' => cases hfv
    | zero s' => simp [UnpackedFloat.compare, realOf]
    | finite s' m' e' h' =>
      cases s' with
      | positive =>
        rw [realOf_zero, realOf_positive, (cmp_eq_lt_iff _ _).mpr (hpos h')]
        rfl
      | negative =>
        rw [realOf_zero, realOf_negative, (cmp_eq_gt_iff _ _).mpr (neg_lt_zero.mpr (hpos h'))]
        rfl
  | finite s m e h =>
    cases v with
    | notANumber => cases hfv
    | infinity s' => cases hfv
    | zero s' =>
      cases s with
      | positive =>
        rw [realOf_zero, realOf_positive, (cmp_eq_gt_iff _ _).mpr (hpos h)]
        rfl
      | negative =>
        rw [realOf_zero, realOf_negative, (cmp_eq_lt_iff _ _).mpr (neg_lt_zero.mpr (hpos h))]
        rfl
    | finite s' m' e' h' =>
      have hsigns : -(m * 2 ^ e : ℝ) < m' * 2 ^ e' := (neg_lt_zero.mpr (hpos h)).trans (hpos h')
      have hsigns' : -(m' * 2 ^ e' : ℝ) < m * 2 ^ e := (neg_lt_zero.mpr (hpos h')).trans (hpos h)
      cases s with
      | positive =>
        cases s' with
        | positive => rw [realOf_positive, realOf_positive, ← compare_parts hu.1 hv.1]; rfl
        | negative => rw [realOf_positive, realOf_negative, (cmp_eq_gt_iff _ _).mpr hsigns']; rfl
      | negative =>
        cases s' with
        | positive => rw [realOf_negative, realOf_positive, (cmp_eq_lt_iff _ _).mpr hsigns]; rfl
        | negative =>
          rw [realOf_negative, realOf_negative, hneg.cmp_map_eq, ← cmp_swap, ← compare_parts hu.1 hv.1]
          rfl

theorem isFinite_or_infinity (h : u.isNaN = false) : u.isFinite = true ∨ ∃ s, u = .infinity s := by
  cases u with
  | notANumber => cases h
  | infinity s => exact Or.inr ⟨s, rfl⟩
  | zero s => exact Or.inl rfl
  | finite s m e hm => exact Or.inl rfl

/-- Parts are compared as the numbers they stand for. -/
theorem compare_eq (hu : Fits spec u) (hv : Fits spec v) (hnu : u.isNaN = false) (hnv : v.isNaN = false) :
    u.compare v = some (cmp (valueOf u) (valueOf v)) := by
  rcases isFinite_or_infinity hnu with hfu | ⟨s, rfl⟩
  · rcases isFinite_or_infinity hnv with hfv | ⟨s', rfl⟩
    · rw [compare_of_isFinite hu hv hfu hfv, valueOf_of_isFinite hfu, valueOf_of_isFinite hfv,
        EReal.coe_strictMono.cmp_map_eq]
    · rw [valueOf_of_isFinite hfu]
      cases s' with
      | positive =>
        rw [valueOf, (cmp_eq_lt_iff _ _).mpr (EReal.coe_lt_top _)]
        cases u <;> first | rfl | cases hfu
      | negative =>
        rw [valueOf, (cmp_eq_gt_iff _ _).mpr (EReal.bot_lt_coe _)]
        cases u <;> first | rfl | cases hfu
  · rcases isFinite_or_infinity hnv with hfv | ⟨s', rfl⟩
    · rw [valueOf_of_isFinite hfv]
      cases s with
      | positive =>
        rw [valueOf, (cmp_eq_gt_iff _ _).mpr (EReal.coe_lt_top _)]
        cases v <;> first | rfl | cases hfv
      | negative =>
        rw [valueOf, (cmp_eq_lt_iff _ _).mpr (EReal.bot_lt_coe _)]
        cases v <;> first | rfl | cases hfv
    · have hends : (⊥ : EReal) < ⊤ := bot_lt_top
      cases s <;> cases s' <;>
        simp only [valueOf, (cmp_eq_lt_iff _ _).mpr hends, (cmp_eq_gt_iff _ _).mpr hends, cmp_self_eq_eq] <;> rfl

theorem compare_of_isNaN (h : u.isNaN = true ∨ v.isNaN = true) : u.compare v = none := by
  rcases h with h | h
  · cases u with
    | notANumber => rfl
    | _ => cases h
  · cases v with
    | notANumber => cases u <;> rfl
    | _ => cases h

theorem unpacked_lt_iff (hu : Fits spec u) (hv : Fits spec v) :
    u.lt v = true ↔ u.isNaN = false ∧ v.isNaN = false ∧ valueOf u < valueOf v := by
  unfold UnpackedFloat.lt
  by_cases hnan : u.isNaN = true ∨ v.isNaN = true
  · rw [compare_of_isNaN hnan]
    rcases hnan with h | h <;> simp [h]
  · obtain ⟨hnu, hnv⟩ := not_or.mp hnan
    rw [Bool.not_eq_true] at hnu hnv
    rw [compare_eq hu hv hnu hnv, beq_iff_eq, Option.some.injEq, cmp_eq_lt_iff]
    simp [hnu, hnv]

theorem unpacked_le_iff (hu : Fits spec u) (hv : Fits spec v) :
    u.le v = true ↔ u.isNaN = false ∧ v.isNaN = false ∧ valueOf u ≤ valueOf v := by
  unfold UnpackedFloat.le
  by_cases hnan : u.isNaN = true ∨ v.isNaN = true
  · rw [compare_of_isNaN hnan]
    rcases hnan with h | h <;> simp [h]
  · obtain ⟨hnu, hnv⟩ := not_or.mp hnan
    rw [Bool.not_eq_true] at hnu hnv
    rw [compare_eq hu hv hnu hnv, Option.any_some, ← not_lt, ← cmp_eq_gt_iff]
    cases cmp (valueOf u) (valueOf v) <;> simp [hnu, hnv]

theorem unpacked_beq_iff (hu : Fits spec u) (hv : Fits spec v) :
    u.beq v = true ↔ u.isNaN = false ∧ v.isNaN = false ∧ valueOf u = valueOf v := by
  unfold UnpackedFloat.beq
  by_cases hnan : u.isNaN = true ∨ v.isNaN = true
  · rw [compare_of_isNaN hnan]
    rcases hnan with h | h <;> simp [h]
  · obtain ⟨hnu, hnv⟩ := not_or.mp hnan
    rw [Bool.not_eq_true] at hnu hnv
    rw [compare_eq hu hv hnu hnv, beq_iff_eq, Option.some.injEq, cmp_eq_eq_iff]
    simp [hnu, hnv]

variable {a b : Float}

/-- Two floats are in order if both are numbers and their values are in order. -/
theorem lt_iff : a < b ↔ a.isNaN = false ∧ b.isNaN = false ∧ value a < value b := by
  show decide (a.toModel < b.toModel) = true ↔ _
  rw [decide_eq_true_iff]
  exact unpacked_lt_iff (fits a) (fits b)

theorem le_iff : a ≤ b ↔ a.isNaN = false ∧ b.isNaN = false ∧ value a ≤ value b := by
  show decide (a.toModel ≤ b.toModel) = true ↔ _
  rw [decide_eq_true_iff]
  exact unpacked_le_iff (fits a) (fits b)

theorem le32_iff {a b : Float32} : a ≤ b ↔ a.isNaN = false ∧ b.isNaN = false ∧ value32 a ≤ value32 b := by
  show decide (a.toModel ≤ b.toModel) = true ↔ _
  rw [decide_eq_true_iff]
  exact unpacked_le_iff (fits32 a) (fits32 b)

theorem beq32_iff {a b : Float32} :
    (a == b) = true ↔ a.isNaN = false ∧ b.isNaN = false ∧ value32 a = value32 b :=
  unpacked_beq_iff (fits32 a) (fits32 b)

/-- Two numbers that are not in order are in the other one. -/
theorem value_le_of_not_lt (ha : a.isNaN = false) (hb : b.isNaN = false) (h : ¬ a < b) : value b ≤ value a := by
  rw [lt_iff, not_and, not_and, not_lt] at h
  exact h ha hb

/-! ### The greater and the lesser -/

theorem isNaN_maximum_left (ha : a.isNaN = false) : (maximum a b).isNaN = false := by
  unfold maximum
  rw [ha, if_neg Bool.false_ne_true]
  split
  · next h => exact (lt_iff.mp h).2.1
  · exact ha

theorem isNaN_minimum_left (ha : a.isNaN = false) : (minimum a b).isNaN = false := by
  unfold minimum
  rw [ha, if_neg Bool.false_ne_true]
  split
  · next h => exact (lt_iff.mp h).1
  · exact ha

theorem value_le_maximum_right (hb : b.isNaN = false) : value b ≤ value (maximum a b) := by
  unfold maximum
  split
  · exact le_refl _
  · next ha =>
    split
    · exact le_refl _
    · next h => exact value_le_of_not_lt (Bool.eq_false_iff.mpr ha) hb h

theorem value_minimum_le_left (ha : a.isNaN = false) : value (minimum a b) ≤ value a := by
  unfold minimum
  rw [ha, if_neg Bool.false_ne_true]
  split
  · next h => exact (lt_iff.mp h).2.2.le
  · exact le_refl _

/-- What has been moved into a range is no number, or lies in it. -/
theorem clamp_cases {low high : Float} (h : low ≤ high) (x : Float) :
    (clamp x low high).isNaN = true ∨ value low ≤ value (clamp x low high) ∧ value (clamp x low high) ≤ value high := by
  obtain ⟨hlow, hhigh, hle⟩ := le_iff.mp h
  unfold clamp
  split
  · exact Or.inr ⟨le_refl _, hle⟩
  · next hx =>
    split
    · exact Or.inr ⟨hle, le_refl _⟩
    · next hx' =>
      by_cases hnan : x.isNaN = true
      · exact Or.inl hnan
      · have hx_number : x.isNaN = false := Bool.eq_false_iff.mpr hnan
        exact Or.inr ⟨value_le_of_not_lt hx_number hlow hx, value_le_of_not_lt hhigh hx_number hx'⟩

/-! ### Counts -/

/-- The whole part of a number, without its sign. -/
theorem roundToInt_eq (s : Sign) (m : ℕ) (e : ℤ) :
    roundToInt s m e = s.apply (if 0 ≤ e then m * 2 ^ e.toNat else m / 2 ^ (-e).toNat : ℕ) := by
  simp only [roundToInt, decreaseExponent, shiftToExponent, mantissa_shift, mantissa_ofMantissaAndAccuracy,
    Nat.shiftLeft_eq]
  congr 2
  by_cases he : 0 ≤ e
  · have hzero : (0 - (e - ((e - 0).toNat : ℤ))).toNat = 0 := by omega
    rw [if_pos he, hzero, pow_zero, Nat.div_one, Int.sub_zero]
  · have hzero : (e - 0).toNat = 0 := by omega
    rw [if_neg he, hzero, pow_zero, Nat.mul_one, Nat.cast_zero, Int.sub_zero, Int.zero_sub]

/-- A mantissa with fractional bits is a fraction. -/
theorem mul_zpow_of_nonpos (m : ℕ) {e : ℤ} (he : e ≤ 0) : (m : ℝ) * 2 ^ e = m / (2 ^ (-e).toNat : ℕ) := by
  rw [div_eq_mul_inv, Nat.cast_pow, Nat.cast_ofNat, ← zpow_natCast, ← zpow_neg, Int.toNat_of_nonneg (by omega), neg_neg]

theorem le_whole_iff {n m : ℕ} {e : ℤ} :
    n ≤ (if 0 ≤ e then m * 2 ^ e.toNat else m / 2 ^ (-e).toNat) ↔ (n : ℝ) ≤ m * 2 ^ e := by
  split
  · next he =>
    have hvalue : (m : ℝ) * 2 ^ e = (m * 2 ^ e.toNat : ℕ) := by
      rw [← Int.toNat_of_nonneg he, zpow_natCast, Int.toNat_natCast]
      push_cast
      rfl
    rw [hvalue, Nat.cast_le]
  · next he =>
    have hunit : (0 : ℝ) < (2 ^ (-e).toNat : ℕ) := by positivity
    rw [mul_zpow_of_nonpos m (by omega), le_div_iff₀ hunit, Nat.le_div_iff_mul_le (Nat.two_pow_pos _)]
    exact_mod_cast Iff.rfl

theorem le_toInt_iff {n : ℕ} (hpos : 0 < n) (hn : n < 2 ^ 64) (u : UnpackedFloat) :
    n ≤ (toInt 0 (UInt64.size - 1) u).toNat ↔ ((n : ℝ) : EReal) ≤ valueOf u := by
  have hzero : ¬ ((n : ℝ) : EReal) ≤ (0 : ℝ) := by
    rw [EReal.coe_le_coe_iff, not_le]
    exact_mod_cast hpos
  cases u with
  | notANumber => exact iff_of_false (by simp [toInt, hpos.ne']) hzero
  | infinity s =>
    cases s with
    | positive => exact iff_of_true (by simp only [toInt, UInt64.size]; omega) le_top
    | negative => exact iff_of_false (by simp [toInt, hpos.ne']) (not_le.mpr (EReal.bot_lt_coe _))
  | zero s => exact iff_of_false (by simp [toInt, hpos.ne']) hzero
  | finite s m e h =>
    rw [valueOf_of_isFinite rfl, EReal.coe_le_coe_iff, toInt, roundToInt_eq]
    cases s with
    | positive =>
      rw [realOf_positive, ← le_whole_iff]
      rfl
    | negative =>
      have hneg : -((m : ℝ) * 2 ^ e) < 0 := neg_lt_zero.mpr (by positivity)
      have hn' : (0 : ℝ) < n := by exact_mod_cast hpos
      rw [realOf_negative]
      refine iff_of_false ?_ (by linarith)
      simp only [Sign.apply]
      omega

/-- A count up to what words reach is at most the whole part of a float if it is at most its value. -/
theorem le_toNat_iff {x : Float} {n : ℕ} (hpos : 0 < n) (hn : n < 2 ^ 64) :
    n ≤ toNat x ↔ ((n : ℝ) : EReal) ≤ value x := by
  rw [value, ← le_toInt_iff hpos hn]
  show n ≤ (UInt64.ofNatClamp (toInt 0 (UInt64.size - 1) x.toModel.unpack).toNat).toNat ↔ _
  unfold UInt64.ofNatClamp
  split
  · rw [UInt64.toNat_ofNatLT]
  · next h =>
    rw [UInt64.toNat_ofNatLT]
    unfold UInt64.size at h ⊢
    omega

theorem toNat_lt (x : Float) : toNat x < 2 ^ 64 := x.toUInt64.toNat_lt

/-- A greater value has a greater whole part, and no value has a greater one than itself. -/
theorem toNat_le_toNat (h : value a ≤ value b) : toNat a ≤ toNat b := by
  rcases Nat.eq_zero_or_pos (toNat a) with hzero | hpos
  · omega
  · exact (le_toNat_iff hpos (toNat_lt a)).mpr (((le_toNat_iff hpos (toNat_lt a)).mp (le_refl _)).trans h)

theorem toNat_le_value (h : 0 ≤ value a) : ((toNat a : ℝ) : EReal) ≤ value a := by
  rcases Nat.eq_zero_or_pos (toNat a) with hzero | hpos
  · rw [hzero]
    simpa using h
  · exact (le_toNat_iff hpos (toNat_lt a)).mp (le_refl _)

/-- What is no number, or not above zero, has no whole part. -/
theorem toNat_eq_zero (h : value a ≤ 0) : toNat a = 0 := by
  by_contra hne
  have hpos : 0 < toNat a := Nat.pos_of_ne_zero hne
  have hle := ((le_toNat_iff hpos (toNat_lt a)).mp (le_refl _)).trans h
  rw [← EReal.coe_zero, EReal.coe_le_coe_iff] at hle
  have : (0 : ℝ) < toNat a := by exact_mod_cast hpos
  linarith

theorem toNat_eq {n : ℕ} (hn : n < 2 ^ 64) (h : value a = (n : ℝ)) : toNat a = n := by
  refine le_antisymm ?_ ?_
  · have hle := toNat_le_value (a := a) (by rw [h]; exact_mod_cast Nat.zero_le n)
    rw [h, EReal.coe_le_coe_iff] at hle
    exact_mod_cast hle
  · rcases Nat.eq_zero_or_pos n with rfl | hpos
    · exact Nat.zero_le _
    · exact (le_toNat_iff hpos hn).mpr h.ge

end SurveyGateway.Number
