import Mathlib
import SurveyGateway.Proofs.Number.Order

/-!
# Arithmetic on floats

What floats are computed to is the exact result, rounded. This module states that for sums, quotients, counts, whole
parts and the change from 32 to 64 bits.

## The model

`RoundsTo x y` says that the float `y` may be what the real number `x` is rounded to: no other float lies between the
two. That is all that is used of rounding: which of two neighbours is taken does not matter.

## What is proved

* `roundsTo_add`, `roundsTo_div` — sums and quotients of finite floats.
* `value_ofNat`, `value_widen`, `value_floor` — what is computed exactly.
* `isFinite_of_add`, `isFinite_of_floor` — what is finite has been computed from finite floats.
-/

namespace SurveyGateway.Number

open Float.Model Float.Model.UnpackedFloat

variable {spec : Format} {u : UnpackedFloat} {x r : ℝ} {m : ℕ} {e : ℤ}

/-! ### Packed results -/

theorem realOf_ofParts (s : Sign) (m : ℕ) (e : ℤ) : realOf (ofParts s m e) = signed s (m * 2 ^ e) := by
  unfold ofParts
  split
  · next h => cases s <;> simp [h, realOf, signed]
  · cases s
    · rw [realOf_negative]; rfl
    · rw [realOf_positive]; rfl

theorem isFinite_ofParts (s : Sign) (m : ℕ) (e : ℤ) : (ofParts s m e).isFinite = true := by
  unfold ofParts
  split <;> rfl

theorem realOf_finite (s : Sign) (h : 0 < m) : realOf (.finite s m e h) = signed s (m * 2 ^ e) := by
  cases s
  · rw [realOf_negative]; rfl
  · rw [realOf_positive]; rfl

theorem representable_realOf (hu : Fits spec u) : Representable spec (realOf u) := by
  cases u with
  | finite s m e h =>
    obtain ⟨hc, -⟩ := hu
    have hrepresentable : Representable spec (m * 2 ^ e) :=
      ⟨m, e, by rw [Nat.abs_cast]; exact_mod_cast hc.lt.le, hc.le, by simp⟩
    rw [realOf_finite]
    exact hrepresentable.signed s
  | _ => exact representable_zero spec

/-- Numbers out of range are greater than all floats. -/
theorem abs_realOf_lt (hu : Fits spec u) (hc : Canonical spec m e) (he : ¬ InRange spec e) :
    |realOf u| < m * 2 ^ e := by
  have hpos : (0 : ℝ) < m * 2 ^ e := by
    have := hc.pos
    positivity
  cases u with
  | finite s m' e' h =>
    obtain ⟨hc', he'⟩ := hu
    have hlt : e' < e := by
      by_contra hle
      exact he (he'.mono (Int.not_lt.mp hle))
    rw [realOf_finite, abs_signed s (by positivity)]
    exact canonical_lt hc' hc (Or.inl hlt)
  | _ => simpa [realOf] using hpos

/-- What a mantissa and an exponent of the format are packed to: themselves, or an infinity. -/
theorem unpack_pack_ofParts (s : Sign) (hc : m ≠ 0 → Canonical spec m e) :
    UnpackedFloat.unpack spec (UnpackedFloat.pack spec (ofParts s m e)) = ofParts s m e ∨
      UnpackedFloat.unpack spec (UnpackedFloat.pack spec (ofParts s m e)) = .infinity s ∧ m ≠ 0 ∧
        ¬ InRange spec e := by
  by_cases hm : m = 0
  · left
    rw [ofParts, dif_pos hm]
    exact unpack_packedZero
  · have hfinite : ofParts s m e = .finite s m e (hc hm).pos := dif_neg hm
    rw [hfinite, unpack_pack_finite s (hc hm)]
    split
    · exact Or.inl rfl
    · next he => exact Or.inr ⟨rfl, hm, he⟩

/-! ### Rounded results -/

/-- A real number may be rounded to a float: no other float lies between the two. -/
structure RoundsTo (x : ℝ) (y : Float) : Prop where
  isNaN : y.isNaN = false
  le_value : ∀ z : Float, z.isNaN = false → value z ≤ x → value z ≤ value y
  value_le : ∀ z : Float, z.isNaN = false → x ≤ value z → value y ≤ value z

theorem value_of_isFinite {x : Float} (h : x.isFinite = true) : value x = (realOf x.toModel.unpack : ℝ) :=
  valueOf_of_isFinite h

/-- The value of a float that is known by its parts. -/
theorem value_of_unpack {y : Float} (hy : y.toModel.unpack = u) (hu : u.isFinite = true) :
    y.isFinite = true ∧ value y = (realOf u : ℝ) := by
  subst hy
  exact ⟨hu, value_of_isFinite hu⟩

theorem isNaN_of_isFinite {x : Float} (h : x.isFinite = true) : x.isNaN = false := by
  have h : x.toModel.unpack.isFinite = true := h
  show x.toModel.unpack.isNaN = false
  cases hx : x.toModel.unpack with
  | notANumber => rw [hx] at h; cases h
  | _ => rfl

/-- A number is finite, or an infinity, which is beyond all reals. -/
theorem value_cases {z : Float} (hz : z.isNaN = false) :
    value z = (realOf z.toModel.unpack : ℝ) ∨ value z = ⊤ ∨ value z = ⊥ := by
  rcases isFinite_or_infinity hz with h | ⟨s, h⟩
  · exact Or.inl (value_of_isFinite h)
  · right
    unfold value
    rw [h]
    cases s
    · exact Or.inr rfl
    · exact Or.inl rfl

/-- What has been rounded and is in range is adjacent to all floats. -/
theorem roundsTo_ofParts {y : Float} {s : Sign} (hy : y.toModel.unpack = ofParts s m e)
    (h : Faithful .binary64 x (signed s (m * 2 ^ e))) : RoundsTo x y := by
  obtain ⟨hfinite, hvalue⟩ := value_of_unpack hy (isFinite_ofParts s m e)
  rw [realOf_ofParts] at hvalue
  refine ⟨isNaN_of_isFinite hfinite, fun z hz hle => ?_, fun z hz hle => ?_⟩
  · rw [hvalue]
    rcases value_cases hz with h' | h' | h' <;> rw [h'] at hle ⊢
    · exact EReal.coe_le_coe_iff.mpr ((h _ (representable_realOf (fits z))).1 (EReal.coe_le_coe_iff.mp hle))
    · exact absurd hle (not_le.mpr (EReal.coe_lt_top _))
    · exact bot_le
  · rw [hvalue]
    rcases value_cases hz with h' | h' | h' <;> rw [h'] at hle ⊢
    · exact EReal.coe_le_coe_iff.mpr ((h _ (representable_realOf (fits z))).2 (EReal.coe_le_coe_iff.mp hle))
    · exact le_top
    · exact absurd hle (not_le.mpr (EReal.bot_lt_coe _))

/-- What has been rounded beyond the range has become an infinity, and is adjacent to all floats too. -/
theorem roundsTo_infinity {y : Float} {s : Sign} (hy : y.toModel.unpack = .infinity s)
    (hc : Canonical .binary64 m e) (hrange : ¬ InRange .binary64 e)
    (h : Faithful .binary64 x (signed s (m * 2 ^ e))) : RoundsTo x y := by
  have hbeyond (z : Float) : |realOf z.toModel.unpack| < m * 2 ^ e := abs_realOf_lt (fits z) hc hrange
  have hnan : y.isNaN = false := by
    show y.toModel.unpack.isNaN = false
    rw [hy]
    rfl
  have hvalue : value y = valueOf (.infinity s) := congrArg valueOf hy
  cases s with
  | positive =>
    refine ⟨hnan, fun z _ _ => hvalue ▸ le_top, fun z hz hle => ?_⟩
    rcases value_cases hz with h' | h' | h' <;> rw [h'] at hle ⊢
    · have hlt := (le_abs_self _).trans_lt (hbeyond z)
      exact absurd ((h _ (representable_realOf (fits z))).2 (EReal.coe_le_coe_iff.mp hle)) (not_le.mpr hlt)
    · exact le_top
    · exact absurd hle (not_le.mpr (EReal.bot_lt_coe _))
  | negative =>
    refine ⟨hnan, fun z hz hle => ?_, fun z _ _ => hvalue ▸ bot_le⟩
    rcases value_cases hz with h' | h' | h' <;> rw [h'] at hle ⊢
    · have hlt : -(m * 2 ^ e) < realOf z.toModel.unpack := neg_lt.mp ((neg_le_abs _).trans_lt (hbeyond z))
      exact absurd ((h _ (representable_realOf (fits z))).1 (EReal.coe_le_coe_iff.mp hle)) (not_le.mpr hlt)
    · exact absurd hle (not_le.mpr (EReal.coe_lt_top _))
    · exact bot_le

/-- The float that rounded parts are packed to. -/
theorem Rounded.roundsTo {y : Float} (h : Rounded .binary64 x u)
    (hy : y.toModel.unpack = UnpackedFloat.unpack .binary64 (UnpackedFloat.pack .binary64 u)) : RoundsTo x y := by
  obtain ⟨s, m, e, rfl, hc, hfaithful⟩ := h
  rcases unpack_pack_ofParts s hc with hpack | ⟨hpack, hm, hrange⟩
  · exact roundsTo_ofParts (hy.trans hpack) hfaithful
  · exact roundsTo_infinity (hy.trans hpack) (hc hm) hrange hfaithful

/-- A representable number that is not too great is rounded to itself. -/
theorem Rounded.value_eq {y : Float} (h : Rounded .binary64 x u)
    (hy : y.toModel.unpack = UnpackedFloat.unpack .binary64 (UnpackedFloat.pack .binary64 u))
    (hx : Representable .binary64 x) (hlt : |x| < 2 ^ (1024 : ℤ)) : y.isFinite = true ∧ value y = x := by
  obtain ⟨s, m, e, rfl, hc, hfaithful⟩ := h
  have hexact : signed s (m * 2 ^ e) = x := hfaithful.eq hx
  rcases unpack_pack_ofParts s hc with hpack | ⟨-, hm, hrange⟩
  · rw [← hexact, ← realOf_ofParts]
    exact value_of_unpack (hy.trans hpack) (isFinite_ofParts s m e)
  · exfalso
    have he : 972 ≤ e := by
      unfold InRange at hrange
      simp only [Format.exponentBias] at hrange
      omega
    have hfull : 2 ^ 52 ≤ m := (hc hm).full.resolve_left (by rw [minExponent_eq]; simp [Format.exponentBias]; omega)
    have hpow : (2 : ℝ) ^ (972 : ℤ) ≤ 2 ^ e := zpow_le_zpow_right₀ (by norm_num) he
    have hge : (2 : ℝ) ^ (1024 : ℤ) ≤ m * 2 ^ e := by
      have hsplit : (2 : ℝ) ^ (1024 : ℤ) = (2 ^ 52 : ℕ) * 2 ^ (972 : ℤ) := by
        rw [Nat.cast_pow, Nat.cast_ofNat, ← zpow_natCast, ← zpow_add₀ (by norm_num)]
        norm_num
      rw [hsplit]
      exact mul_le_mul (Nat.cast_le.mpr hfull) hpow (by positivity) (by positivity)
    rw [← hexact, abs_signed s (by positivity)] at hlt
    linarith

/-- Parts of a format are rounded to themselves. -/
theorem rounded_self (hu : Fits spec u) (hf : u.isFinite = true) : Rounded spec (realOf u) u := by
  cases u with
  | notANumber => cases hf
  | infinity s => cases hf
  | zero s => exact ⟨s, 0, 0, rfl, fun h => absurd rfl h, by cases s <;> simp [realOf, signed, Faithful.refl]⟩
  | finite s m e h =>
    refine ⟨s, m, e, by rw [ofParts, dif_neg h.ne'], fun _ => hu.1, ?_⟩
    rw [realOf_finite]
    exact Faithful.refl _ _

/-! ### Sums -/

theorem rounded_normalize (spec : Format) (m e : ℤ) : Rounded spec (m * 2 ^ e) (UnpackedFloat.normalize spec m e .positive) := by
  unfold UnpackedFloat.normalize
  rcases lt_trichotomy m 0 with hm | rfl | hm
  · rw [compare_lt_iff_lt.mpr hm]
    have hvalue : (m : ℝ) * 2 ^ e = signed .negative ((-m).toNat * 2 ^ e) := by
      have hcast : (((-m).toNat : ℤ) : ℝ) = -m := by
        rw [Int.toNat_of_nonneg (by omega)]
        push_cast
        rfl
      simp only [signed]
      rw [← Int.cast_natCast, hcast]
      ring
    rw [hvalue]
    exact rounded_round spec .negative (by omega) e
  · rw [compare_eq_iff_eq.mpr rfl]
    exact ⟨.positive, 0, 0, rfl, fun h => absurd rfl h, by simp [signed, Faithful.refl]⟩
  · rw [compare_gt_iff_gt.mpr hm]
    have hvalue : (m : ℝ) * 2 ^ e = signed .positive (m.toNat * 2 ^ e) := by
      simp only [signed]
      rw [← Int.cast_natCast, Int.toNat_of_nonneg hm.le]
    rw [hvalue]
    exact rounded_round spec .positive (by omega) e

/-- A mantissa is written with a smaller exponent. -/
theorem decreaseExponent_value (s : Sign) (m : ℕ) {e t : ℤ} (ht : t ≤ e) :
    ((s.apply (decreaseExponent m e t).1 : ℤ) : ℝ) * 2 ^ t = signed s (m * 2 ^ e) := by
  have hshift : ((m <<< (e - t).toNat : ℕ) : ℝ) * 2 ^ t = m * 2 ^ e := by
    rw [Nat.shiftLeft_eq]
    push_cast
    rw [mul_assoc, ← zpow_natCast, ← zpow_add₀ (by norm_num)]
    congr 2
    omega
  cases s with
  | positive => exact_mod_cast hshift
  | negative =>
    have hneg : ((Sign.negative.apply (decreaseExponent m e t).1 : ℤ) : ℝ) = -((m <<< (e - t).toNat : ℕ) : ℝ) := by
      simp only [Sign.apply, decreaseExponent]
      push_cast
      rfl
    rw [hneg, neg_mul, hshift]
    rfl

theorem rounded_add {v : UnpackedFloat} (hu : Fits spec u) (hv : Fits spec v) (hfu : u.isFinite = true)
    (hfv : v.isFinite = true) : Rounded spec (realOf u + realOf v) (UnpackedFloat.add spec u v) := by
  cases u with
  | notANumber => cases hfu
  | infinity s => cases hfu
  | zero s =>
    cases v with
    | notANumber => cases hfv
    | infinity s' => cases hfv
    | zero s' =>
      have hsum : ∃ s'', UnpackedFloat.add spec (.zero s) (.zero s') = .zero s'' := by
        cases s <;> cases s' <;> exact ⟨_, rfl⟩
      obtain ⟨s'', hs⟩ := hsum
      rw [hs, realOf_zero, realOf_zero, zero_add]
      exact rounded_self (u := .zero s'') trivial rfl
    | finite s' m' e' h' =>
      rw [realOf_zero, zero_add]
      exact rounded_self hv rfl
  | finite s m e h =>
    cases v with
    | notANumber => cases hfv
    | infinity s' => cases hfv
    | zero s' =>
      rw [realOf_zero, add_zero]
      exact rounded_self hu rfl
    | finite s' m' e' h' =>
      have hsum : realOf (.finite s m e h) + realOf (.finite s' m' e' h') =
          (s.apply (decreaseExponent m e (min e e')).1 + s'.apply (decreaseExponent m' e' (min e e')).1 : ℤ) *
            2 ^ min e e' := by
        rw [realOf_finite, realOf_finite, ← decreaseExponent_value s m (min_le_left e e'),
          ← decreaseExponent_value s' m' (min_le_right e e')]
        push_cast
        ring
      rw [hsum]
      exact rounded_normalize spec _ _

/-- The sum of finite floats is rounded from the sum of their values. -/
theorem roundsTo_add {a b : Float} (ha : a.isFinite = true) (hb : b.isFinite = true) :
    RoundsTo (realOf a.toModel.unpack + realOf b.toModel.unpack) (a + b) :=
  (rounded_add (fits a) (fits b) ha hb).roundsTo rfl

/-- What is packed to a finite float is finite itself. -/
theorem isFinite_of_pack (h : (UnpackedFloat.unpack spec (UnpackedFloat.pack spec u)).isFinite = true) :
    u.isFinite = true := by
  cases u with
  | notANumber =>
    have hunpack : UnpackedFloat.unpack spec (UnpackedFloat.pack spec .notANumber) = .notANumber := unpack_packedNaN
    rw [hunpack] at h
    cases h
  | infinity s =>
    have hunpack : UnpackedFloat.unpack spec (UnpackedFloat.pack spec (.infinity s)) = .infinity s :=
      unpack_packedInfinity spec s
    rw [hunpack] at h
    cases h
  | zero s => rfl
  | finite s m e hm => rfl

theorem isFinite_of_unpacked_add {v : UnpackedFloat} (h : (UnpackedFloat.add spec u v).isFinite = true) :
    u.isFinite = true ∧ v.isFinite = true := by
  cases u with
  | notANumber => cases h
  | infinity s =>
    cases v with
    | infinity s' =>
      simp only [UnpackedFloat.add] at h
      split at h <;> cases h
    | _ => cases h
  | zero s =>
    cases v with
    | notANumber | infinity s' => cases h
    | _ => exact ⟨rfl, rfl⟩
  | finite s m e hm =>
    cases v with
    | notANumber | infinity s' => cases h
    | _ => exact ⟨rfl, rfl⟩

/-- A sum is finite only if what is added is. -/
theorem isFinite_of_add {a b : Float} (h : (a + b).isFinite = true) : a.isFinite = true ∧ b.isFinite = true :=
  isFinite_of_unpacked_add (isFinite_of_pack h)

/-! ### Quotients -/

/-- The exponent that two mantissas are divided with. -/
def quotientExponent (spec : Format) (m : ℕ) (e : ℤ) (m' : ℕ) (e' : ℤ) : ℤ :=
  min (e - e') (spec.targetExponent (totalExponent m e - totalExponent m' e'))

/-- The quotient has all bits of the format, or is cut at the smallest exponent. -/
theorem quotientExponent_le (spec : Format) {m m' : ℕ} (hm : m ≠ 0) (e e' : ℤ) (hm' : m' ≠ 0) :
    let t := quotientExponent spec m e m' e'
    t ≤ spec.targetExponent (totalExponent ((m <<< (e - e' - t).toNat) / m') t) := by
  intro t
  have ht : t = min (e - e') (max (m.log2 + 1 + e - (m'.log2 + 1 + e') - (1 + spec.mantissaBitsWithoutImplicit : ℕ))
    spec.minExponent) := rfl
  show t ≤ max (_ + 1 + t - (1 + spec.mantissaBitsWithoutImplicit : ℕ)) spec.minExponent
  rcases le_or_gt t spec.minExponent with hmin | hmin
  · exact le_max_of_le_right hmin
  · -- the dividend has been shifted far enough for a quotient with all bits
    have hshift : m'.log2 + 1 + spec.mantissaBitsWithoutImplicit ≤ m.log2 + (e - e' - t).toNat := by omega
    have hquotient : 2 ^ spec.mantissaBitsWithoutImplicit ≤ (m <<< (e - e' - t).toNat) / m' := by
      refine (Nat.le_div_iff_mul_le (Nat.pos_of_ne_zero hm')).mpr ?_
      calc 2 ^ spec.mantissaBitsWithoutImplicit * m'
          ≤ 2 ^ spec.mantissaBitsWithoutImplicit * 2 ^ (m'.log2 + 1) :=
            Nat.mul_le_mul_left _ Nat.lt_log2_self.le
        _ = 2 ^ (m'.log2 + 1 + spec.mantissaBitsWithoutImplicit) := by rw [← pow_add, Nat.add_comm]
        _ ≤ 2 ^ (m.log2 + (e - e' - t).toNat) := Nat.pow_le_pow_right (by decide) hshift
        _ = 2 ^ m.log2 * 2 ^ (e - e' - t).toNat := pow_add _ _ _
        _ ≤ m * 2 ^ (e - e' - t).toNat := Nat.mul_le_mul_right _ (Nat.log2_self_le hm)
        _ = m <<< (e - e' - t).toNat := (Nat.shiftLeft_eq _ _).symm
    have hne : (m <<< (e - e' - t).toNat) / m' ≠ 0 := by
      have := Nat.two_pow_pos spec.mantissaBitsWithoutImplicit
      omega
    have hlog := (Nat.le_log2 hne).mpr hquotient
    refine le_max_of_le_left ?_
    omega

theorem natCast_div (m : ℕ) {d : ℕ} (hd : 0 < d) : (m : ℝ) / d = (m / d : ℕ) + (m % d : ℕ) / d := by
  have hd' : (d : ℝ) ≠ 0 := by exact_mod_cast hd.ne'
  have hm : (m : ℝ) = d * (m / d : ℕ) + (m % d : ℕ) := by exact_mod_cast (Nat.div_add_mod m d).symm
  rw [eq_comm, eq_div_iff hd', hm]
  field_simp

theorem signed_div (s s' : Sign) (x y : ℝ) : signed s x / signed s' y = signed (s / s') (x / y) := by
  cases s <;> cases s'
  · exact neg_div_neg_eq x y
  · exact neg_div y x
  · exact div_neg x
  · rfl

theorem rounded_div {v : UnpackedFloat} (hfu : u.isFinite = true) (hfv : v.isFinite = true) (hv : realOf v ≠ 0) :
    Rounded spec (realOf u / realOf v) (UnpackedFloat.div spec u v) := by
  cases v with
  | notANumber => cases hfv
  | infinity s' => cases hfv
  | zero s' => exact absurd rfl hv
  | finite s' m' e' h' =>
    cases u with
    | notANumber => cases hfu
    | infinity s => cases hfu
    | zero s =>
      rw [realOf_zero, zero_div]
      exact rounded_self (u := .zero (s / s')) trivial rfl
    | finite s m e h =>
      set t := quotientExponent spec m e m' e' with ht
      set d := m <<< (e - e' - t).toNat with hd
      have hdiv : UnpackedFloat.div spec (.finite s m e h) (.finite s' m' e' h') =
          roundWithAccuracy spec (s / s') (d / m') t (accuracyOfFraction (d % m') m') := rfl
      rw [hdiv, realOf_finite, realOf_finite, signed_div]
      refine rounded_roundWithAccuracy _ ?_ (quotientExponent_le spec h.ne' e e' h'.ne')
      have hle : t ≤ e - e' := min_le_left _ _
      have hvalue : (m : ℝ) * 2 ^ e / (m' * 2 ^ e') / 2 ^ t = (d / m' : ℕ) + (d % m' : ℕ) / m' := by
        have hm' : (m' : ℝ) ≠ 0 := by exact_mod_cast h'.ne'
        have hscale : (d : ℝ) = m * 2 ^ (e - e' - t) := by
          rw [hd, Nat.shiftLeft_eq]
          push_cast
          rw [← zpow_natCast, Int.toNat_of_nonneg (by omega)]
        have hunit : (2 : ℝ) ^ e / 2 ^ e' / 2 ^ t = 2 ^ (e - e' - t) := by
          rw [zpow_sub₀ (by norm_num), zpow_sub₀ (by norm_num)]
        calc (m : ℝ) * 2 ^ e / (m' * 2 ^ e') / 2 ^ t = m * (2 ^ e / 2 ^ e' / 2 ^ t) / m' := by
              field_simp
          _ = d / m' := by rw [hunit, hscale]
          _ = (d / m' : ℕ) + (d % m' : ℕ) / m' := natCast_div d h'
      rw [hvalue]
      exact cut_fraction _ (Nat.mod_lt _ h')

/-- The quotient of finite floats is rounded from the quotient of their values. -/
theorem roundsTo_div {a b : Float} (ha : a.isFinite = true) (hb : b.isFinite = true)
    (hzero : realOf b.toModel.unpack ≠ 0) :
    RoundsTo (realOf a.toModel.unpack / realOf b.toModel.unpack) (a / b) :=
  (rounded_div ha hb hzero).roundsTo rfl

theorem finite_unpacked_div {v : UnpackedFloat} (h : (UnpackedFloat.div spec u v).isFinite = true) :
    (∃ s, UnpackedFloat.div spec u v = .zero s) ∨ u.isFinite = true ∧ v.isFinite = true ∧ realOf v ≠ 0 := by
  cases u with
  | notANumber => cases h
  | infinity s => cases v <;> cases h
  | zero s =>
    cases v with
    | notANumber | zero s' => cases h
    | infinity s' | finite s' m' e' h' => exact Or.inl ⟨_, rfl⟩
  | finite s m e hm =>
    cases v with
    | notANumber | zero s' => cases h
    | infinity s' => exact Or.inl ⟨_, rfl⟩
    | finite s' m' e' h' =>
      refine Or.inr ⟨rfl, rfl, ?_⟩
      have hpos : (0 : ℝ) < m' * 2 ^ e' := by positivity
      rw [realOf_finite]
      cases s'
      · exact neg_ne_zero.mpr hpos.ne'
      · exact hpos.ne'

/-- A quotient is finite only if it is zero, or is taken of finite floats. -/
theorem finite_div {a b : Float} (h : (a / b).isFinite = true) :
    value (a / b) = 0 ∨ a.isFinite = true ∧ b.isFinite = true ∧ realOf b.toModel.unpack ≠ 0 := by
  rcases finite_unpacked_div (isFinite_of_pack h) with ⟨s, hs⟩ | hfinite
  · left
    have hunpack : (a / b).toModel.unpack = .zero s := by
      show UnpackedFloat.unpack .binary64 (UnpackedFloat.pack .binary64 (UnpackedFloat.div .binary64 _ _)) = _
      rw [hs]
      exact unpack_packedZero
    exact (value_of_unpack hunpack rfl).2
  · exact Or.inr hfinite

/-! ### Whole numbers -/

/-- Whole numbers are exact as long as a mantissa has room for them. -/
theorem Rounded.value_natCast {y : Float} {n : ℕ} {s : Sign} (h : Rounded .binary64 (signed s n) u)
    (hy : y.toModel.unpack = UnpackedFloat.unpack .binary64 (UnpackedFloat.pack .binary64 u)) (hn : n ≤ 2 ^ 53) :
    y.isFinite = true ∧ value y = (signed s n : ℝ) := by
  have hrepresentable : Representable .binary64 (n : ℝ) := representable_natCast hn (by decide)
  have hlt : (n : ℝ) < 2 ^ (1024 : ℤ) := by
    calc (n : ℝ) ≤ 2 ^ (53 : ℤ) := by exact_mod_cast hn
      _ < 2 ^ (1024 : ℤ) := zpow_lt_zpow_right₀ (by norm_num) (by norm_num)
  exact h.value_eq hy (hrepresentable.signed s) (by rwa [abs_signed s (Nat.cast_nonneg n)])

theorem rounded_ofNat (n : ℕ) : Rounded .binary64 (signed .positive n) (UnpackedFloat.ofNat .binary64 n) := by
  have h := rounded_normalize .binary64 n 0
  rw [zpow_zero, mul_one, Int.cast_natCast] at h
  exact h

/-- Whole numbers beyond a mantissa are rounded. -/
theorem roundsTo_ofNat (n : ℕ) : RoundsTo n (ofNat n) := by
  rw [ofNat_eq]
  exact (rounded_ofNat n).roundsTo rfl

theorem value_ofNat {n : ℕ} (hn : n ≤ 2 ^ 53) : (ofNat n).isFinite = true ∧ value (ofNat n) = (n : ℝ) := by
  rw [ofNat_eq]
  exact (rounded_ofNat n).value_natCast rfl hn

theorem toNat_ofNat {n : ℕ} (hn : n ≤ 2 ^ 53) : toNat (ofNat n) = n :=
  toNat_eq (by omega) (value_ofNat hn).2

/-- The whole number that is made of the magnitude of a number with fractional bits. -/
def wholeOf (outward : Sign → ℕ → ℕ → Bool) (s : Sign) (m : ℕ) (e : ℤ) : ℕ :=
  m / 2 ^ (-e).toNat + if outward s (m % 2 ^ (-e).toNat) (2 ^ (-e).toNat) then 1 else 0

theorem rounded_toWhole (outward : Sign → ℕ → ℕ → Bool) (s : Sign) {h : 0 < m} (he : e < 0) :
    Rounded .binary64 (signed s (wholeOf outward s m e)) (toWhole outward (.finite s m e h)) := by
  have hwhole : toWhole outward (.finite s m e h) =
      if wholeOf outward s m e = 0 then .zero s
      else UnpackedFloat.round .binary64 s (wholeOf outward s m e) 0 := by
    simp only [toWhole, if_neg (Int.not_le.mpr he), wholeOf, Nat.one_shiftLeft]
    rfl
  rw [hwhole]
  split
  · next hzero =>
    have hsigned : signed s ((wholeOf outward s m e : ℕ) : ℝ) = realOf (.zero s) := by
      rw [hzero]
      cases s <;> simp [signed, realOf]
    rw [hsigned]
    exact rounded_self (u := .zero s) trivial rfl
  · next hne =>
    have h := rounded_round .binary64 s hne 0
    rw [zpow_zero, mul_one] at h
    exact h

theorem wholeOf_le (outward : Sign → ℕ → ℕ → Bool) (s : Sign) (hm : m < 2 ^ 53) (he : e < 0) :
    wholeOf outward s m e ≤ 2 ^ 53 := by
  have htwo : 2 ≤ 2 ^ (-e).toNat := by
    have : 2 ^ 1 ≤ 2 ^ (-e).toNat := Nat.pow_le_pow_right (by decide) (by omega)
    simpa using this
  have hhalf : m / 2 ^ (-e).toNat ≤ m / 2 := Nat.div_le_div_left htwo (by decide)
  unfold wholeOf
  split <;> omega

/-- Numbers are cut to the next whole number below: the negative ones are cut outward. -/
def floorOutward (s : Sign) (rest _ : ℕ) : Bool := s == .negative && rest != 0

theorem floor_signed (s : Sign) (m : ℕ) (he : e < 0) :
    (⌊signed s (m * 2 ^ e)⌋ : ℝ) = signed s (wholeOf floorOutward s m e) := by
  set d := 2 ^ (-e).toNat with hd
  have hpos : 0 < d := Nat.two_pow_pos _
  have hvalue : (m : ℝ) * 2 ^ e = (m / d : ℕ) + (m % d : ℕ) / d := by
    rw [mul_zpow_of_nonpos m he.le, ← hd, natCast_div m hpos]
  have hrest : ((m % d : ℕ) : ℝ) / d < 1 := by
    rw [div_lt_one (by exact_mod_cast hpos)]
    exact_mod_cast Nat.mod_lt m hpos
  have hnonneg : (0 : ℝ) ≤ (m % d : ℕ) / d := by positivity
  rw [hvalue]
  cases s with
  | positive =>
    have hfloor : ⌊((m / d : ℕ) : ℝ) + (m % d : ℕ) / d⌋ = ((m / d : ℕ) : ℤ) := by
      rw [Int.floor_eq_iff, Int.cast_natCast]
      exact ⟨by linarith, by linarith⟩
    show (⌊((m / d : ℕ) : ℝ) + (m % d : ℕ) / d⌋ : ℝ) = _
    rw [hfloor, Int.cast_natCast]
    rfl
  | negative =>
    show (⌊-(((m / d : ℕ) : ℝ) + (m % d : ℕ) / d)⌋ : ℝ) = -((wholeOf floorOutward .negative m e : ℕ) : ℝ)
    by_cases hzero : m % d = 0
    · have hwhole : wholeOf floorOutward .negative m e = m / d := by simp [wholeOf, floorOutward, ← hd, hzero]
      rw [hwhole, hzero, Nat.cast_zero, zero_div, add_zero, Int.floor_neg, Int.ceil_natCast]
      push_cast
      rfl
    · have hwhole : wholeOf floorOutward .negative m e = m / d + 1 := by simp [wholeOf, floorOutward, ← hd, hzero]
      have hrest' : (0 : ℝ) < (m % d : ℕ) / d := by
        have : 0 < m % d := Nat.pos_of_ne_zero hzero
        positivity
      rw [hwhole]
      generalize m / d = q
      have hfloor : ⌊-((q : ℝ) + (m % d : ℕ) / d)⌋ = -((q : ℤ) + 1) := by
        rw [Int.floor_eq_iff]
        push_cast
        exact ⟨by linarith, by linarith⟩
      rw [hfloor]
      push_cast
      rfl

/-- Whole numbers are computed exactly: with fractional bits, there is room in a mantissa for the number next to it. -/
theorem value_toWhole {outward : Sign → ℕ → ℕ → Bool} {whole : ℝ → ℤ} (hint : ∀ n : ℤ, whole n = n)
    (hcut : ∀ (s : Sign) (m : ℕ) (e : ℤ), e < 0 →
      (whole (signed s (m * 2 ^ e)) : ℝ) = signed s (wholeOf outward s m e)) {a b : Float} (ha : a.isFinite = true)
    (hunpack : b.toModel.unpack =
      UnpackedFloat.unpack .binary64 (UnpackedFloat.pack .binary64 (toWhole outward a.toModel.unpack))) :
    b.isFinite = true ∧ value b = ((whole (realOf a.toModel.unpack) : ℝ) : EReal) := by
  have hfits := fits a
  have ha : a.toModel.unpack.isFinite = true := ha
  cases h : a.toModel.unpack with
  | notANumber => rw [h] at ha; cases ha
  | infinity s => rw [h] at ha; cases ha
  | zero s =>
    have hzero : b.toModel.unpack = .zero s := by
      rw [hunpack, h]
      exact unpack_packedZero
    have hwhole : whole 0 = 0 := by simpa using hint 0
    rw [realOf_zero, hwhole, Int.cast_zero]
    exact value_of_unpack hzero rfl
  | finite s m e hm =>
    rw [h] at hfits hunpack
    rcases le_or_gt 0 e with he | he
    · have hsame : b.toModel.unpack = .finite s m e hm := by
        rw [hunpack, toWhole, if_pos he, unpack_pack_finite s hfits.1, if_pos hfits.2]
      have hinteger : realOf (.finite s m e hm) = (s.apply m * 2 ^ e.toNat : ℤ) := by
        obtain ⟨k, rfl⟩ := Int.eq_ofNat_of_zero_le he
        rw [realOf, Int.toNat_natCast, zpow_natCast]
        push_cast
        rfl
      rw [hinteger, hint, ← hinteger]
      exact value_of_unpack hsame rfl
    · rw [realOf_finite, hcut s m e he]
      exact (rounded_toWhole outward s he).value_natCast hunpack (wholeOf_le outward s hfits.1.lt he)

/-- The greatest whole number that is at most a number is computed exactly. -/
theorem value_floor {a : Float} (ha : a.isFinite = true) :
    (floor a).isFinite = true ∧ value (floor a) = ((⌊realOf a.toModel.unpack⌋ : ℝ) : EReal) :=
  value_toWhole Int.floor_intCast (fun s m _ => floor_signed s m) ha rfl

theorem isFinite_of_floor {a : Float} (h : (floor a).isFinite = true) : a.isFinite = true := by
  have hwhole : (toWhole floorOutward a.toModel.unpack).isFinite = true := isFinite_of_pack h
  show a.toModel.unpack.isFinite = true
  cases ha : a.toModel.unpack with
  | notANumber | infinity s => rw [ha] at hwhole; cases hwhole
  | zero s | finite s m e hm => rfl

/-! ### Wider floats -/

/-- The exponents of 32-bit floats end early. -/
theorem lt_of_fits32 {s : Sign} {h : 0 < m} (hu : Fits .binary32 (.finite s m e h)) :
    (m : ℝ) * 2 ^ e < 2 ^ (128 : ℤ) := by
  obtain ⟨hc, hrange⟩ := hu
  have hlt := hc.lt
  have he : e ≤ 104 := by
    unfold InRange at hrange
    simp only [Format.exponentBias] at hrange
    omega
  have hpow : (2 : ℝ) ^ e ≤ 2 ^ (104 : ℤ) := zpow_le_zpow_right₀ (by norm_num) he
  calc (m : ℝ) * 2 ^ e < 2 ^ (24 : ℤ) * 2 ^ (104 : ℤ) :=
        mul_lt_mul (by exact_mod_cast hlt) hpow (by positivity) (by positivity)
    _ = 2 ^ (128 : ℤ) := by rw [← zpow_add₀ (by norm_num)]; norm_num

/-- The mantissa and the exponent of a 32-bit float are well within those of 64-bit floats. -/
theorem representable_of_fits32 {s : Sign} {h : 0 < m} (hu : Fits .binary32 (.finite s m e h)) :
    Representable .binary64 (m * 2 ^ e) ∧ (m : ℝ) * 2 ^ e < 2 ^ (1024 : ℤ) := by
  obtain ⟨hc, -⟩ := id hu
  have hmin := hc.le
  rw [minExponent_eq] at hmin
  simp only [Format.exponentBias] at hmin
  constructor
  · refine ⟨m, e, ?_, ?_, by simp⟩
    · rw [Nat.abs_cast]
      exact_mod_cast hc.lt.le.trans (by decide)
    · rw [minExponent_eq]
      simp only [Format.exponentBias]
      omega
  · exact (lt_of_fits32 hu).trans (zpow_lt_zpow_right₀ (by norm_num) (by norm_num))

/-- No 32-bit float that is finite is greater than the last exponent allows. -/
theorem abs_realOf_lt_of_fits32 (hu : Fits .binary32 u) : |realOf u| < 2 ^ (128 : ℤ) := by
  cases u with
  | finite s m e h =>
    rw [realOf_finite, abs_signed s (by positivity)]
    exact lt_of_fits32 hu
  | _ =>
    rw [realOf, abs_zero]
    positivity

/-- A 32-bit float keeps its value in 64 bits. -/
theorem value_widen (a : Float32) : (widen a).isNaN = a.isNaN ∧ value (widen a) = value32 a := by
  have hunpack : (widen a).toModel.unpack =
      UnpackedFloat.unpack .binary64 (UnpackedFloat.pack .binary64 (refit .binary64 a.toModel.unpack)) := rfl
  have hfits := fits32 a
  show (widen a).toModel.unpack.isNaN = a.toModel.unpack.isNaN ∧ valueOf (widen a).toModel.unpack = valueOf _
  cases h : a.toModel.unpack with
  | notANumber =>
    have hsame : (widen a).toModel.unpack = .notANumber := by
      rw [hunpack, h]
      exact unpack_packedNaN
    rw [hsame]
    exact ⟨rfl, rfl⟩
  | infinity s =>
    have hsame : (widen a).toModel.unpack = .infinity s := by
      rw [hunpack, h]
      exact unpack_packedInfinity _ s
    rw [hsame]
    exact ⟨rfl, rfl⟩
  | zero s =>
    have hsame : (widen a).toModel.unpack = .zero s := by
      rw [hunpack, h]
      exact unpack_packedZero
    rw [hsame]
    exact ⟨rfl, rfl⟩
  | finite s m e hm =>
    rw [h] at hfits hunpack
    obtain ⟨hrepresentable, hlt⟩ := representable_of_fits32 hfits
    have hrounded : Rounded .binary64 (signed s (m * 2 ^ e)) (refit .binary64 (.finite s m e hm)) :=
      rounded_round .binary64 s hm.ne' e
    obtain ⟨hfinite, hvalue⟩ := hrounded.value_eq hunpack (hrepresentable.signed s)
      (by rwa [abs_signed s (by positivity)])
    refine ⟨isNaN_of_isFinite hfinite, ?_⟩
    rw [valueOf_of_isFinite (u := .finite s m e hm) rfl, realOf_finite]
    exact hvalue

/-! ### Constants -/

theorem isFinite_zero : (0.0 : Float).isFinite = true := rfl

theorem value_zero : value 0.0 = 0 := rfl

theorem isFinite_one : (1.0 : Float).isFinite = true := rfl

theorem realOf_one : realOf (1.0 : Float).toModel.unpack = 1 := by
  have hunpack : (1.0 : Float).toModel.unpack = .finite .positive 4503599627370496 (-52) (by decide) := rfl
  rw [hunpack, realOf_positive]
  norm_num

end SurveyGateway.Number
