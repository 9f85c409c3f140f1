import Mathlib
import SurveyGateway.Proofs.Number.Unpacked

/-!
# Rounding

The result of an operation on floats is computed with more bits than a float has, and is rounded. This module says what
that makes of a number: the number itself if it is one of the format, and else one of its two neighbours there.

## The model

A mantissa that has been cut keeps two bits of what is gone; `Cut` says of which numbers it may be what is left.
`Representable` are the numbers of a format, as if its exponents had no end, and `Faithful` relates a number to what may
come of rounding it: nothing representable lies between the two. `realOf` is the number that the parts of a finite float
stand for, and `Rounded` says of which number some parts may be what is rounded.

## What is proved

* `Cut.shift`, `Cut.rounded` — cutting off more bits, and rounding what is left.
* `rounded_roundWithAccuracy`, `rounded_round` — rounding is faithful, and gives mantissas and exponents of the format.
* `unpack_pack_finite` — they are packed to a float of their own, as long as the exponent is in range.
-/

namespace SurveyGateway.Number

open Float.Model Float.Model.UnpackedFloat

/-! ### Mantissas that are cut -/

/-- A number lies between a mantissa and the next one, and is the mantissa exactly if nothing has been cut off. -/
structure Cut (em : ExtendedMantissa) (x : ℝ) : Prop where
  le : (em.mantissa : ℝ) ≤ x
  lt : x < em.mantissa + 1
  whole : x = em.mantissa ↔ em.roundBit = false ∧ em.stickyBit = false

variable {em : ExtendedMantissa} {x : ℝ}

theorem Cut.half (h : Cut em x) : Cut em.shiftRightOne (x / 2) := by
  obtain ⟨m, r, s⟩ := em
  have hle : (m : ℝ) ≤ x := h.le
  have hlt : x < m + 1 := h.lt
  have hwhole : x = m ↔ r = false ∧ s = false := h.whole
  have hm : (m : ℝ) = 2 * (m / 2 : ℕ) + (m % 2 : ℕ) := by exact_mod_cast (Nat.div_add_mod m 2).symm
  have hmod : m % 2 = 0 ∨ m % 2 = 1 := Nat.mod_two_eq_zero_or_one m
  have hrest : (0 : ℝ) ≤ (m % 2 : ℕ) ∧ ((m % 2 : ℕ) : ℝ) ≤ 1 := by rcases hmod with h | h <;> rw [h] <;> norm_num
  simp only [ExtendedMantissa.shiftRightOne]
  refine ⟨by simp only; linarith, by simp only; linarith, ?_⟩
  simp only [bne_eq_false_iff_eq, Bool.or_eq_false_iff, ← hwhole]
  constructor
  · intro hx
    have heven : m % 2 = 0 := by
      rcases hmod with h | h
      · exact h
      · rw [h] at hm
        push_cast at hm
        linarith
    refine ⟨heven, ?_⟩
    rw [heven] at hm
    push_cast at hm
    linarith
  · rintro ⟨heven, hx⟩
    rw [heven] at hm
    push_cast at hm
    linarith

/-- A number that is divided by a power of two is what is left if as many bits are cut off. -/
theorem Cut.shift (h : Cut em x) (k : ℕ) : Cut (em >>> k) (x / 2 ^ k) := by
  induction k with
  | zero =>
    rw [pow_zero, div_one]
    exact h
  | succ k ih =>
    rw [pow_succ, ← div_div]
    exact ih.half

/-- What is left is rounded to itself or to the next mantissa, and to itself if nothing has been cut off. -/
theorem Cut.rounded (h : Cut em x) :
    em.roundedMantissa = em.mantissa ∨ em.roundedMantissa = em.mantissa + 1 ∧ (em.mantissa : ℝ) < x := by
  have hlt : ¬ (em.roundBit = false ∧ em.stickyBit = false) → (em.mantissa : ℝ) < x := fun hcut =>
    lt_of_le_of_ne h.le fun heq => hcut (h.whole.mp heq.symm)
  obtain ⟨m, r, s⟩ := em
  cases r with
  | false => cases s <;> exact Or.inl rfl
  | true =>
    cases s with
    | false =>
      have hround : ExtendedMantissa.roundedMantissa ⟨m, true, false⟩ = m + m % 2 := rfl
      rcases Nat.mod_two_eq_zero_or_one m with heven | hodd
      · exact Or.inl (by rw [hround, heven, Nat.add_zero])
      · exact Or.inr ⟨by rw [hround, hodd], hlt (by simp)⟩
    | true => exact Or.inr ⟨rfl, hlt (by simp)⟩

theorem cut_exact (m : ℕ) : Cut (.ofMantissaAndAccuracy m .exact) m :=
  ⟨le_refl _, lt_add_one _, by simp [ExtendedMantissa.ofMantissaAndAccuracy]⟩

/-- The rest of a division tells what has been cut off. -/
theorem cut_fraction (m : ℕ) {num den : ℕ} (h : num < den) :
    Cut (.ofMantissaAndAccuracy m (accuracyOfFraction num den)) (m + num / den) := by
  have hden : (0 : ℝ) < den := by exact_mod_cast Nat.zero_lt_of_lt h
  have hlt : (num : ℝ) / den < 1 := by
    rw [div_lt_one hden]
    exact_mod_cast h
  have hnonneg : (0 : ℝ) ≤ num / den := by positivity
  have hmantissa : (ExtendedMantissa.ofMantissaAndAccuracy m (accuracyOfFraction num den)).mantissa = m := by
    unfold accuracyOfFraction
    split
    · rfl
    · cases compare (2 * num) den <;> rfl
  refine ⟨by rw [hmantissa]; linarith, by rw [hmantissa]; linarith, ?_⟩
  rw [hmantissa]
  unfold accuracyOfFraction
  by_cases hnum : num = 0
  · simp [hnum, ExtendedMantissa.ofMantissaAndAccuracy]
  · have hne : (num : ℝ) / den ≠ 0 := div_ne_zero (by exact_mod_cast hnum) hden.ne'
    rw [if_neg hnum]
    cases compare (2 * num) den <;> simp [ExtendedMantissa.ofMantissaAndAccuracy, hne]

theorem mantissa_shift (em : ExtendedMantissa) (k : ℕ) : (em >>> k).mantissa = em.mantissa / 2 ^ k := by
  induction k with
  | zero => exact (Nat.div_one _).symm
  | succ k ih =>
    have hstep : (em >>> (k + 1)).mantissa = (em >>> k).mantissa / 2 := rfl
    rw [hstep, ih, Nat.div_div_eq_div_mul, pow_succ]

theorem mantissa_ofMantissaAndAccuracy (m : ℕ) (a : Accuracy) :
    (ExtendedMantissa.ofMantissaAndAccuracy m a).mantissa = m := by
  cases a with
  | exact => rfl
  | inexact o => cases o <;> rfl

/-! ### Representable numbers -/

/-- A number is a mantissa of a format, of either sign, times a power of two that is not too small. The exponents of the
format may end before that of the number. -/
def Representable (spec : Format) (y : ℝ) : Prop :=
  ∃ m e : ℤ, |m| ≤ 2 ^ (spec.mantissaBitsWithoutImplicit + 1) ∧ spec.minExponent ≤ e ∧ y = m * 2 ^ e

/-- Nothing representable lies between a number and what it is rounded to. -/
def Faithful (spec : Format) (x r : ℝ) : Prop :=
  ∀ y, Representable spec y → (y ≤ x → y ≤ r) ∧ (x ≤ y → r ≤ y)

variable {spec : Format} {r y : ℝ}

theorem Representable.neg (h : Representable spec y) : Representable spec (-y) := by
  obtain ⟨m, e, hm, he, rfl⟩ := h
  exact ⟨-m, e, by rwa [abs_neg], he, by push_cast; ring⟩

theorem representable_zero (spec : Format) : Representable spec 0 :=
  ⟨0, spec.minExponent, by simp, le_refl _, by simp⟩

/-- Whole numbers are representable as long as a mantissa has room for them. -/
theorem representable_natCast {n : ℕ} (h : n ≤ 2 ^ (spec.mantissaBitsWithoutImplicit + 1))
    (hspec : spec.minExponent ≤ 0) : Representable spec n :=
  ⟨n, 0, by rw [Nat.abs_cast]; exact_mod_cast h, hspec, by simp⟩

theorem Faithful.refl (spec : Format) (x : ℝ) : Faithful spec x x := fun _ _ => ⟨id, id⟩

theorem Faithful.neg (h : Faithful spec x r) : Faithful spec (-x) (-r) := by
  intro y hy
  obtain ⟨hbelow, habove⟩ := h (-y) hy.neg
  exact ⟨fun hle => le_neg.mpr (habove (le_neg.mpr hle)), fun hle => neg_le.mpr (hbelow (neg_le.mpr hle))⟩

/-- A representable number is rounded to itself. -/
theorem Faithful.eq (h : Faithful spec x r) (hx : Representable spec x) : r = x :=
  le_antisymm ((h x hx).2 le_rfl) ((h x hx).1 le_rfl)

/-- A number with a sign. -/
def signed (s : Sign) (x : ℝ) : ℝ :=
  match s with
  | .positive => x
  | .negative => -x

theorem abs_signed (s : Sign) (hx : 0 ≤ x) : |signed s x| = x := by
  cases s
  · exact (abs_neg x).trans (abs_of_nonneg hx)
  · exact abs_of_nonneg hx

theorem Representable.signed (h : Representable spec y) (s : Sign) : Representable spec (signed s y) := by
  cases s
  · exact h.neg
  · exact h

theorem Faithful.signed (h : Faithful spec x r) (s : Sign) : Faithful spec (signed s x) (signed s r) := by
  cases s
  · exact h.neg
  · exact h

/-- A number between two multiples of the last place may be rounded to either, if there are no finer places. -/
theorem faithful_of_cut {t : ℤ} (h : Cut em (x / 2 ^ t))
    (hfull : t = spec.minExponent ∨ 2 ^ spec.mantissaBitsWithoutImplicit ≤ em.mantissa) :
    Faithful spec x (em.roundedMantissa * 2 ^ t) := by
  have hunit : (0 : ℝ) < 2 ^ t := by positivity
  have hle : em.mantissa * 2 ^ t ≤ x := (le_div_iff₀ hunit).mp h.le
  have hlt : x < (em.mantissa + 1) * 2 ^ t := (div_lt_iff₀ hunit).mp h.lt
  -- nothing representable lies strictly between the two multiples
  have hgap : ∀ y, Representable spec y → y ≤ em.mantissa * 2 ^ t ∨ (em.mantissa + 1) * 2 ^ t ≤ y := by
    rintro y ⟨m, e, hm, he, rfl⟩
    rcases le_or_gt t e with hte | hte
    · obtain ⟨k, rfl⟩ := Int.le.dest hte
      have hy : (m : ℝ) * 2 ^ (t + k) = (m * 2 ^ k : ℤ) * 2 ^ t := by
        rw [zpow_add₀ (by norm_num), zpow_natCast]
        push_cast
        ring
      rw [hy]
      rcases le_or_gt (m * 2 ^ k) (em.mantissa : ℤ) with hcmp | hcmp
      · exact Or.inl (mul_le_mul_of_nonneg_right (by exact_mod_cast hcmp) hunit.le)
      · exact Or.inr (mul_le_mul_of_nonneg_right (by exact_mod_cast hcmp) hunit.le)
    · have hmantissa : 2 ^ spec.mantissaBitsWithoutImplicit ≤ em.mantissa := hfull.resolve_left (by omega)
      left
      have hpow : (2 : ℝ) ^ e ≤ 2 ^ (t - 1) := zpow_le_zpow_right₀ (by norm_num) (by omega)
      calc (m : ℝ) * 2 ^ e ≤ 2 ^ (spec.mantissaBitsWithoutImplicit + 1) * 2 ^ e :=
            mul_le_mul_of_nonneg_right (by exact_mod_cast (le_abs_self m).trans hm) (by positivity)
        _ ≤ 2 ^ (spec.mantissaBitsWithoutImplicit + 1) * 2 ^ (t - 1) :=
            mul_le_mul_of_nonneg_left hpow (by positivity)
        _ = 2 ^ spec.mantissaBitsWithoutImplicit * 2 ^ t := by
            rw [pow_succ, zpow_sub₀ (by norm_num), zpow_one]
            ring
        _ ≤ em.mantissa * 2 ^ t := mul_le_mul_of_nonneg_right (by exact_mod_cast hmantissa) hunit.le
  intro y hy
  rcases h.rounded with hround | ⟨hround, hcut⟩
  · rw [hround]
    refine ⟨fun hyx => ?_, fun hxy => hle.trans hxy⟩
    rcases hgap y hy with hlow | hhigh
    · exact hlow
    · linarith
  · have hcut : em.mantissa * 2 ^ t < x := (lt_div_iff₀ hunit).mp hcut
    rw [hround, Nat.cast_add, Nat.cast_one]
    refine ⟨fun hyx => hyx.trans hlt.le, fun hxy => ?_⟩
    rcases hgap y hy with hlow | hhigh
    · linarith
    · exact hhigh

/-! ### Rounding to a format -/

/-- The exponent that a mantissa is cut to has all bits of the format, or is the smallest one. -/
theorem cut_bounds {m : ℕ} {e : ℤ} (he : e ≤ spec.targetExponent (totalExponent m e)) :
    let t := spec.targetExponent (totalExponent m e)
    let cut := m / 2 ^ (t - e).toNat
    cut < 2 ^ (spec.mantissaBitsWithoutImplicit + 1) ∧
      (t = spec.minExponent ∨ 2 ^ spec.mantissaBitsWithoutImplicit ≤ cut) := by
  intro t cut
  have ht : t = max (m.log2 + 1 + e - (1 + spec.mantissaBitsWithoutImplicit : ℕ)) spec.minExponent := rfl
  constructor
  · refine (Nat.div_lt_iff_lt_mul (Nat.two_pow_pos _)).mpr ?_
    calc m < 2 ^ (m.log2 + 1) := Nat.lt_log2_self
      _ ≤ 2 ^ (spec.mantissaBitsWithoutImplicit + 1 + (t - e).toNat) := Nat.pow_le_pow_right (by decide) (by omega)
      _ = _ := pow_add _ _ _
  · by_cases hmin : t = spec.minExponent
    · exact Or.inl hmin
    · right
      have hbits := spec.hm
      have hlog : m.log2 = spec.mantissaBitsWithoutImplicit + (t - e).toNat := by omega
      have hm : m ≠ 0 := by
        rintro rfl
        simp at hlog
        omega
      refine (Nat.le_div_iff_mul_le (Nat.two_pow_pos _)).mpr ?_
      rw [← pow_add, ← hlog]
      exact Nat.log2_self_le hm

/-- A mantissa that has room in the format is not cut again. -/
theorem shiftToTargetExponent_of_lt {m : ℕ} {t : ℤ} (hm : m < 2 ^ (spec.mantissaBitsWithoutImplicit + 1))
    (ht : spec.minExponent ≤ t) :
    (shiftToTargetExponent spec m t .exact).1.mantissa = m ∧ (shiftToTargetExponent spec m t .exact).2 = t := by
  have hlog : m.log2 ≤ spec.mantissaBitsWithoutImplicit := by
    rcases eq_or_ne m 0 with rfl | hne
    · simp
    · exact Nat.lt_succ_iff.mp ((Nat.log2_lt hne).mpr hm)
  have htarget : spec.targetExponent (totalExponent m t) ≤ t := by
    unfold Format.targetExponent totalExponent Format.mantissaBits
    omega
  have hzero : (spec.targetExponent (totalExponent m t) - t).toNat = 0 := by omega
  simp only [shiftToTargetExponent, shiftToExponent, hzero]
  exact ⟨rfl, by omega⟩

/-- A mantissa that has grown by one bit in rounding is halved. -/
theorem shiftToTargetExponent_of_eq {t : ℤ} (ht : spec.minExponent ≤ t) :
    (shiftToTargetExponent spec (2 ^ (spec.mantissaBitsWithoutImplicit + 1)) t .exact).1.mantissa =
        2 ^ spec.mantissaBitsWithoutImplicit ∧
      (shiftToTargetExponent spec (2 ^ (spec.mantissaBitsWithoutImplicit + 1)) t .exact).2 = t + 1 := by
  have htarget : spec.targetExponent (totalExponent (2 ^ (spec.mantissaBitsWithoutImplicit + 1)) t) = t + 1 := by
    unfold Format.targetExponent totalExponent Format.mantissaBits
    rw [Nat.log2_two_pow]
    omega
  have hone : (t + 1 - t).toNat = 1 := by omega
  simp only [shiftToTargetExponent, shiftToExponent, htarget, hone, mantissa_shift, mantissa_ofMantissaAndAccuracy]
  exact ⟨by rw [pow_succ, pow_one]; omega, by omega⟩

/-- The float of some sign, mantissa and exponent. -/
def ofParts (s : Sign) (m : ℕ) (e : ℤ) : UnpackedFloat :=
  if h : m = 0 then .zero s else .finite s m e (Nat.pos_of_ne_zero h)

/-- The real number that the parts of a finite float stand for. -/
noncomputable def realOf : UnpackedFloat → ℝ
  | .notANumber | .infinity _ | .zero _ => 0
  | .finite s m e _ => (s.apply m : ℤ) * 2 ^ e

/-- Parts are those of a format, and a number may be rounded to them. -/
def Rounded (spec : Format) (x : ℝ) (u : UnpackedFloat) : Prop :=
  ∃ s m e, u = ofParts s m e ∧ (m ≠ 0 → Canonical spec m e) ∧ Faithful spec x (signed s (m * 2 ^ e))

/-- **Rounding is faithful.** Whatever is left of a number with some bits cut off is rounded to the number itself, or to
one of its neighbours in the format, and comes out as a mantissa and an exponent of the format. -/
theorem rounded_roundWithAccuracy (s : Sign) {m : ℕ} {e : ℤ} {a : Accuracy}
    (hx : Cut (.ofMantissaAndAccuracy m a) (x / 2 ^ e)) (he : e ≤ spec.targetExponent (totalExponent m e)) :
    Rounded spec (signed s x) (roundWithAccuracy spec s m e a) := by
  obtain ⟨hlt, hfull⟩ := cut_bounds he
  set t := spec.targetExponent (totalExponent m e) with ht
  set em := ExtendedMantissa.ofMantissaAndAccuracy m a >>> (t - e).toNat with hem
  have hmin : spec.minExponent ≤ t := le_max_right _ _
  have hmantissa : em.mantissa = m / 2 ^ (t - e).toNat := by
    rw [hem, mantissa_shift, mantissa_ofMantissaAndAccuracy]
  rw [← hmantissa] at hlt hfull
  have hcut : Cut em (x / 2 ^ t) := by
    have hunit : x / 2 ^ t = x / 2 ^ e / 2 ^ (t - e).toNat := by
      rw [div_div, ← zpow_natCast, ← zpow_add₀ (by norm_num)]
      congr 2
      omega
    rw [hunit]
    exact hx.shift _
  have hfirst : shiftToTargetExponent spec m e a = (em, t) := by
    simp only [shiftToTargetExponent, shiftToExponent, ← ht, ← hem]
    exact congrArg _ (by omega)
  have hround : roundWithAccuracy spec s m e a =
      ofParts s (shiftToTargetExponent spec em.roundedMantissa t .exact).1.mantissa
        (shiftToTargetExponent spec em.roundedMantissa t .exact).2 := by
    simp only [roundWithAccuracy, hfirst, ofParts]
  have hfaithful : Faithful spec x (em.roundedMantissa * 2 ^ t) := faithful_of_cut hcut hfull
  have hle : em.mantissa ≤ em.roundedMantissa ∧ em.roundedMantissa ≤ em.mantissa + 1 := by
    rcases hcut.rounded with h | ⟨h, -⟩ <;> omega
  rcases Nat.lt_or_ge em.roundedMantissa (2 ^ (spec.mantissaBitsWithoutImplicit + 1)) with hroom | hgrown
  · obtain ⟨hm', he'⟩ := shiftToTargetExponent_of_lt hroom hmin
    rw [hm', he'] at hround
    refine ⟨s, _, _, hround, fun hne => ⟨Nat.pos_of_ne_zero hne, hroom, hmin, ?_⟩, hfaithful.signed s⟩
    exact hfull.imp_right fun h => h.trans hle.1
  · have hgrown : em.roundedMantissa = 2 ^ (spec.mantissaBitsWithoutImplicit + 1) := by omega
    obtain ⟨hm', he'⟩ := shiftToTargetExponent_of_eq hmin
    rw [hgrown, hm', he'] at hround
    refine ⟨s, _, _, hround, fun hne => ⟨Nat.pos_of_ne_zero hne, ?_, by omega, Or.inr (le_refl _)⟩, ?_⟩
    · exact Nat.pow_lt_pow_right (by decide) (Nat.lt_succ_self _)
    · have hvalue : ((2 ^ spec.mantissaBitsWithoutImplicit : ℕ) : ℝ) * 2 ^ (t + 1) = em.roundedMantissa * 2 ^ t := by
        rw [hgrown, zpow_add₀ (by norm_num), zpow_one]
        push_cast
        ring
      rw [hvalue]
      exact hfaithful.signed s

theorem log2_shiftLeft {m : ℕ} (hm : m ≠ 0) (k : ℕ) : (m <<< k).log2 = m.log2 + k := by
  rw [Nat.shiftLeft_eq]
  refine (Nat.log2_eq_iff (by positivity)).mpr ⟨?_, ?_⟩
  · rw [pow_add]
    exact Nat.mul_le_mul_right _ (Nat.log2_self_le hm)
  · rw [Nat.add_right_comm, pow_add]
    exact Nat.mul_lt_mul_of_pos_right Nat.lt_log2_self (Nat.two_pow_pos k)

/-- A mantissa of any length is rounded as it is. -/
theorem rounded_round (spec : Format) (s : Sign) {m : ℕ} (hm : m ≠ 0) (e : ℤ) :
    Rounded spec (signed s (m * 2 ^ e)) (UnpackedFloat.round spec s m e) := by
  set t := spec.targetExponent (totalExponent m e) with ht
  set k := (e - t).toNat with hk
  have hround : UnpackedFloat.round spec s m e = roundWithAccuracy spec s (m <<< k) (e - k) .exact := rfl
  have htotal : totalExponent (m <<< k) (e - k) = totalExponent m e := by
    unfold totalExponent
    rw [log2_shiftLeft hm]
    push_cast
    ring
  rw [hround]
  refine rounded_roundWithAccuracy s ?_ ?_
  · have hvalue : (m : ℝ) * 2 ^ e / 2 ^ (e - k) = (m <<< k : ℕ) := by
      rw [Nat.shiftLeft_eq, mul_div_assoc, ← zpow_sub₀ (by norm_num)]
      push_cast
      congr 1
      rw [show e - (e - k) = (k : ℤ) by omega, zpow_natCast]
    rw [hvalue]
    exact cut_exact _
  · rw [htotal, ← ht]
    omega

/-! ### Packing -/

/-- The exponents of a format end below that of the infinities. -/
def InRange (spec : Format) (e : ℤ) : Prop :=
  (e + spec.exponentBias + spec.mantissaBitsWithoutImplicit).toNat + 1 < 2 ^ spec.exponentBits

instance (spec : Format) (e : ℤ) : Decidable (InRange spec e) :=
  inferInstanceAs (Decidable (_ < _))

theorem InRange.mono {e e' : ℤ} (h : InRange spec e') (he : e ≤ e') : InRange spec e := by
  unfold InRange at h ⊢
  omega

theorem toNat_neg_one (n : ℕ) : (-1#n).toNat = 2 ^ n - 1 := by
  rw [BitVec.neg_one_eq_allOnes, BitVec.toNat_allOnes]

/-- The exponent of a float is in range. -/
theorem inRange_of_unpack (hbits : 2 ≤ spec.exponentBits) {b : BitVec spec.numBits} {s : Sign} {m : ℕ} {e : ℤ}
    {h : 0 < m} (hb : UnpackedFloat.unpack spec b = .finite s m e h) : InRange spec e := by
  have hlt := (unpackExponent b).isLt
  have hne : unpackExponent b ≠ -1#_ := by
    intro hones
    unfold UnpackedFloat.unpack at hb
    rw [if_pos hones] at hb
    split at hb <;> cases hb
  have htoNat : (unpackExponent b).toNat ≠ 2 ^ spec.exponentBits - 1 := fun h =>
    hne (BitVec.eq_of_toNat_eq (h.trans (toNat_neg_one _).symm))
  have hfour : 2 ^ 2 ≤ 2 ^ spec.exponentBits := Nat.pow_le_pow_right (by decide) hbits
  unfold InRange
  rcases unpack_cases b with hnot | ⟨-, -, hzero⟩ | ⟨-, hpos, hsub⟩ | ⟨-, hpos, hfull⟩
  · rw [hb] at hnot
    cases hnot
  · cases hb.symm.trans hzero
  · cases hb.symm.trans hsub
    rw [minExponent_eq]
    omega
  · cases hb.symm.trans hfull
    omega

theorem unpack_packedInfinity (spec : Format) (s : Sign) :
    UnpackedFloat.unpack spec (packedInfinity spec s) = .infinity s := by
  unfold UnpackedFloat.unpack packedInfinity
  simp only [unpackExponent_packComponents, unpackMantissa_packComponents, unpackSign_packComponents,
    Sign.ofBitVec_toBitVec, if_true]
  rfl

/-- A full mantissa is packed without its first bit, and unpacked with it. -/
theorem unpack_packComponents_full (s : Sign) {m n : ℕ} (hm : 0 < m)
    (hfull : 2 ^ spec.mantissaBitsWithoutImplicit ≤ m) (hlt : m < 2 ^ (spec.mantissaBitsWithoutImplicit + 1))
    (hpos : 0 < n) (hn : n + 1 < 2 ^ spec.exponentBits) :
    UnpackedFloat.unpack spec (packComponents spec s (BitVec.ofNat _ n) (BitVec.ofNat _ m)) =
      .finite s m (n - (spec.exponentBias + spec.mantissaBitsWithoutImplicit : ℤ)) hm := by
  rw [pow_succ] at hlt
  have hexponent : (BitVec.ofNat spec.exponentBits n).toNat = n := by
    rw [BitVec.toNat_ofNat, Nat.mod_eq_of_lt (by omega)]
  have hmantissa : 2 ^ spec.mantissaBitsWithoutImplicit +
      (BitVec.ofNat spec.mantissaBitsWithoutImplicit m).toNat = m := by
    rw [BitVec.toNat_ofNat, Nat.mod_eq_sub_mod hfull, Nat.mod_eq_of_lt (by omega)]
    omega
  have hnotOnes : BitVec.ofNat spec.exponentBits n ≠ -1#_ := by
    intro h
    have hsame := congrArg BitVec.toNat h
    rw [hexponent, toNat_neg_one] at hsame
    omega
  have hnotZero : BitVec.ofNat spec.exponentBits n ≠ 0#_ := by
    intro h
    have hsame := congrArg BitVec.toNat h
    rw [hexponent, BitVec.toNat_zero] at hsame
    omega
  unfold UnpackedFloat.unpack
  simp only [unpackExponent_packComponents, unpackMantissa_packComponents, unpackSign_packComponents,
    Sign.ofBitVec_toBitVec, if_neg hnotOnes, if_neg hnotZero, toNat_implicit, hexponent, hmantissa]

/-- A mantissa that is not full is packed with the exponent zero, which stands for the smallest one. -/
theorem unpack_packComponents_subnormal (s : Sign) {m : ℕ} (hm : 0 < m)
    (hlt : m < 2 ^ spec.mantissaBitsWithoutImplicit) (hbits : 1 < 2 ^ spec.exponentBits) :
    UnpackedFloat.unpack spec (packComponents spec s 0#_ (BitVec.ofNat _ m)) =
      .finite s m spec.minExponent hm := by
  have hnotOnes : BitVec.ofNat spec.exponentBits 0 ≠ -1#_ := by
    intro h
    have hsame := congrArg BitVec.toNat h
    rw [toNat_neg_one, BitVec.toNat_zero] at hsame
    omega
  have hmantissa : (BitVec.ofNat spec.mantissaBitsWithoutImplicit m).toNat = m := by
    rw [BitVec.toNat_ofNat, Nat.mod_eq_of_lt hlt]
  have hnotZero : BitVec.ofNat spec.mantissaBitsWithoutImplicit m ≠ 0#_ := by
    intro h
    have hsame := congrArg BitVec.toNat h
    rw [hmantissa, BitVec.toNat_zero] at hsame
    omega
  unfold UnpackedFloat.unpack
  simp only [unpackExponent_packComponents, unpackMantissa_packComponents, unpackSign_packComponents,
    Sign.ofBitVec_toBitVec, if_neg hnotOnes, if_true, dif_neg hnotZero, hmantissa, finite.injEq, true_and,
    BitVec.toNat_zero]
  rw [minExponent_eq]
  omega

/-- What is packed is unpacked again, unless its exponent is out of range: then it has become an infinity. -/
theorem unpack_pack_finite {m : ℕ} {e : ℤ} (s : Sign) (hc : Canonical spec m e) :
    UnpackedFloat.unpack spec (UnpackedFloat.pack spec (.finite s m e hc.pos)) =
      if InRange spec e then UnpackedFloat.finite s m e hc.pos else .infinity s := by
  have hmin := hc.le
  rw [minExponent_eq] at hmin
  simp only [UnpackedFloat.pack]
  by_cases hrange : InRange spec e
  · rw [if_pos hrange, if_neg (by unfold InRange at hrange; omega)]
    unfold InRange at hrange
    by_cases hfull : 2 ^ spec.mantissaBitsWithoutImplicit ≤ m
    · have hlog : m.log2 = spec.mantissaBitsWithoutImplicit := (Nat.log2_eq_iff hc.pos.ne').mpr ⟨hfull, hc.lt⟩
      rw [if_pos (by rw [hlog, Format.mantissaBits, Nat.add_comm]),
        unpack_packComponents_full s hc.pos hfull hc.lt (by omega) hrange]
      congr 1
      omega
    · have hsub : e = spec.minExponent := hc.full.resolve_right hfull
      have hlog : m.log2 + 1 ≠ spec.mantissaBits := by
        have := (Nat.log2_lt hc.pos.ne').mpr (Nat.not_le.mp hfull)
        unfold Format.mantissaBits
        omega
      rw [if_neg hlog, unpack_packComponents_subnormal s hc.pos (Nat.not_le.mp hfull) (by omega)]
      simp only [hsub]
  · rw [if_neg hrange, if_pos (by unfold InRange at hrange; omega), unpack_packedInfinity]

end SurveyGateway.Number
