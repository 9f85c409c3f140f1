import Mathlib.Algebra.Order.Field.Power
import Mathlib.Data.Rat.Cast.Order
import Mathlib.Tactic.FieldSimp
import Mathlib.Tactic.Linarith
import Mathlib.Tactic.Positivity
import Mathlib.Tactic.Ring
import SurveyGateway.Number.Shortest

/-!
# Shortest decimals tell floats apart

The decimals that round to a float form an interval. `Interval.Covers` states membership for rational numbers, and
`contains_iff` that `Interval.contains` decides it exactly. The shortest decimal of an interval is one of its points
(`shortest_covers`), and the intervals of two floats of a format have no point in common (`covers_unique`): there the
ends meet at most, and of two neighbours the one with the odd mantissa does not own its ends. So no decimal is the
shortest one of two floats.
-/

namespace SurveyGateway.Number

open Float.Model

/-- The number that a decimal stands for. -/
def Decimal.value (d : Decimal) : ℚ := d.digits * 10 ^ d.exponent

/-! ### Comparison -/

theorem zpow_eq_div {b : ℚ} (hb : b ≠ 0) (k : ℤ) : b ^ k = b ^ k.toNat / b ^ (-k).toNat := by
  rw [eq_div_iff (pow_ne_zero _ hb), ← zpow_natCast, ← zpow_natCast, ← zpow_add₀ hb]
  congr 1
  omega

/-- `compareScaled` compares the two numbers exactly. -/
theorem compareScaled_iff (d : ℕ) (k : ℤ) (x : ℕ) (q : ℤ) :
    (compareScaled d k x q = .lt ↔ (d : ℚ) * 10 ^ k < x * 2 ^ q) ∧
      (compareScaled d k x q = .gt ↔ (x : ℚ) * 2 ^ q < d * 10 ^ k) := by
  -- both numbers are multiplied by a common denominator
  have hden : (0 : ℚ) < 10 ^ (-k).toNat * 2 ^ (-q).toNat := by positivity
  have hd : (d : ℚ) * 10 ^ k * (10 ^ (-k).toNat * 2 ^ (-q).toNat) =
      ((d * 10 ^ k.toNat * 2 ^ (-q).toNat : ℕ) : ℚ) := by
    rw [zpow_eq_div (by norm_num : (10 : ℚ) ≠ 0)]
    push_cast
    field_simp
  have hx : (x : ℚ) * 2 ^ q * (10 ^ (-k).toNat * 2 ^ (-q).toNat) =
      ((x * 10 ^ (-k).toNat * 2 ^ q.toNat : ℕ) : ℚ) := by
    rw [zpow_eq_div (by norm_num : (2 : ℚ) ≠ 0)]
    push_cast
    field_simp
  unfold compareScaled
  rw [Nat.shiftLeft_eq, Nat.shiftLeft_eq, Nat.compare_eq_lt, Nat.compare_eq_gt, Nat.pow_eq, Nat.pow_eq]
  constructor
  · rw [← mul_lt_mul_iff_of_pos_right hden, hd, hx]
    exact Nat.cast_lt.symm
  · rw [← mul_lt_mul_iff_of_pos_right hden, hd, hx]
    exact Nat.cast_lt.symm

namespace Interval

/-! ### The points of an interval -/

/-- Whether a number lies in an interval. -/
def Covers (i : Interval) (x : ℚ) : Prop :=
  if i.closed then (i.low : ℚ) * 2 ^ i.scale ≤ x ∧ x ≤ i.high * 2 ^ i.scale
  else (i.low : ℚ) * 2 ^ i.scale < x ∧ x < i.high * 2 ^ i.scale

theorem contains_iff (i : Interval) (d : Decimal) : i.contains d = true ↔ i.Covers d.value := by
  obtain ⟨hlow, hlow'⟩ := compareScaled_iff d.digits d.exponent i.low i.scale
  obtain ⟨hhigh, hhigh'⟩ := compareScaled_iff d.digits d.exponent i.high i.scale
  unfold contains Covers Decimal.value
  cases i.closed
  · simp only [Bool.false_eq_true, if_false, Bool.and_eq_true, beq_iff_eq]
    rw [hlow', hhigh]
  · simp only [if_true, Bool.and_eq_true, bne_iff_ne]
    rw [Ne, hlow, not_lt, Ne, hhigh', not_lt]

/-- A point that is found on a grid is one of the interval. -/
theorem covers_of_onGrid {tie : Tie} {i : Interval} {k : ℤ} {d : Decimal} (h : i.onGrid tie k = some d) :
    i.Covers d.value := by
  rw [← contains_iff]
  unfold onGrid at h
  simp only at h
  split at h
  · next hd hd' =>
    obtain rfl := Option.some.inj h
    have hnear : i.nearer tie k (i.below k) = i.below k ∨ i.nearer tie k (i.below k) = i.below k + 1 := by
      unfold nearer
      split
      · exact Or.inl rfl
      · exact Or.inr rfl
      · cases tie
        · exact Or.inr rfl
        · simp only
          split
          · exact Or.inl rfl
          · exact Or.inr rfl
    rcases hnear with hn | hn <;> rw [hn]
    · exact hd
    · exact hd'
  · next hd hd' => exact Option.some.inj h ▸ hd
  · next hd hd' => exact Option.some.inj h ▸ hd'
  · cases h

/-- Written out, the float is itself. -/
theorem value_exact (i : Interval) : i.exact.value = i.value * 2 ^ i.scale := by
  unfold exact Decimal.value
  rw [Nat.shiftLeft_eq, Nat.pow_eq]
  rcases le_total 0 i.scale with h | h
  · have hneg : (-i.scale).toNat = 0 := by omega
    rw [min_eq_right h, hneg, zpow_eq_div (by norm_num : (2 : ℚ) ≠ 0), hneg]
    push_cast
    simp
  · have hpos : i.scale.toNat = 0 := by omega
    rw [min_eq_left h, hpos, zpow_eq_div (by norm_num : (2 : ℚ) ≠ 0), zpow_eq_div (by norm_num : (10 : ℚ) ≠ 0), hpos]
    have h10 : (10 : ℚ) ^ (-i.scale).toNat = 5 ^ (-i.scale).toNat * 2 ^ (-i.scale).toNat := by
      rw [← mul_pow]
      norm_num
    push_cast
    rw [h10]
    field_simp

/-- The shortest decimal is a point of the interval, if the float itself is one. -/
theorem shortest_covers (tie : Tie) {i : Interval} (hlow : i.low < i.value) (hhigh : i.value < i.high) :
    i.Covers (i.shortest tie).value := by
  have hscale : (0 : ℚ) < 2 ^ i.scale := by positivity
  have hexact : i.Covers i.exact.value := by
    have hl : (i.low : ℚ) * 2 ^ i.scale < i.value * 2 ^ i.scale :=
      (mul_lt_mul_iff_of_pos_right hscale).mpr (Nat.cast_lt.mpr hlow)
    have hh : (i.value : ℚ) * 2 ^ i.scale < i.high * 2 ^ i.scale :=
      (mul_lt_mul_iff_of_pos_right hscale).mpr (Nat.cast_lt.mpr hhigh)
    rw [value_exact]
    unfold Covers
    split
    · exact ⟨hl.le, hh.le⟩
    · exact ⟨hl, hh⟩
  unfold shortest
  cases h : (List.range 21).findSome? fun n : ℕ => i.onGrid tie (i.magnitude - (n : ℤ)) with
  | none => exact hexact
  | some d =>
    obtain ⟨n, -, hn⟩ := List.exists_of_findSome?_eq_some h
    exact covers_of_onGrid hn

end Interval

/-! ### The intervals of a format -/

/-- The mantissa and the exponent of a positive float of a format: the mantissa has all its bits, unless the exponent
is the smallest one. -/
structure Canonical (spec : Format) (m : ℕ) (e : ℤ) : Prop where
  pos : 0 < m
  lt : m < 2 ^ (spec.mantissaBitsWithoutImplicit + 1)
  le : spec.minExponent ≤ e
  full : e = spec.minExponent ∨ 2 ^ spec.mantissaBitsWithoutImplicit ≤ m

variable {spec : Format} {m m' : ℕ} {e e' : ℤ} {x : ℚ}

/-- The bounds of an interval in quarters of the last place. The upper one is left out for an odd mantissa. -/
theorem covers_intervalOf (h : (intervalOf spec m e).Covers x) :
    (((intervalOf spec m e).low : ℚ) * 2 ^ (e - 2) ≤ x ∧ x ≤ (4 * m + 2) * 2 ^ (e - 2)) ∧
      (m % 2 = 1 → ((intervalOf spec m e).low : ℚ) * 2 ^ (e - 2) < x ∧ x < (4 * m + 2) * 2 ^ (e - 2)) := by
  have hhigh : ((intervalOf spec m e).high : ℚ) = 4 * m + 2 := by simp [intervalOf]
  unfold Interval.Covers at h
  rw [hhigh] at h
  have hscale : (intervalOf spec m e).scale = e - 2 := rfl
  rw [hscale] at h
  by_cases hodd : m % 2 = 1
  · have hclosed : (intervalOf spec m e).closed = false := by simp [intervalOf, hodd]
    rw [hclosed, if_neg Bool.false_ne_true] at h
    exact ⟨⟨h.1.le, h.2.le⟩, fun _ => h⟩
  · have hclosed : (intervalOf spec m e).closed = true := by
      have : m % 2 = 0 := by omega
      simp [intervalOf, this]
    rw [hclosed, if_pos rfl] at h
    exact ⟨h, fun ho => absurd ho hodd⟩

/-- The lower bound of an interval. Below the smallest full mantissa the gap is halved. -/
theorem low_intervalOf (spec : Format) (m : ℕ) (e : ℤ) :
    4 * m - 2 ≤ (intervalOf spec m e).low ∧
      (2 ^ spec.mantissaBitsWithoutImplicit ≤ m →
        4 * 2 ^ spec.mantissaBitsWithoutImplicit - 1 ≤ (intervalOf spec m e).low ∨
          4 * 2 ^ spec.mantissaBitsWithoutImplicit - 2 ≤ (intervalOf spec m e).low ∧ e ≤ spec.minExponent) := by
  simp only [intervalOf, Nat.one_shiftLeft]
  split
  · omega
  · next hne =>
    refine ⟨le_refl _, fun hm => ?_⟩
    rcases Nat.lt_or_eq_of_le hm with hlt | rfl
    · left
      omega
    · right
      refine ⟨le_refl _, ?_⟩
      by_contra he
      exact hne ⟨rfl, by omega⟩

/-- Two floats of which one is smaller have no decimal in common. -/
theorem not_covers_of_lt (hc : Canonical spec m e) (hc' : Canonical spec m' e')
    (hlt : e < e' ∨ e = e' ∧ m < m') (h : (intervalOf spec m e).Covers x) :
    ¬ (intervalOf spec m' e').Covers x := by
  intro h'
  obtain ⟨⟨-, hx⟩, hodd⟩ := covers_intervalOf h
  obtain ⟨⟨hx', -⟩, hodd'⟩ := covers_intervalOf h'
  obtain ⟨hlow, hlow'⟩ := low_intervalOf spec m' e'
  generalize (intervalOf spec m' e').low = l at hx' hodd' hlow hlow'
  -- in units of the finer scale, the lower end of the greater float is `l * 2 ^ k`
  obtain ⟨k, rfl⟩ : ∃ k : ℕ, e' = e + k := ⟨(e' - e).toNat, by omega⟩
  have hunit : (0 : ℚ) < 2 ^ (e - 2) := by positivity
  have hscale : (l : ℚ) * 2 ^ (e + k - 2) = ((l * 2 ^ k : ℕ) : ℚ) * 2 ^ (e - 2) := by
    have hsum : e + (k : ℤ) - 2 = k + (e - 2) := by ring
    rw [hsum, zpow_add₀ (by norm_num), zpow_natCast]
    push_cast
    ring
  have hhigh : (4 * (m : ℚ) + 2) * 2 ^ (e - 2) = ((4 * m + 2 : ℕ) : ℚ) * 2 ^ (e - 2) := by push_cast; ring
  rw [hscale] at hx' hodd'
  rw [hhigh] at hx hodd
  have hle : l * 2 ^ k ≤ 4 * m + 2 := by
    have := le_of_mul_le_mul_right (hx'.trans hx) hunit
    exact_mod_cast this
  have hstrict : m % 2 = 1 → l * 2 ^ k < 4 * m + 2 := fun ho => by
    have := lt_of_mul_lt_mul_right (lt_of_le_of_lt hx' (hodd ho).2) hunit.le
    exact_mod_cast this
  have hstrict' : m' % 2 = 1 → l * 2 ^ k < 4 * m + 2 := fun ho => by
    have := lt_of_mul_lt_mul_right (lt_of_lt_of_le (hodd' ho).1 hx) hunit.le
    exact_mod_cast this
  rcases hlt with he | ⟨he, hm⟩
  · -- the greater float has a full mantissa and at least twice the unit
    have hmin := hc.le
    have hk : 2 ≤ 2 ^ k := by
      have : 2 ^ 1 ≤ 2 ^ k := Nat.pow_le_pow_right (by decide) (by omega)
      simpa using this
    have hfull : 2 ^ spec.mantissaBitsWithoutImplicit ≤ m' := by
      rcases hc'.full with hmin' | hfull
      · omega
      · exact hfull
    have hl : 4 * 2 ^ spec.mantissaBitsWithoutImplicit - 1 ≤ l := by
      rcases hlow' hfull with hl | ⟨-, hmin'⟩
      · exact hl
      · omega
    have htwice : l * 2 ≤ l * 2 ^ k := Nat.mul_le_mul_left l hk
    have hmlt := hc.lt
    rw [pow_succ] at hmlt
    have hones : m % 2 = 1 := by omega
    have := hstrict hones
    omega
  · -- the two are neighbours at most, and then one of them is odd
    have hk : k = 0 := by omega
    subst hk
    rw [pow_zero, mul_one] at hle hstrict hstrict'
    rcases Nat.mod_two_eq_zero_or_one m with heven | hone
    · have hone' : m' % 2 = 1 := by omega
      have := hstrict' hone'
      omega
    · have := hstrict hone
      omega

/-- No number rounds to two floats. -/
theorem covers_unique (hc : Canonical spec m e) (hc' : Canonical spec m' e')
    (h : (intervalOf spec m e).Covers x) (h' : (intervalOf spec m' e').Covers x) : m = m' ∧ e = e' := by
  rcases lt_trichotomy e e' with he | he | he
  · exact absurd h' (not_covers_of_lt hc hc' (Or.inl he) h)
  · rcases lt_trichotomy m m' with hm | hm | hm
    · exact absurd h' (not_covers_of_lt hc hc' (Or.inr ⟨he, hm⟩) h)
    · exact ⟨hm, he⟩
    · exact absurd h (not_covers_of_lt hc' hc (Or.inr ⟨he.symm, hm⟩) h')
  · exact absurd h (not_covers_of_lt hc' hc (Or.inl he) h')

/-- The shortest decimal of a float is in its interval. -/
theorem shortest_covers_intervalOf (tie : Tie) (hm : 0 < m) :
    (intervalOf spec m e).Covers ((intervalOf spec m e).shortest tie).value := by
  refine Interval.shortest_covers tie ?_ ?_
  · simp only [intervalOf]
    split <;> omega
  · simp only [intervalOf]
    omega

theorem pos_of_covers (hm : 0 < m) (h : (intervalOf spec m e).Covers x) : 0 < x := by
  obtain ⟨⟨hx, -⟩, -⟩ := covers_intervalOf h
  have hlow : 0 < (intervalOf spec m e).low := by
    have := (low_intervalOf spec m e).1
    omega
  have : (0 : ℚ) < (intervalOf spec m e).low * 2 ^ (e - 2) := by positivity
  exact lt_of_lt_of_le this hx

end SurveyGateway.Number
