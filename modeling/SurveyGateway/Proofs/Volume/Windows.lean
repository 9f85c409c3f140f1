import SurveyGateway.Proofs.Number.Arithmetic
import SurveyGateway.Proofs.Results
import SurveyGateway.Volume.Attributes

/-!
# Windows stay small

A window is made up of as many samples as whole steps fit into its extents above and below the reference, and of the
reference itself. The steps are floats: the quotients are rounded, may be infinite or no numbers at all, and are
negative if the step is. A window is only made up if the total of the floats is within the limit, and the samples are
then counted by their whole parts.

## What is proved

* `toNat_stepsWithin_add_le` — the counts stay within the limit that the floats are checked against.
-/

namespace SurveyGateway

open Number

/-! ### The tolerance -/

theorem isFinite_snapTolerance : snapTolerance.isFinite = true := rfl

/-- The tolerance is the double-precision number next to a ten-thousandth. -/
theorem realOf_snapTolerance_eq : realOf snapTolerance.toModel.unpack = 7378697629483821 * 2 ^ (-66 : ℤ) := by
  have hunpack : snapTolerance.toModel.unpack = .finite .positive 7378697629483821 (-66) (by decide) := rfl
  rw [hunpack, realOf_positive]
  norm_num

/-- The tolerance is a part of a sample. -/
theorem realOf_snapTolerance :
    0 ≤ realOf snapTolerance.toModel.unpack ∧ realOf snapTolerance.toModel.unpack < 1 := by
  rw [realOf_snapTolerance_eq]
  norm_num

/-! ### Steps -/

namespace Volume

variable {extent step : Float}

/-- A quotient of an extent has the sign of the step. -/
theorem quotient_sign (hextent : 0 ≤ value extent) (h : (extent / step).isFinite = true) :
    (0 ≤ realOf step.toModel.unpack → 0 ≤ value (extent / step)) ∧
      (realOf step.toModel.unpack ≤ 0 → value (extent / step) ≤ 0) := by
  rcases finite_div h with hzero | ⟨hfinite, hstep, hne⟩
  · exact ⟨fun _ => hzero.ge, fun _ => hzero.le⟩
  · have hrounds := roundsTo_div hfinite hstep hne
    rw [value_of_isFinite hfinite] at hextent
    have hextent' : 0 ≤ realOf extent.toModel.unpack := EReal.coe_nonneg.mp hextent
    have hnumber := isNaN_of_isFinite isFinite_zero
    constructor
    · intro hpos
      rw [← value_zero]
      apply hrounds.le_value _ hnumber
      rw [value_zero]
      exact EReal.coe_nonneg.mpr (div_nonneg hextent' hpos)
    · intro hneg
      rw [← value_zero]
      apply hrounds.value_le _ hnumber
      rw [value_zero]
      exact EReal.coe_nonpos.mpr (div_nonpos_of_nonneg_of_nonpos hextent' hneg)

/-- What a finite number of steps is the whole part of. -/
theorem stepsWithin_spec (h : (stepsWithin extent step).isFinite = true) :
    (extent / step).isFinite = true ∧
      ∃ x : Float, x.isFinite = true ∧ RoundsTo (realOf (extent / step).toModel.unpack +
        realOf snapTolerance.toModel.unpack) x ∧
        value (stepsWithin extent step) = ((⌊realOf x.toModel.unpack⌋ : ℝ) : EReal) := by
  have hsum : (extent / step + snapTolerance).isFinite = true := isFinite_of_floor h
  obtain ⟨hquotient, htolerance⟩ := isFinite_of_add hsum
  exact ⟨hquotient, _, hsum, roundsTo_add hquotient htolerance, (value_floor hsum).2⟩

/-- With a step forward, the number of steps is a count. -/
theorem stepsWithin_nonneg (hextent : 0 ≤ value extent) (hstep : 0 ≤ realOf step.toModel.unpack)
    (h : (stepsWithin extent step).isFinite = true) : 0 ≤ value (stepsWithin extent step) := by
  obtain ⟨hquotient, x, hx, hrounds, hvalue⟩ := stepsWithin_spec h
  have hsign := (quotient_sign hextent hquotient).1 hstep
  rw [value_of_isFinite hquotient, EReal.coe_nonneg] at hsign
  have hsum : 0 ≤ value x := by
    rw [← value_zero]
    apply hrounds.le_value _ (isNaN_of_isFinite isFinite_zero)
    rw [value_zero]
    exact EReal.coe_nonneg.mpr (add_nonneg hsign realOf_snapTolerance.1)
  rw [value_of_isFinite hx, EReal.coe_nonneg] at hsum
  rw [hvalue, EReal.coe_nonneg]
  exact_mod_cast Int.floor_nonneg.mpr hsum

/-- With a step backward, no step fits. -/
theorem toNat_stepsWithin_eq_zero (hextent : 0 ≤ value extent) (hstep : realOf step.toModel.unpack ≤ 0)
    (h : (stepsWithin extent step).isFinite = true) : toNat (stepsWithin extent step) = 0 := by
  obtain ⟨hquotient, x, hx, hrounds, hvalue⟩ := stepsWithin_spec h
  have hsign := (quotient_sign hextent hquotient).2 hstep
  rw [value_of_isFinite hquotient, EReal.coe_nonpos] at hsign
  have hsum : value x ≤ value snapTolerance := by
    apply hrounds.value_le _ (isNaN_of_isFinite isFinite_snapTolerance)
    rw [value_of_isFinite isFinite_snapTolerance, EReal.coe_le_coe_iff]
    linarith
  rw [value_of_isFinite hx, value_of_isFinite isFinite_snapTolerance, EReal.coe_le_coe_iff] at hsum
  have hfloor : ⌊realOf x.toModel.unpack⌋ ≤ 0 := by
    rw [← Int.lt_add_one_iff, Int.floor_lt, zero_add, Int.cast_one]
    linarith [realOf_snapTolerance.2]
  apply toNat_eq_zero
  rw [hvalue, EReal.coe_nonpos]
  exact_mod_cast hfloor

/-! ### Totals -/

/-- A sum of two finite counts and one is not rounded to less than a count that it comes up to. -/
theorem natCast_le_value_total {a b : Float} {n : ℕ} (hn : n < 2 ^ 53) (ha : a.isFinite = true)
    (hb : b.isFinite = true) (hsum : (a + b).isFinite = true)
    (h : (n : ℝ) ≤ realOf a.toModel.unpack + realOf b.toModel.unpack) :
    ((n + 1 : ℕ) : ℝ) ≤ value (a + b + 1.0) := by
  obtain ⟨hfinite, hvalue⟩ := value_ofNat hn.le
  obtain ⟨hfinite', hvalue'⟩ := value_ofNat (n := n + 1) (by omega)
  have hle : value (ofNat n) ≤ value (a + b) := by
    apply (roundsTo_add ha hb).le_value _ (isNaN_of_isFinite hfinite)
    rw [hvalue]
    exact_mod_cast h
  rw [hvalue, value_of_isFinite hsum, EReal.coe_le_coe_iff] at hle
  rw [← hvalue']
  apply (roundsTo_add hsum isFinite_one).le_value _ (isNaN_of_isFinite hfinite')
  rw [hvalue', realOf_one, EReal.coe_le_coe_iff]
  push_cast
  linarith

/-- The steps above and below the reference, and the reference, are counted to no more than the limit that their sum
has been held to. -/
theorem toNat_stepsWithin_add_le {above below : Float} (habove : 0 ≤ value above) (hbelow : 0 ≤ value below)
    (hfinite : (stepsWithin above step + stepsWithin below step + 1.0).isFinite = true)
    (hlimit : ¬ ofNat windowLimit < stepsWithin above step + stepsWithin below step + 1.0) :
    toNat (stepsWithin above step) + toNat (stepsWithin below step) + 1 ≤ windowLimit := by
  obtain ⟨hsum, -⟩ := isFinite_of_add hfinite
  obtain ⟨ha, hb⟩ := isFinite_of_add hsum
  rcases le_total 0 (realOf step.toModel.unpack) with hstep | hstep
  · by_contra hmore
    have hcounts : windowLimit ≤ toNat (stepsWithin above step) + toNat (stepsWithin below step) := by omega
    have habove_le := toNat_le_value (stepsWithin_nonneg habove hstep ha)
    have hbelow_le := toNat_le_value (stepsWithin_nonneg hbelow hstep hb)
    rw [value_of_isFinite ha, EReal.coe_le_coe_iff] at habove_le
    rw [value_of_isFinite hb, EReal.coe_le_coe_iff] at hbelow_le
    have hcast : (windowLimit : ℝ) ≤ toNat (stepsWithin above step) + toNat (stepsWithin below step) := by
      exact_mod_cast hcounts
    have htotal := natCast_le_value_total (n := windowLimit) (by decide) ha hb hsum (by linarith)
    obtain ⟨hfinite', hvalue⟩ := value_ofNat (n := windowLimit) (by decide)
    apply hlimit
    rw [lt_iff, hvalue]
    refine ⟨isNaN_of_isFinite hfinite', isNaN_of_isFinite hfinite, lt_of_lt_of_le ?_ htotal⟩
    exact_mod_cast Nat.lt_succ_self windowLimit
  · rw [toNat_stepsWithin_eq_zero habove hstep ha, toNat_stepsWithin_eq_zero hbelow hstep hb]
    decide

theorem length_windowDepths (reference step : Float) (above below : ℕ) :
    (windowDepths reference step above below).length = above + below + 1 := by
  rw [windowDepths, List.length_map, List.length_range]

/-! ### Extents -/

/-- A window reaches outward from its reference. -/
structure WindowSpec.Reaches (window : WindowSpec) : Prop where
  above : 0 ≤ value window.above
  below : 0 ≤ value window.below

theorem value_of_checkExtent {name : String} {extent : Float32} (h : checkExtent name extent = .ok ()) :
    0 ≤ value (widen extent) := by
  unfold checkExtent at h
  split at h
  · next hextent =>
    have hzero : value32 0 = 0 := rfl
    rw [(value_widen extent).2, ← hzero]
    exact (le32_iff.mp hextent.1).2.2
  · cases h

/-- The windows along a surface reach as far as their extents, which have been checked. -/
theorem reaches_windowsAlong {above below stepsize : Float32} {extents : VerticalWindow}
    (h : VerticalWindow.make above below stepsize = .ok extents) (s : Surface) :
    ∀ row ∈ windowsAlong s extents, ∀ window, some window ∈ row → window.Reaches := by
  simp only [VerticalWindow.make, bind_eq_ok_iff] at h
  obtain ⟨_, habove, _, hbelow, _, -, h⟩ := h
  cases h
  intro row hrow window hwindow
  obtain ⟨values, -, rfl⟩ := List.mem_map.mp hrow
  obtain ⟨x, -, hx⟩ := List.mem_map.mp hwindow
  split at hx
  · cases hx
  · cases hx
    exact ⟨value_of_checkExtent habove, value_of_checkExtent hbelow⟩

/-- The windows between two surfaces reach to the other surface on one side, and nowhere on the other. -/
theorem reaches_windowsBetween (primary secondary : Surface) :
    ∀ row ∈ windowsBetween primary secondary, ∀ window, some window ∈ row → window.Reaches := by
  have hmaximum (x : Float) : 0 ≤ value (maximum x 0.0) := by
    rw [← value_zero]
    exact value_le_maximum_right (isNaN_of_isFinite isFinite_zero)
  intro row hrow window hwindow
  rw [windowsBetween, ← List.map_uncurry_zip_eq_zipWith] at hrow
  obtain ⟨⟨values, others⟩, -, rfl⟩ := List.mem_map.mp hrow
  rw [Function.uncurry_apply_pair, ← List.map_uncurry_zip_eq_zipWith] at hwindow
  obtain ⟨⟨x, other⟩, -, hx⟩ := List.mem_map.mp hwindow
  rw [Function.uncurry_apply_pair] at hx
  split at hx
  · cases hx
  · cases hx
    exact ⟨hmaximum _, hmaximum _⟩

end Volume

end SurveyGateway
