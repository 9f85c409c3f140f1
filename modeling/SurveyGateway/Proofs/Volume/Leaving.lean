import SurveyGateway.Proofs.Number.Special
import SurveyGateway.Proofs.Volume.Points

/-!
# Windows that leave the trace

A window around a point that lies beyond the ends of the sample axis leaves the trace, and the point gets the fill value.
The decision is made by comparing positions on the axis, which are rounded, with its ends and a tolerance. It is right
for every finite step. An infinite step is accepted too, though; then the window has no steps on either side, zero times
infinity is no number, and what is no number passes both comparisons. Such a window does not leave any trace, and has one
sample, which is no number.

## The model

`Axis.IsBeyond` says of a value that it lies at least one sample interval outside an axis. `Surface.points` are the
points of a surface, row by row, as its maps have them, and `Volume.Covers` says that a point has a trace.

## What is proved

* `position_below`, `position_above` — a depth beyond the axis has a position off its ends.
* `windowAt_of_beyond`, `windowAt_of_infinite` — the window there with a finite step, and that with an infinite one.
* `filled_iff` — so the points beyond the axis are fill with a finite step, and with an infinite one only by chance.
-/

namespace SurveyGateway

open Number SurveyGateway.Computation

/-! ### Beyond an axis -/

namespace Axis

variable {a : Axis} {x : Float32}

/-- The first annotation, as a real number. -/
noncomputable def start (a : Axis) : ℝ := realOf a.min.toModel.unpack

/-- The sample interval, as a real number. -/
noncomputable def interval (a : Axis) : ℝ := realOf a.stepsize.toModel.unpack

/-- The annotations start at a number and rise by a positive one. -/
structure IsRising (a : Axis) : Prop where
  min : a.min.isFinite = true
  stepsize : a.stepsize.isFinite = true
  pos : 0 < a.interval

/-- A value lies at least one sample interval below the first annotation or above the last one. -/
def IsBeyond (a : Axis) (x : Float32) : Prop :=
  x.isNaN = false ∧ (value32 x ≤ ((a.start - a.interval : ℝ) : EReal) ∨
    ((a.start + a.last * a.interval + a.interval : ℝ) : EReal) ≤ value32 x)

theorem realOf_min (ha : a.IsRising) : realOf (widen a.min).toModel.unpack = a.start := realOf_widen ha.min

theorem realOf_stepsize (ha : a.IsRising) : realOf (widen a.stepsize).toModel.unpack = a.interval :=
  realOf_widen ha.stepsize

/-- A depth an interval below the first sample is off the upper end of the trace. -/
theorem position_below (ha : a.IsRising) {depth : Float} (hdepth : depth.isNaN = false)
    (h : value depth ≤ ((a.start - a.interval : ℝ) : EReal)) : a.position depth < -snapTolerance := by
  have hinterval := representable_realOf (fits (widen a.stepsize))
  have hone := representable_intCast (n := -1) (by norm_num)
  rw [realOf_stepsize ha] at hinterval
  have hsize : |-a.interval| < 2 ^ (1024 : ℤ) := by
    rw [abs_neg]
    exact (abs_realOf_lt_of_fits32 (fits32 a.stepsize)).trans (zpow_lt_zpow_right₀ (by norm_num) (by norm_num))
  have hsub := adjacent_sub hdepth (isFinite_widen ha.min)
  rw [value_of_isFinite (isFinite_widen ha.min), realOf_min ha] at hsub
  have hbelow : value depth - (a.start : EReal) ≤ ((-a.interval : ℝ) : EReal) := by
    refine EReal.sub_le_of_le_add ?_
    rw [← EReal.coe_add]
    exact h.trans (EReal.coe_le_coe_iff.mpr (by linarith))
  have hdistance := (hsub.le_of_representable hinterval.neg hsize).2 hbelow
  have hdiv := adjacent_div hsub.isNaN (isFinite_widen ha.stepsize) (by rw [realOf_stepsize ha]; exact ha.pos)
  rw [value_of_isFinite (isFinite_widen ha.stepsize), realOf_stepsize ha] at hdiv
  have hquotient : value (depth - widen a.min) / (a.interval : EReal) ≤ (((-1 : ℤ) : ℝ) : EReal) := by
    rw [EReal.div_le_iff_le_mul (EReal.coe_pos.mpr ha.pos) (EReal.coe_ne_top _), ← EReal.coe_mul]
    exact hdistance.trans (EReal.coe_le_coe_iff.mpr (by push_cast; linarith))
  have hposition : value (a.position depth) ≤ (((-1 : ℤ) : ℝ) : EReal) :=
    (hdiv.le_of_representable hone.1 hone.2).2 hquotient
  obtain ⟨hfinite, htolerance⟩ : (-snapTolerance).isFinite = true ∧ (-1 : ℝ) < realOf (-snapTolerance).toModel.unpack := by
    have hunpack : (-snapTolerance).toModel.unpack = .finite .negative 7378697629483821 (-66) (by decide) := rfl
    refine ⟨rfl, ?_⟩
    rw [hunpack, realOf_negative]
    norm_num
  rw [lt_iff, value_of_isFinite hfinite]
  refine ⟨hdiv.isNaN, isNaN_of_isFinite hfinite, hposition.trans_lt (EReal.coe_lt_coe_iff.mpr ?_)⟩
  push_cast
  exact htolerance

/-- Quarters between indices are exact. -/
theorem representable_quarters {n : ℕ} (hn : n ≤ 2 ^ 53) :
    Representable .binary64 (n / 4 : ℝ) ∧ |(n / 4 : ℝ)| < 2 ^ (1024 : ℤ) := by
  have hmantissa : |(n : ℤ)| ≤ 2 ^ 53 := by
    rw [Nat.abs_cast]
    exact_mod_cast hn
  have hquarters : ((n : ℤ) : ℝ) * 2 ^ (-2 : ℤ) = n / 4 := by
    push_cast
    ring
  rw [← hquarters]
  exact representable_units hmantissa (by decide) (by norm_num)

/-- The last index, with the tolerance, is not rounded as far as halfway to the next one. -/
theorem value_last_add_tolerance (hlast : a.last ≤ 2 ^ 50) :
    (ofNat a.last + snapTolerance).isNaN = false ∧
      value (ofNat a.last + snapTolerance) < ((a.last + 1 / 2 : ℝ) : EReal) := by
  obtain ⟨hfinite, hvalue⟩ := value_ofNat (hlast.trans (by norm_num))
  have hsum := adjacent_add (isNaN_of_isFinite hfinite) isFinite_snapTolerance
  have htolerance : realOf snapTolerance.toModel.unpack ≤ 1 / 4 := by
    rw [realOf_snapTolerance_eq]
    norm_num
  obtain ⟨hquarter, hsize⟩ := representable_quarters (n := 4 * a.last + 1) (by omega)
  refine ⟨hsum.isNaN, lt_of_le_of_lt ((hsum.le_of_representable hquarter hsize).2 ?_) ?_⟩
  · rw [hvalue, value_of_isFinite isFinite_snapTolerance, ← EReal.coe_add, EReal.coe_le_coe_iff]
    push_cast
    linarith
  · rw [EReal.coe_lt_coe_iff]
    push_cast
    linarith

/-- A float just below the distance of a value that is an interval above the last sample: it is farther than half an
interval above, as long as there are not too many of them. -/
theorem exists_below_distance (ha : a.IsRising) (hlast : a.last ≤ 2 ^ 50) :
    ∃ low, Representable .binary64 low ∧ |low| < 2 ^ (1024 : ℤ) ∧ (a.last + 1 / 2 : ℝ) * a.interval ≤ low ∧
      low ≤ (a.last + 1) * a.interval := by
  have hpos := ha.pos
  have hcount : (1 : ℝ) ≤ a.last + 1 ∧ (a.last + 1 : ℝ) ≤ 2 ^ (51 : ℤ) := by
    constructor
    · exact le_add_of_nonneg_left (Nat.cast_nonneg _)
    · have : a.last + 1 ≤ 2 ^ 51 := by omega
      exact_mod_cast this
  have hgreatest : a.interval < 2 ^ (128 : ℤ) :=
    (le_abs_self _).trans_lt (abs_realOf_lt_of_fits32 (fits32 a.stepsize))
  have hleast : 2 ^ (-149 : ℤ) ≤ a.interval :=
    (le_abs_realOf_of_fits32 (fits32 a.stepsize) hpos.ne').trans_eq (abs_of_pos hpos)
  set distance := (a.last + 1 : ℝ) * a.interval with hdistance
  have hdistance_pos : 0 < distance := mul_pos (by linarith) hpos
  have hnormal : 2 ^ (-1022 : ℤ) ≤ |distance| := by
    rw [abs_of_pos hdistance_pos]
    calc (2 : ℝ) ^ (-1022 : ℤ) ≤ 2 ^ (-149 : ℤ) := zpow_le_zpow_right₀ (by norm_num) (by norm_num)
      _ ≤ 1 * a.interval := by rwa [one_mul]
      _ ≤ distance := mul_le_mul_of_nonneg_right hcount.1 hpos.le
  obtain ⟨low, high, hlow, -, hle, hge, hnear⟩ := exists_neighbours hnormal
  rw [abs_of_pos hdistance_pos] at hnear
  -- the last place of the distance is at most half an interval
  have hplace : distance * 2 ^ (-52 : ℤ) ≤ 1 / 2 * a.interval := by
    calc distance * 2 ^ (-52 : ℤ) = (a.last + 1) * 2 ^ (-52 : ℤ) * a.interval := by rw [hdistance]; ring
      _ ≤ 2 ^ (51 : ℤ) * 2 ^ (-52 : ℤ) * a.interval := by
        exact mul_le_mul_of_nonneg_right (mul_le_mul_of_nonneg_right hcount.2 (by positivity)) hpos.le
      _ = 1 / 2 * a.interval := by norm_num
  have hhalf : (a.last + 1 / 2 : ℝ) * a.interval ≤ low := by
    calc (a.last + 1 / 2 : ℝ) * a.interval = distance - 1 / 2 * a.interval := by rw [hdistance]; ring
      _ ≤ high - (high - low) := sub_le_sub hge (hnear.trans hplace)
      _ = low := sub_sub_cancel high low
  have hlow_lt : |low| < 2 ^ (1024 : ℤ) := by
    rw [abs_of_nonneg (le_trans (by positivity) hhalf)]
    calc low ≤ distance := hle
      _ ≤ 2 ^ (51 : ℤ) * 2 ^ (128 : ℤ) := mul_le_mul hcount.2 hgreatest.le hpos.le (by positivity)
      _ = 2 ^ (179 : ℤ) := by rw [← zpow_add₀ (by norm_num)]; norm_num
      _ < 2 ^ (1024 : ℤ) := zpow_lt_zpow_right₀ (by norm_num) (by norm_num)
  exact ⟨low, hlow, hlow_lt, hhalf, hle⟩

/-- A depth an interval above the last sample is at a great enough distance from the first one: rounding takes away less
than half an interval. -/
theorem half_le_value_distance (ha : a.IsRising) (hlast : a.last ≤ 2 ^ 50) {depth : Float}
    (hdepth : depth.isNaN = false) (h : ((a.start + a.last * a.interval + a.interval : ℝ) : EReal) ≤ value depth) :
    (depth - widen a.min).isNaN = false ∧
      (((a.last + 1 / 2 : ℝ) * a.interval : ℝ) : EReal) ≤ value (depth - widen a.min) := by
  obtain ⟨low, hlow, hlow_lt, hhalf, hle⟩ := exists_below_distance ha hlast
  have hsub := adjacent_sub hdepth (isFinite_widen ha.min)
  rw [value_of_isFinite (isFinite_widen ha.min), realOf_min ha] at hsub
  have habove : (low : EReal) ≤ value depth - (a.start : EReal) := by
    rw [EReal.le_sub_iff_add_le (Or.inl (EReal.coe_ne_bot _)) (Or.inl (EReal.coe_ne_top _)), ← EReal.coe_add]
    refine le_trans (EReal.coe_le_coe_iff.mpr ?_) h
    calc low + a.start ≤ (a.last + 1) * a.interval + a.start := by linarith
      _ = a.start + a.last * a.interval + a.interval := by ring
  have hlow_le := (hsub.le_of_representable hlow hlow_lt).1 habove
  exact ⟨hsub.isNaN, (EReal.coe_le_coe_iff.mpr hhalf).trans hlow_le⟩

/-- A depth an interval above the last sample is off the lower end of the trace. -/
theorem position_above (ha : a.IsRising) (hlast : a.last ≤ 2 ^ 50) {depth : Float} (hdepth : depth.isNaN = false)
    (h : ((a.start + a.last * a.interval + a.interval : ℝ) : EReal) ≤ value depth) :
    ofNat a.last + snapTolerance < a.position depth := by
  obtain ⟨hnumber, hdistance⟩ := half_le_value_distance ha hlast hdepth h
  obtain ⟨hend, hend_lt⟩ := value_last_add_tolerance hlast
  obtain ⟨hrepresentable, hsize⟩ := representable_quarters (n := 4 * a.last + 2) (by omega)
  have hhalfway : ((4 * a.last + 2 : ℕ) : ℝ) / 4 = a.last + 1 / 2 := by
    push_cast
    ring
  rw [hhalfway] at hrepresentable hsize
  have hdiv := adjacent_div hnumber (isFinite_widen ha.stepsize) (by rw [realOf_stepsize ha]; exact ha.pos)
  rw [value_of_isFinite (isFinite_widen ha.stepsize), realOf_stepsize ha] at hdiv
  have hquotient : ((a.last + 1 / 2 : ℝ) : EReal) ≤ value (depth - widen a.min) / (a.interval : EReal) := by
    rw [EReal.le_div_iff_mul_le (EReal.coe_pos.mpr ha.pos) (EReal.coe_ne_top _), ← EReal.coe_mul]
    exact hdistance
  rw [lt_iff]
  exact ⟨hend, hdiv.isNaN, hend_lt.trans_le ((hdiv.le_of_representable hrepresentable hsize).1 hquotient)⟩

end Axis

namespace Volume

variable {v : Volume} {t : Trace} {above below step reference : Float}

/-! ### Windows with a finite step -/

/-- A step goes forward by a number. -/
structure IsForward (step : Float) : Prop where
  finite : step.isFinite = true
  pos : 0 < realOf step.toModel.unpack

/-- As many steps as fit into an extent go forward, or nowhere. -/
theorem stepsWithin_mul_nonneg (hstep : IsForward step) {extent : Float} (hnumber : extent.isNaN = false)
    (hextent : 0 ≤ value extent) :
    (stepsWithin extent step * step).isNaN = false ∧ 0 ≤ value (stepsWithin extent step * step) := by
  have hstep_value : 0 ≤ value step := by
    rw [value_of_isFinite hstep.finite]
    exact EReal.coe_nonneg.mpr hstep.pos.le
  have hquotient := adjacent_div hnumber hstep.finite hstep.pos
  have hsum := adjacent_add hquotient.isNaN isFinite_snapTolerance
  have hsum_nonneg : 0 ≤ value (extent / step + snapTolerance) := by
    refine hsum.nonneg (add_nonneg (hquotient.nonneg (EReal.div_nonneg hextent hstep_value)) ?_)
    rw [value_of_isFinite isFinite_snapTolerance]
    exact EReal.coe_nonneg.mpr realOf_snapTolerance.1
  have hsteps : (stepsWithin extent step).isNaN = false := (floor_spec hsum.isNaN).1
  have hsteps_nonneg : 0 ≤ value (stepsWithin extent step) := by
    have hfloor := le_value_floor_iff hsum.isNaN 0
    rw [Int.cast_zero, EReal.coe_zero] at hfloor
    exact hfloor.mpr hsum_nonneg
  have hproduct := adjacent_mul hsteps hstep.finite hstep.pos
  exact ⟨hproduct.isNaN, hproduct.nonneg (mul_nonneg hsteps_nonneg hstep_value)⟩

theorem sampleAt_of_off {depth : Float} (h : t.scale.position depth < -snapTolerance ∨
    t.scale.last + snapTolerance < t.scale.position depth) : t.sampleAt depth = .ok none := by
  unfold Trace.sampleAt
  dsimp only
  rw [if_pos]
  rw [Bool.or_eq_true, decide_eq_true_eq, decide_eq_true_eq]
  exact h

/-- The samples at a depth, if the trace is whole, are there, or the depth is off its ends. -/
theorem exists_sampleAt (hv : v.Sampled) (ht : t.IsWhole v) (depth : Float) :
    ∃ sample, t.sampleAt depth = .ok sample :=
  (completes_sampleAt hv ht depth).exists_ok (failsWith_sampleAt t depth)

/-- A window leaves the trace where one of its ends is off it. -/
theorem windowAt_of_off (hv : v.Sampled) (ht : t.IsWhole v)
    (h : t.sampleAt (reference - stepsWithin above step * step) = .ok none ∨
      t.sampleAt (reference + stepsWithin below step * step) = .ok none) :
    t.windowAt reference above below step = .ok none := by
  unfold Trace.windowAt
  dsimp only
  rcases h with h | h
  · rw [h]
    rfl
  · obtain ⟨sample, hsample⟩ := exists_sampleAt hv ht (reference - stepsWithin above step * step)
    rw [hsample, h]
    cases sample <;> rfl

/-- A window around a reference beyond the axis leaves the trace. -/
theorem windowAt_of_beyond (hv : v.Sampled) (hlast : v.sample.last ≤ 2 ^ 50) (ha : v.sample.IsRising)
    (ht : t.IsWhole v) {x : Float32} (hx : v.sample.IsBeyond x) (hstep : IsForward step)
    (habove : above.isNaN = false ∧ 0 ≤ value above) (hbelow : below.isNaN = false ∧ 0 ≤ value below) :
    t.windowAt (widen x) above below step = .ok none := by
  obtain ⟨hnumber, hvalue⟩ := value_widen x
  rw [hx.1] at hnumber
  obtain ⟨hup, hup_nonneg⟩ := stepsWithin_mul_nonneg hstep habove.1 habove.2
  obtain ⟨hdown, hdown_nonneg⟩ := stepsWithin_mul_nonneg hstep hbelow.1 hbelow.2
  refine windowAt_of_off hv ht (hx.2.imp (fun hlow => ?_) fun hhigh => ?_)
  · -- the upper end of the window is even farther up
    rw [← hvalue] at hlow
    obtain ⟨hdepth, hle⟩ := value_sub_le_self hnumber hup hup_nonneg (ne_top_of_le_ne_top (EReal.coe_ne_top _) hlow)
    refine sampleAt_of_off (Or.inl ?_)
    rw [ht.scale]
    exact Axis.position_below ha hdepth (hle.trans hlow)
  · rw [← hvalue] at hhigh
    obtain ⟨hdepth, hle⟩ :=
      le_value_add_self hnumber hdown hdown_nonneg (ne_bot_of_le_ne_bot (EReal.coe_ne_bot _) hhigh)
    refine sampleAt_of_off (Or.inr ?_)
    rw [ht.scale]
    exact Axis.position_above ha hlast hdepth (hhigh.trans hle)

/-! ### Windows with an infinite step -/

/-- No infinite step fits into a finite extent. -/
theorem stepsWithin_infinite (hstep : step.toModel.unpack = .infinity .positive) {extent : Float}
    (hextent : extent.isFinite = true) : stepsWithin extent step = 0.0 := by
  unfold stepsWithin
  rcases div_infinity hextent hstep with h | h <;> rw [h] <;> decide

/-- No steps of an infinite length end at no depth at all. -/
theorem add_zero_mul_infinite (hstep : step.toModel.unpack = .infinity .positive) (reference : Float) :
    reference + 0.0 * step = notANumber ∧ reference - 0.0 * step = notANumber := by
  rw [zero_mul_infinity hstep]
  exact ⟨add_notANumber _, sub_notANumber _⟩

/-- No depth at all passes the comparisons with both ends, and has a sample that is no number. -/
theorem sampleAt_notANumber (hsize : 0 < t.samples.size) : t.sampleAt notANumber = .ok (some notANumber) := by
  have hposition : t.scale.position notANumber = notANumber := by
    unfold Scale.position
    rw [notANumber_sub, notANumber_div]
  have hfirst : Computation.ofSample t.samples[0]? = .ok t.samples[0] := by
    rw [Array.getElem?_eq_getElem hsize]
    rfl
  have hlt : Nat.min (0 + 1) (t.samples.size - 1) < t.samples.size :=
    (Nat.min_le_right _ _).trans_lt (Nat.sub_lt hsize Nat.one_pos)
  have hsecond : Computation.ofSample t.samples[Nat.min (0 + 1) (t.samples.size - 1)]? =
      .ok t.samples[Nat.min (0 + 1) (t.samples.size - 1)] := by
    rw [Array.getElem?_eq_getElem hlt]
    rfl
  unfold Trace.sampleAt
  dsimp only
  rw [hposition, clamp_notANumber, toNat_notANumber, if_neg, hfirst, hsecond]
  · show Except.ok (some (_ + _ * (notANumber - ofNat 0))) = _
    rw [notANumber_sub, mul_notANumber, add_notANumber]
  · simp only [decide_eq_false (not_notANumber_lt _), decide_eq_false (not_lt_notANumber _)]
    decide

/-- A window with an infinite step leaves no trace, and has one sample, which is no number. -/
theorem windowAt_of_infinite (hsize : 0 < t.samples.size) (hstep : step.toModel.unpack = .infinity .positive)
    (habove : above.isFinite = true) (hbelow : below.isFinite = true) (reference : Float) :
    t.windowAt reference above below step = .ok (some ([notANumber], 0)) := by
  have hsample := sampleAt_notANumber hsize
  obtain ⟨hdown, hup⟩ := add_zero_mul_infinite hstep reference
  have htotal : (!(0.0 + 0.0 + 1.0 : Float).isFinite || decide (ofNat windowLimit < 0.0 + 0.0 + 1.0)) = false := by
    decide
  have hzero : toNat 0.0 = 0 := toNat_eq_zero value_zero.le
  have hnowhere : ofNat 0 - ofNat 0 = 0.0 := by decide
  have hdepths : windowDepths reference step 0 0 = [notANumber] := by
    show [reference + (ofNat 0 - ofNat 0) * step] = _
    rw [hnowhere, hdown]
  unfold Trace.windowAt
  dsimp only
  rw [stepsWithin_infinite hstep habove, stepsWithin_infinite hstep hbelow, hdown, hup, hsample, htotal, hzero, hdepths,
    samplesAt_cons, hsample]
  rfl

/-! ### Accepted windows -/

/-- An extent that has been checked is finite, and goes outward. -/
theorem spec_of_checkExtent {name : String} {extent : Float32} (h : checkExtent name extent = .ok ()) :
    (widen extent).isFinite = true ∧ 0 ≤ value (widen extent) := by
  refine ⟨?_, value_of_checkExtent h⟩
  unfold checkExtent at h
  split at h
  · next hextent =>
    obtain ⟨hnumber, -, hlt⟩ := lt32_iff.mp hextent.2
    have hlimit : value32 Refusal.extentLimit < ⊤ :=
      (valueOf_of_isFinite (u := Refusal.extentLimit.toModel.unpack) rfl).trans_lt (EReal.coe_lt_top _)
    have hzero := (le32_iff.mp hextent.1).2.2
    rcases isFinite_or_infinity hnumber with hfinite | ⟨s, hs⟩
    · exact isFinite_widen hfinite
    · unfold value32 at hlt hzero
      rw [hs] at hlt hzero
      cases s
      · exact absurd hzero (not_le.mpr EReal.bot_lt_zero)
      · exact absurd (hlt.trans hlimit) (lt_irrefl _)
  · cases h

/-- A step that has been checked is a number, and not negative. -/
theorem spec_of_checkStepsize {stepsize : Float32} (h : checkStepsize stepsize = .ok ()) :
    stepsize.isNaN = false ∧ 0 ≤ value32 stepsize := by
  unfold checkStepsize at h
  split at h
  · cases h
  · next hstep =>
    rw [Bool.or_eq_true, decide_eq_true_eq, not_or, Bool.not_eq_true] at hstep
    refine ⟨hstep.1, not_lt.mp fun hlt => hstep.2 ?_⟩
    exact lt32_iff.mpr ⟨hstep.1, rfl, hlt⟩

/-- What a window is that has been accepted. -/
structure Accepted (extents : VerticalWindow) : Prop where
  above : (widen extents.above).isFinite = true ∧ 0 ≤ value (widen extents.above)
  below : (widen extents.below).isFinite = true ∧ 0 ≤ value (widen extents.below)
  stepsize : extents.stepsize.isNaN = false ∧ 0 ≤ value32 extents.stepsize

theorem accepted_of_make {above below stepsize : Float32} {extents : VerticalWindow}
    (h : VerticalWindow.make above below stepsize = .ok extents) : Accepted extents := by
  simp only [VerticalWindow.make, bind_eq_ok_iff] at h
  obtain ⟨_, habove, _, hbelow, _, hstepsize, h⟩ := h
  cases h
  exact ⟨spec_of_checkExtent habove, spec_of_checkExtent hbelow, spec_of_checkStepsize hstepsize⟩

/-- A step that is finite, or the sample interval in its place, goes forward. -/
theorem isForward_resampleStep (ha : v.sample.IsRising) {stepsize : Float32} (hfinite : stepsize.isFinite = true) :
    IsForward (v.resampleStep stepsize) := by
  unfold resampleStep
  split
  · next hpos =>
    have hpos := (lt32_iff.mp hpos).2.2
    rw [value32, value32, valueOf_of_isFinite (u := stepsize.toModel.unpack) hfinite] at hpos
    refine ⟨isFinite_widen hfinite, ?_⟩
    rw [realOf_widen hfinite]
    exact EReal.coe_pos.mp hpos
  · exact ⟨isFinite_widen ha.stepsize, (Axis.realOf_stepsize ha).symm ▸ ha.pos⟩

/-- A step that is not finite is an infinite one, which is kept. -/
theorem resampleStep_infinite {extents : VerticalWindow} (h : Accepted extents)
    (hinfinite : extents.stepsize.isFinite = false) :
    (v.resampleStep extents.stepsize).toModel.unpack = .infinity .positive := by
  obtain ⟨hnumber, hnonneg⟩ := h.stepsize
  obtain ⟨s, hs⟩ : ∃ s, extents.stepsize.toModel.unpack = .infinity s := by
    rcases isFinite_or_infinity hnumber with hfinite | hinfinity
    · exact absurd (hinfinite.symm.trans hfinite) Bool.false_ne_true
    · exact hinfinity
  have hvalue : value32 extents.stepsize = valueOf (.infinity s) := congrArg valueOf hs
  obtain rfl : s = .positive := by
    rw [hvalue] at hnonneg
    cases s
    · exact absurd hnonneg (not_le.mpr EReal.bot_lt_zero)
    · rfl
  have hpos : 0.0 < extents.stepsize := lt32_iff.mpr ⟨rfl, hnumber, hvalue ▸ EReal.zero_lt_top⟩
  unfold resampleStep
  rw [if_pos hpos]
  exact unpack_widen_infinity hs

end Volume

/-! ### Points of a surface -/

/-- The points of a surface, row by row: the row and the column, and the value there. -/
def Surface.points (s : Surface) : List ((ℕ × ℕ) × Float32) :=
  s.values.zipIdx.flatMap fun row => row.1.zipIdx.map fun value => ((row.2, value.2), value.1)

namespace Volume

variable {v : Volume} {s : Surface} {extents : VerticalWindow} {interpolation : Interpolation}

/-- What is found along a surface is found point by point. -/
theorem found_points {step : Float} {found : List (List Found)}
    (h : v.gridWindows s (windowsAlong s extents) step interpolation = .ok found) :
    List.Forall₂ (fun point f =>
        v.cellWindow s point.1.1 point.1.2 step interpolation (windowAlong s extents point.2) = .ok f)
      s.points found.flatten := by
  have hwindows : windowsAlong s extents = s.values.map fun row => row.map (windowAlong s extents) := rfl
  refine mapM_eq_ok_iff.mp ?_
  rw [Surface.points, mapM_flatMap, map_eq_ok_iff]
  refine ⟨found, ?_, rfl⟩
  rw [← h]
  unfold gridWindows
  rw [hwindows, List.zipIdx_map, List.mapM_map]
  congr 1
  funext row
  show _ = (row.1.map (windowAlong s extents)).zipIdx.mapM fun cell => _
  rw [List.zipIdx_map, List.mapM_map, List.mapM_map]
  rfl

/-- A point of a surface has a trace. -/
def Covers (v : Volume) (s : Surface) (place : ℕ × ℕ) (interpolation : Interpolation) : Prop :=
  ∃ index trace, v.cdpToIndex (s.toWorld place.1 place.2).1 (s.toWorld place.1 place.2).2 = .ok index ∧
    v.traceAt index.1 index.2 interpolation = .ok (some trace)

/-- The window at a point is that on its trace, if it has one. -/
theorem pointWindow_cases (hv : v.Sampled) {place : ℕ × ℕ} {window : WindowSpec} {step : Float} {f : Found}
    (h : v.pointWindow s place.1 place.2 window step interpolation = .ok f) :
    ¬ v.Covers s place interpolation ∧ f = none ∨
      ∃ t : Trace, t.IsWhole v ∧ v.Covers s place interpolation ∧
        t.windowAt window.reference window.above window.below step = .ok f := by
  unfold pointWindow at h
  simp only [bind_eq_ok_iff] at h
  obtain ⟨index, hindex, trace, htrace, h⟩ := h
  cases trace with
  | none =>
    refine Or.inl ⟨fun ⟨index', trace', hindex', htrace'⟩ => ?_, (Except.ok.inj h).symm⟩
    cases hindex.symm.trans hindex'
    cases htrace.symm.trans htrace'
  | some samples =>
    have hlength := (meets_traceAt hv _ _ interpolation).of_eq_ok htrace samples rfl
    exact Or.inr ⟨⟨v.sample.scale, samples.toArray⟩, ⟨rfl, hlength⟩, ⟨index, samples, hindex, htrace⟩, h⟩

/-- An infinite step is taken on the trace of a point that has data. -/
def IsExposed (v : Volume) (s : Surface) (extents : VerticalWindow) (interpolation : Interpolation)
    (point : (ℕ × ℕ) × Float32) : Prop :=
  extents.stepsize.isFinite = false ∧ s.isFill point.2 = false ∧ v.Covers s point.1 interpolation

/-- What is found at a point beyond the axis: a single sample that is no number if an infinite step is taken there, and
nothing else. -/
theorem found_beyond (hv : v.Sampled) (hlast : v.sample.last ≤ 2 ^ 50) (ha : v.sample.IsRising)
    (hextents : Accepted extents) {point : (ℕ × ℕ) × Float32} (hx : v.sample.IsBeyond point.2) {f : Found}
    (h : v.cellWindow s point.1.1 point.1.2 (v.resampleStep extents.stepsize) interpolation
      (windowAlong s extents point.2) = .ok f) :
    v.IsExposed s extents interpolation point ∧ f = some ([notANumber], 0) ∨
      ¬ v.IsExposed s extents interpolation point ∧ f = none := by
  cases hfill : s.isFill point.2 with
  | true =>
    rw [windowAlong, if_pos hfill] at h
    refine Or.inr ⟨fun hexposed => ?_, (Except.ok.inj h).symm⟩
    exact Bool.false_ne_true (hexposed.2.1.symm.trans hfill)
  | false =>
    rw [windowAlong, if_neg (Bool.eq_false_iff.mp hfill)] at h
    rcases pointWindow_cases hv h with ⟨hnone, rfl⟩ | ⟨t, ht, hcovers, hwindow⟩
    · exact Or.inr ⟨fun hexposed => hnone hexposed.2.2, rfl⟩
    have habove := hextents.above
    have hbelow := hextents.below
    cases hstep : extents.stepsize.isFinite with
    | true =>
      have hnone := windowAt_of_beyond hv hlast ha ht hx (isForward_resampleStep ha hstep)
        ⟨isNaN_of_isFinite habove.1, habove.2⟩ ⟨isNaN_of_isFinite hbelow.1, hbelow.2⟩
      refine Or.inr ⟨fun hexposed => ?_, Except.ok.inj (hwindow.symm.trans hnone)⟩
      exact Bool.false_ne_true (hexposed.1.symm.trans hstep)
    | false =>
      have hsize : 0 < t.samples.size := ht.size ▸ hv.samples .sample
      have hsingle := windowAt_of_infinite hsize (resampleStep_infinite (v := v) hextents hstep) habove.1 hbelow.1 (widen point.2)
      exact Or.inl ⟨⟨hstep, hfill, hcovers⟩, Except.ok.inj (hwindow.symm.trans hsingle)⟩

/-- **A window that leaves the trace is fill, if the step is finite.** Take a volume with a sample along each axis that
there is memory for, whose sample axis starts at a number and rises by a positive one, any surface, an accepted window,
attributes, and maps of them. The points of the surface that lie at least one sample interval outside the sample axis
have the fill value in every map exactly if the step is finite, or there is no such point with data and with a trace for
which an attribute of a single sample that is no number differs from the fill value. -/
theorem filled_iff (hsamples : ∀ d, 0 < (v.axis d).samples) (hbytes : v.sizeInBytes ≤ 2 ^ 52)
    (ha : v.sample.IsRising) {above below stepsize : Float32}
    (hextents : VerticalWindow.make above below stepsize = .ok extents) {attributes : List Attribute}
    {maps : List (List Float32)} (hmaps : v.attributesAlong s extents attributes interpolation = .ok maps) :
    (∀ map ∈ maps, List.Forall₂ (fun point y => v.sample.IsBeyond point.2 → y = s.fillValue) s.points map) ↔
      extents.stepsize.isFinite = true ∨
        ∀ point ∈ s.points, v.sample.IsBeyond point.2 → s.isFill point.2 = false →
          v.Covers s point.1 interpolation → ∀ a ∈ attributes, Statistics.compute a [notANumber] 0 = s.fillValue := by
  have hv : v.Sampled := sampled_of_sizeInBytes hsamples (hbytes.trans (by norm_num))
  have hlast : v.sample.last ≤ 2 ^ 50 := last_le_of_sizeInBytes hsamples hbytes .sample
  obtain ⟨found, hfound, rfl⟩ := attributesAlong_eq_ok_iff.mp hmaps
  have hpoints := found_points hfound
  -- each map point by point
  have hmap (a : Attribute) :
      List.Forall₂ (fun point y => v.sample.IsBeyond point.2 → y = s.fillValue) s.points
          (attributeMap s.fillValue found a) ↔
        ∀ point ∈ s.points, v.sample.IsBeyond point.2 → v.IsExposed s extents interpolation point →
          Statistics.compute a [notANumber] 0 = s.fillValue := by
    rw [attributeMap, List.forall₂_map_right_iff]
    refine forall₂_iff_forall_mem hpoints fun point f hf => forall_congr' fun hx => ?_
    rcases found_beyond hv hlast ha (accepted_of_make hextents) hx hf with ⟨hexposed, rfl⟩ | ⟨hexposed, rfl⟩
    · exact ⟨fun h _ => h, fun h => h hexposed⟩
    · exact iff_of_true rfl fun h => absurd h hexposed
  rw [List.forall_mem_map]
  simp only [hmap]
  cases hstep : extents.stepsize.isFinite with
  | true =>
    refine iff_of_true (fun a _ point _ _ hexposed => ?_) (Or.inl rfl)
    exact absurd (hexposed.1.symm.trans hstep) Bool.false_ne_true
  | false =>
    constructor
    · exact fun h => Or.inr fun point hpoint hx hfill hcovers a hattribute =>
        h a hattribute point hpoint hx ⟨hstep, hfill, hcovers⟩
    · rintro (h | h)
      · cases h
      · exact fun a hattribute point hpoint hx hexposed => h point hpoint hx hexposed.2.1 hexposed.2.2 a hattribute

theorem start_interval_wellKnown : wellKnown.sample.start = 4 ∧ wellKnown.sample.interval = 4 := by
  have hunpack : (4 : Float32).toModel.unpack = .finite .positive (2 ^ 23) (-21) (by decide) := rfl
  have hfour : realOf (4 : Float32).toModel.unpack = 4 := by
    rw [hunpack, realOf_positive]
    norm_num
  exact ⟨hfour, hfour⟩

theorem isRising_wellKnown : wellKnown.sample.IsRising :=
  ⟨rfl, rfl, start_interval_wellKnown.2.symm ▸ four_pos⟩

/-- The samples are annotated with 4 to 16. -/
theorem isBeyond_wellKnown : wellKnown.sample.IsBeyond 100 ∧ wellKnown.sample.IsBeyond 0 := by
  have hlast : wellKnown.sample.last = 3 := rfl
  have hhundred := value32_of_unpack (x := 100) (m := 13107200) (e := -17) (n := 100) (by decide) rfl (by norm_num)
  have hzero : value32 0 = ((0 : ℝ) : EReal) := rfl
  unfold Axis.IsBeyond
  rw [start_interval_wellKnown.1, start_interval_wellKnown.2, hlast, hhundred.2, hzero]
  refine ⟨⟨rfl, Or.inr ?_⟩, rfl, Or.inl ?_⟩ <;> exact EReal.coe_le_coe_iff.mpr (by norm_num)

/-- A surface with one point below and one above the samples. -/
def Sample.outside : Surface := ⟨[[100, 0]], 2, 0, 1, 1, 0, -999.25⟩

/-- Both of its points are fill. -/
theorem filled_iff_sample :
    wellKnown.attributesAlong Sample.outside Sample.extents [.mean] .nearest = .ok [[-999.25, -999.25]] := by
  have hbytes : wellKnown.sizeInBytes ≤ 2 ^ 52 := by decide
  obtain ⟨maps, hmaps⟩ :=
    exists_attributesAlong sampled_wellKnown not_degenerate_wellKnown make_extents not_tooLarge_extents Sample.outside
      [.mean] .nearest
  have hfill := (filled_iff sampled_wellKnown.samples hbytes isRising_wellKnown make_extents hmaps).mpr (Or.inl rfl)
  obtain ⟨found, -, rfl⟩ := attributesAlong_eq_ok_iff.mp hmaps
  have hpoints : Sample.outside.points = [((0, 0), 100), ((0, 1), 0)] := rfl
  obtain ⟨first, rest, hfirst, hrest, hmap⟩ := List.forall₂_cons_left_iff.mp (hpoints ▸ hfill _ List.mem_cons_self)
  obtain ⟨second, none, hsecond, hnone, rfl⟩ := List.forall₂_cons_left_iff.mp hrest
  obtain rfl := List.forall₂_nil_left_iff.mp hnone
  rw [hmaps, List.map_singleton, hmap, hfirst isBeyond_wellKnown.1, hsecond isBeyond_wellKnown.2]
  rfl

/-- A window with an infinite step is accepted. It does not leave a trace of the small survey around a value far beyond
its samples, and the mean there is not the fill value. -/
theorem beyond_with_infinite_step :
    ∃ extents samples, VerticalWindow.make 4 4 (1 / 0) = .ok extents ∧ wellKnown.sample.IsBeyond 100 ∧
      wellKnown.traceAt 0 0 .nearest = .ok (some samples) ∧
      Trace.windowAt ⟨wellKnown.sample.scale, samples.toArray⟩ (widen 100) (widen extents.above) (widen extents.below)
        (wellKnown.resampleStep extents.stepsize) = .ok (some ([notANumber], 0)) ∧
      Statistics.compute .mean [notANumber] 0 ≠ -999.25 := by
  have hextents : VerticalWindow.make 4 4 (1 / 0) = .ok ⟨4, 4, 1 / 0⟩ := by decide
  have haccepted := accepted_of_make hextents
  have htrace : wellKnown.traceAt 0 0 .nearest = .ok (some [100, 101, 102, 103]) := by decide +kernel
  have hstep := resampleStep_infinite (v := wellKnown) haccepted rfl
  exact ⟨_, _, hextents, isBeyond_wellKnown.1, htrace,
    windowAt_of_infinite (by decide) hstep haccepted.above.1 haccepted.below.1 _, by decide⟩

end Volume

end SurveyGateway
