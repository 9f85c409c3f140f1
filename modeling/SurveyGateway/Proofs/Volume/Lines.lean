import SurveyGateway.Proofs.Number.Precision
import SurveyGateway.Proofs.Volume.Planes

/-!
# Lines by annotation

An annotated line is looked up by its position on the axis, which is computed in floats, and snapped to the nearest index
if it is within a tolerance of it. The tolerance is a ten-thousandth of a sample, that is, of a step of the axis. On an
axis of integers this is less than one as long as the step is below ten thousand: then exactly the lines of the axis are
found. This module shows what is found in general, for the lines of a request against the steps of an axis.

## The model

`Axis.IsIntegral` says of an axis that it starts at an integer and goes on in steps of a positive one, with annotations
that 32-bit floats have room for. `Dimension.byIndex` is the direction that names the lines of a dimension by index.

## What is proved

* `IsIntegral.position_spec` — the position of a line is off by less than one part in `2 ^ 52`.
* `RoundsTo.abs_lt_snapTolerance` — a difference that clears the tolerance is decided by its exact value.
* `le_of_near`, `le_of_far` — no rounding takes the distance of an integer from a line across the tolerance.
* `lines_snapped` — so what is closer to a line than the tolerance is taken for it, and what is farther from all is not.
-/

namespace SurveyGateway

open Number SurveyGateway.Computation

/-! ### The tolerance -/

/-- A difference that clears the tolerance is decided by its exact value. -/
theorem Number.RoundsTo.abs_lt_snapTolerance {x : ℝ} {y : Float} (h : RoundsTo x y) (hx : |x| ≤ 1) :
    (|x| ≤ 1 / 10000 - 2 ^ (-66 : ℤ) → y.abs < snapTolerance) ∧
      (y.abs < snapTolerance → |x| < 1 / 10000 + 2 ^ (-66 : ℤ)) := by
  have hone := representable_intCast (n := 1) (by norm_num)
  have hminus := representable_intCast (n := -1) (by norm_num)
  obtain ⟨hle, hge⟩ := abs_le.mp hx
  obtain ⟨hfinite, r, hvalue, hr, -, -⟩ := h.exists_between hminus.1 hone.1 hminus.2 hone.2
    (by push_cast; exact hle) (by push_cast; exact hge)
  rw [abs_lt_iff_of_isFinite hfinite isFinite_snapTolerance, hr, realOf_snapTolerance_eq]
  -- what is rounded stays on its side of every representable number
  have hside {m : ℤ} (hm : |m| ≤ 2 ^ 53) :
      ((m : ℝ) * 2 ^ (-66 : ℤ) ≤ x → (m : ℝ) * 2 ^ (-66 : ℤ) ≤ r) ∧
        (x ≤ (m : ℝ) * 2 ^ (-66 : ℤ) → r ≤ (m : ℝ) * 2 ^ (-66 : ℤ)) := by
    obtain ⟨hunits, hsize⟩ := representable_units (e := -66) hm (by decide) (by norm_num)
    have hside := h.le_of_representable hunits hsize
    rw [hvalue, EReal.coe_le_coe_iff, EReal.coe_le_coe_iff] at hside
    exact hside
  constructor
  · intro hsmall
    obtain ⟨hlow, hhigh⟩ := abs_le.mp hsmall
    have habove := (hside (m := -7378697629483820) (by norm_num)).1 (le_trans (by norm_num) hlow)
    have hbelow := (hside (m := 7378697629483820) (by norm_num)).2 (hhigh.trans (by norm_num))
    refine abs_lt.mpr ⟨lt_of_lt_of_le (by norm_num) habove, lt_of_le_of_lt hbelow (by norm_num)⟩
  · intro hclose
    obtain ⟨hlow, hhigh⟩ := abs_lt.mp hclose
    by_contra hfar
    rcases le_abs.mp (not_lt.mp hfar) with hx | hx
    · have := (hside (m := 7378697629483821) (by norm_num)).1 (le_trans (by norm_num) hx)
      push_cast at this
      linarith
    · have := (hside (m := -7378697629483821) (by norm_num)).2 (le_trans (le_neg.mpr hx) (by norm_num))
      push_cast at this
      linarith

/-! ### Distances from a line -/

section Distance

variable {s d k : ℤ} {p : ℝ}

/-- A position is the quotient of a distance and a step, rounded. Taken times the step, its distance from an index is
that of the integers, up to less than a millionth. -/
theorem abs_scaled_distance_le (hs : 0 < s) (hd : |d| ≤ 2 ^ 32)
    (hp : |p - (d : ℝ) / s| ≤ |(d : ℝ) / s| * 2 ^ (-52 : ℤ)) (k : ℤ) :
    |(|p - k| * s - (|d - k * s| : ℤ))| ≤ 2 ^ (-20 : ℤ) := by
  have hs' : (0 : ℝ) < s := by exact_mod_cast hs
  have hd' : |(d : ℝ)| ≤ 2 ^ 32 := by exact_mod_cast hd
  have hexact : |(d : ℝ) / s - k| * s = (|d - k * s| : ℤ) := by
    push_cast
    rw [← abs_of_pos hs', ← abs_mul, abs_of_pos hs', sub_mul, div_mul_cancel₀ _ hs'.ne']
  calc |(|p - k| * s - (|d - k * s| : ℤ))| = |(|p - k| - |(d : ℝ) / s - k|)| * s := by
        rw [← hexact, ← sub_mul, abs_mul, abs_of_pos hs']
    _ ≤ |p - k - ((d : ℝ) / s - k)| * s := mul_le_mul_of_nonneg_right (abs_abs_sub_abs_le _ _) hs'.le
    _ = |p - (d : ℝ) / s| * s := by rw [sub_sub_sub_cancel_right]
    _ ≤ |(d : ℝ) / s| * 2 ^ (-52 : ℤ) * s := mul_le_mul_of_nonneg_right hp hs'.le
    _ = |(d : ℝ)| * 2 ^ (-52 : ℤ) := by
      rw [abs_div, abs_of_pos hs']
      field_simp
    _ ≤ 2 ^ 32 * 2 ^ (-52 : ℤ) := mul_le_mul_of_nonneg_right hd' (by positivity)
    _ = 2 ^ (-20 : ℤ) := by norm_num

variable (hs : 0 < s) (hd : |d| ≤ 2 ^ 32) (hk : k = 0 ∨ s ≤ 2 ^ 25)
  (hp : |p - (d : ℝ) / s| ≤ |(d : ℝ) / s| * 2 ^ (-52 : ℤ))

include hs hd hk hp

/-- What is closer to a line than a ten-thousandth of a step is so by a whole unit, and is found within the tolerance. -/
theorem le_of_near (h : 10000 * |d - k * s| < s) : |p - k| ≤ 1 / 10000 - 2 ^ (-66 : ℤ) := by
  have hs' : (0 : ℝ) < s := by exact_mod_cast hs
  have hscaled := (abs_le.mp (abs_scaled_distance_le hs hd hp k)).2
  refine le_of_mul_le_mul_right ?_ hs'
  rcases le_or_gt s (2 ^ 50) with hsmall | hgreat
  · have hunits : (10000 : ℝ) * (|d - k * s| : ℤ) ≤ s - 1 := by exact_mod_cast Int.le_sub_one_of_lt h
    have hsmall : (s : ℝ) ≤ 2 ^ 50 := by exact_mod_cast hsmall
    generalize |d - k * s| = n at hunits hscaled
    norm_num at hscaled hsmall ⊢
    linarith
  · -- so great a step leaves room for one line only, and the position is close to zero
    obtain rfl : k = 0 := hk.resolve_right (by omega)
    have hdistance : ((|d - 0 * s| : ℤ) : ℝ) ≤ 2 ^ 32 := by
      rw [zero_mul, sub_zero]
      exact_mod_cast hd
    have hgreat : (2 : ℝ) ^ 50 < s := by exact_mod_cast hgreat
    norm_num at hscaled hgreat hdistance ⊢
    linarith

/-- What is farther from a line than a ten-thousandth of a step is so by a whole unit, and is not found within the
tolerance. -/
theorem le_of_far (h : s < 10000 * |d - k * s|) : 1 / 10000 + 2 ^ (-66 : ℤ) ≤ |p - k| := by
  have hs' : (0 : ℝ) < s := by exact_mod_cast hs
  have hscaled := (abs_le.mp (abs_scaled_distance_le hs hd hp k)).1
  refine le_of_mul_le_mul_right ?_ hs'
  rcases le_or_gt s (2 ^ 50) with hsmall | hgreat
  · have hunits : (s : ℝ) + 1 ≤ 10000 * (|d - k * s| : ℤ) := by exact_mod_cast Int.add_one_le_of_lt h
    have hsmall : (s : ℝ) ≤ 2 ^ 50 := by exact_mod_cast hsmall
    generalize |d - k * s| = n at hunits hscaled
    norm_num at hscaled hsmall ⊢
    linarith
  · obtain rfl : k = 0 := hk.resolve_right (by omega)
    rw [zero_mul, sub_zero] at h
    omega

end Distance

/-! ### Axes of integers -/

/-- An axis starts at an integer and goes on in steps of a positive one. Its annotations are integers that 32-bit floats
have room for. -/
structure Axis.IsIntegral (a : Axis) (first step : ℤ) : Prop where
  min : a.min.isFinite = true ∧ value32 a.min = ((first : ℝ) : EReal)
  stepsize : a.stepsize.isFinite = true ∧ value32 a.stepsize = ((step : ℝ) : EReal)
  step_pos : 0 < step
  annotations : ∀ k < a.samples, |first + (k : ℤ) * step| ≤ 2 ^ 24

namespace Axis

variable {a : Axis} {first step line : ℤ}

theorem IsIntegral.abs_first_le (ha : a.IsIntegral first step) (hsamples : 0 < a.samples) : |first| ≤ 2 ^ 24 := by
  simpa using ha.annotations 0 hsamples

/-- With a second line, the step is not great. -/
theorem IsIntegral.step_le (ha : a.IsIntegral first step) (hsamples : 0 < a.samples) {k : ℕ} (hk : k < a.samples) :
    (k : ℤ) = 0 ∨ step ≤ 2 ^ 25 := by
  rcases Nat.eq_zero_or_pos k with rfl | hpos
  · exact Or.inl rfl
  · right
    have hfirst := abs_le.mp (ha.abs_first_le hsamples)
    have hsecond := abs_le.mp (ha.annotations 1 (by omega))
    push_cast at hsecond
    omega

/-- The position of a line is the quotient of its distance from the first one and the step, off by less than one part
in `2 ^ 52`. -/
theorem IsIntegral.position_spec (ha : a.IsIntegral first step) (hsamples : 0 < a.samples) (hline : |line| ≤ 2 ^ 31) :
    |line - first| ≤ 2 ^ 32 ∧ (a.position (ofInt line)).isFinite = true ∧
      |realOf (a.position (ofInt line)).toModel.unpack - ((line - first : ℤ) : ℝ) / step| ≤
        |((line - first : ℤ) : ℝ) / step| * 2 ^ (-52 : ℤ) := by
  have hfirst := abs_le.mp (ha.abs_first_le hsamples)
  have hline' := abs_le.mp hline
  have hdistance : |line - first| ≤ 2 ^ 32 := abs_le.mpr ⟨by omega, by omega⟩
  have hdistance' : |((line - first : ℤ) : ℝ)| ≤ 2 ^ 32 := by exact_mod_cast hdistance
  have hstep : (1 : ℝ) ≤ step := by exact_mod_cast ha.step_pos
  obtain ⟨hfinite, hvalue⟩ := value_ofInt (n := line) (by omega)
  -- the distance is an integer, and exact
  obtain ⟨hrepresentable, hlt⟩ := representable_intCast (n := line - first) (by omega)
  have hsub := roundsTo_sub hfinite (isFinite_widen ha.min.1)
  rw [realOf_of_value_eq hfinite hvalue, realOf_widen_eq ha.min, ← Int.cast_sub] at hsub
  obtain ⟨hfinite', hvalue'⟩ := hsub.value_eq hrepresentable hlt
  have hdiv := roundsTo_div hfinite' (isFinite_widen ha.stepsize.1) (by rw [realOf_widen_eq ha.stepsize]; linarith)
  rw [realOf_of_value_eq hfinite' hvalue', realOf_widen_eq ha.stepsize] at hdiv
  refine ⟨hdistance, hdiv.abs_sub_le ?_ ?_⟩
  · rcases eq_or_ne (line - first) 0 with hzero | hne
    · rw [hzero]
      simp
    · right
      have hunit : (1 : ℝ) ≤ |((line - first : ℤ) : ℝ)| := by exact_mod_cast Int.one_le_abs hne
      have hgreatest : (step : ℝ) ≤ 2 ^ (128 : ℤ) := by
        rw [← realOf_widen_eq ha.stepsize, realOf_widen ha.stepsize.1]
        exact (le_abs_self _).trans (abs_realOf_lt_of_fits32 (fits32 _)).le
      rw [abs_div, abs_of_pos (by linarith : (0 : ℝ) < step), le_div_iff₀ (by linarith)]
      calc (2 : ℝ) ^ (-1022 : ℤ) * step ≤ 2 ^ (-1022 : ℤ) * 2 ^ (128 : ℤ) :=
            mul_le_mul_of_nonneg_left hgreatest (by positivity)
        _ = 2 ^ (-894 : ℤ) := by rw [← zpow_add₀ (by norm_num)]; norm_num
        _ ≤ 1 := zpow_le_one_of_nonpos₀ (by norm_num) (by norm_num)
        _ ≤ |((line - first : ℤ) : ℝ)| := hunit
  · rw [abs_div, abs_of_pos (by linarith : (0 : ℝ) < step)]
    calc |((line - first : ℤ) : ℝ)| / step ≤ |((line - first : ℤ) : ℝ)| := div_le_self (abs_nonneg _) hstep
      _ ≤ 2 ^ (32 : ℤ) := by exact_mod_cast hdistance'
      _ < 2 ^ (1023 : ℤ) := zpow_lt_zpow_right₀ (by norm_num) (by norm_num)

end Axis

/-! ### Lines that are found -/

/-- The direction that names the lines of a dimension by index. -/
def Dimension.byIndex : Dimension → Direction
  | .inline => .i
  | .crossline => .j
  | .sample => .k

theorem Dimension.dimension_byIndex (d : Dimension) : d.byIndex.dimension = d := by cases d <;> rfl

theorem Dimension.isIndex_byIndex (d : Dimension) : d.byIndex.isIndex = true := by cases d <;> rfl

namespace Volume

variable {v : Volume} {direction : Direction} {line : ℤ} {k : ℕ}

/-- The fault of an annotated line that is not found. -/
def noAnnotatedLine (a : Axis) (line : ℤ) : VolumeFault :=
  .noSuchLine line (plainText32 a.min) (plainText32 a.max) (plainText32 a.stepsize)

/-- The fault of an index that is not found. -/
def noIndexedLine (a : Axis) (line : ℤ) : VolumeFault := .noSuchLine line ['0'] (natText a.last) ['1']

/-- An annotated line is snapped to the whole number nearest to its position, if it is within the tolerance. -/
theorem lineIndex_annotated (hindex : direction.isIndex = false) :
    let a := v.axis direction.dimension
    let position := a.position (ofInt line)
    v.lineIndex direction line =
      if (position - round position).abs < snapTolerance ∧ 0.0 ≤ round position ∧ round position ≤ ofNat a.last then
        .ok (toNat (round position))
      else .fail (noAnnotatedLine a line) := by
  unfold lineIndex
  rw [hindex]
  rfl

theorem lineIndex_eq_of_near (hv : v.Sampled) (hindex : direction.isIndex = false)
    (hfinite : ((v.axis direction.dimension).position (ofInt line)).isFinite = true)
    (hk : k < (v.axis direction.dimension).samples)
    (h : |realOf ((v.axis direction.dimension).position (ofInt line)).toModel.unpack - (k : ℤ)| ≤
      1 / 10000 - 2 ^ (-66 : ℤ)) : v.lineIndex direction line = .ok k := by
  have hlast := hv.last direction.dimension
  have hk_le : k ≤ (v.axis direction.dimension).last := Nat.le_sub_one_of_lt hk
  rw [lineIndex_annotated hindex]
  set position := (v.axis direction.dimension).position (ofInt line)
  have hpart : (0 : ℝ) < 2 ^ (-66 : ℤ) := by positivity
  obtain ⟨hround, hvalue⟩ := value_round hfinite
  rw [nearestWhole_eq (n := k) (by linarith)] at hvalue
  have hreal : realOf (round position).toModel.unpack = (k : ℤ) := realOf_of_value_eq hround hvalue
  have hsub := roundsTo_sub hfinite hround
  rw [hreal] at hsub
  rw [Int.cast_natCast] at hvalue
  have hclose := (hsub.abs_lt_snapTolerance (by linarith)).1 h
  have hzero : 0.0 ≤ round position := by
    rw [le_iff, value_zero, hvalue]
    exact ⟨isNaN_of_isFinite isFinite_zero, isNaN_of_isFinite hround, EReal.coe_nonneg.mpr (Nat.cast_nonneg k)⟩
  have hend : round position ≤ ofNat (v.axis direction.dimension).last := by
    rw [le_ofNat_iff (isNaN_of_isFinite hround) hlast, hvalue, EReal.coe_le_coe_iff]
    exact_mod_cast hk_le
  rw [if_pos ⟨hclose, hzero, hend⟩, toNat_eq (by omega) hvalue]

theorem near_of_lineIndex_eq (hv : v.Sampled) (hindex : direction.isIndex = false)
    (hfinite : ((v.axis direction.dimension).position (ofInt line)).isFinite = true)
    (h : v.lineIndex direction line = .ok k) :
    |realOf ((v.axis direction.dimension).position (ofInt line)).toModel.unpack - (k : ℤ)| <
      1 / 10000 + 2 ^ (-66 : ℤ) := by
  have hlast := hv.last direction.dimension
  rw [lineIndex_annotated hindex] at h
  set position := (v.axis direction.dimension).position (ofInt line)
  split at h
  · next hfound =>
    obtain ⟨hclose, hzero, hend⟩ := hfound
    obtain ⟨hround, hvalue⟩ := value_round hfinite
    -- what is snapped to is an index
    rw [le_iff, value_zero, hvalue, EReal.coe_nonneg] at hzero
    rw [le_ofNat_iff (isNaN_of_isFinite hround) hlast, hvalue, EReal.coe_le_coe_iff] at hend
    obtain ⟨n, hn⟩ := Int.eq_ofNat_of_zero_le (a := nearestWhole (realOf position.toModel.unpack))
      (by exact_mod_cast hzero.2.2)
    rw [hn, Int.cast_natCast, Nat.cast_le] at hend
    have hwhole : value (round position) = ((n : ℝ) : EReal) := by rw [hvalue, hn, Int.cast_natCast]
    obtain rfl : n = k := by
      rw [toNat_eq (by omega) hwhole] at h
      exact Except.ok.inj h
    have hreal : realOf (round position).toModel.unpack = nearestWhole (realOf position.toModel.unpack) :=
      realOf_of_value_eq hround hvalue
    have hsub := roundsTo_sub hfinite hround
    rw [hreal] at hsub
    rw [← hn]
    exact (hsub.abs_lt_snapTolerance ((abs_sub_nearestWhole_le _).trans (by norm_num))).2 hclose
  · cases h

/-- An annotated line is found, or there is no such line. -/
theorem lineIndex_annotated_cases (v : Volume) (hindex : direction.isIndex = false) (line : ℤ) :
    (∃ k, v.lineIndex direction line = .ok k) ∨
      v.lineIndex direction line = .fail (noAnnotatedLine (v.axis direction.dimension) line) := by
  rw [lineIndex_annotated hindex]
  split
  · exact Or.inl ⟨_, rfl⟩
  · exact Or.inr rfl

/-- A line that is not found has no slices. -/
theorem slice_of_no_line {f : VolumeFault} (h : v.lineIndex direction line = .fail f) (bounds : List Bound) :
    v.slice direction line bounds = .fail f := by
  rw [slice_eq, h]
  rfl

/-- The slices at a line are those at the index of an axis: there is one without bounds, and they are the same with any
bounds. -/
def TakenFor (v : Volume) (direction : Direction) (line : ℤ) (k : ℕ) : Prop :=
  (∃ slice, v.slice direction line [] = .ok slice) ∧
    ∀ bounds, v.slice direction line bounds = v.slice direction.dimension.byIndex k bounds

theorem takenFor_of_lineIndex_eq (hv : v.Sampled) (h : v.lineIndex direction line = .ok k) :
    v.TakenFor direction line k := by
  have hk : k < (v.axis direction.dimension).samples := (meets_lineIndex hv direction line).of_eq_ok h
  constructor
  · obtain ⟨samples, hslice, -⟩ := exists_slice hv h
    exact ⟨_, hslice⟩
  · intro bounds
    have hdimension := direction.dimension.dimension_byIndex
    have hline : v.lineIndex direction.dimension.byIndex k = .ok k :=
      lineIndex_of_lt direction.dimension.isIndex_byIndex (by rwa [hdimension])
    rw [slice_eq, slice_eq, h, hline, hdimension]

/-- A line is taken for index `k` if it is closer to its annotation than a ten-thousandth of a step. -/
theorem lineIndex_of_close (hv : v.Sampled) {first step : ℤ}
    (ha : (v.axis direction.dimension).IsIntegral first step) (hindex : direction.isIndex = false)
    (hline : |line| ≤ 2 ^ 31) (hk : k < (v.axis direction.dimension).samples)
    (h : 10000 * |line - (first + k * step)| < step) : v.lineIndex direction line = .ok k := by
  obtain ⟨hdistance, hfinite, hposition⟩ := ha.position_spec (hv.samples _) hline
  refine lineIndex_eq_of_near hv hindex hfinite hk ?_
  exact le_of_near ha.step_pos hdistance (ha.step_le (hv.samples _) hk) hposition (by rwa [← sub_sub] at h)

/-- A line is taken for index `k` only if it is no farther from its annotation than a ten-thousandth of a step. -/
theorem close_of_lineIndex (hv : v.Sampled) {first step : ℤ}
    (ha : (v.axis direction.dimension).IsIntegral first step) (hindex : direction.isIndex = false)
    (hline : |line| ≤ 2 ^ 31) (h : v.lineIndex direction line = .ok k) :
    k < (v.axis direction.dimension).samples ∧ 10000 * |line - (first + k * step)| ≤ step := by
  have hk : k < (v.axis direction.dimension).samples := (meets_lineIndex hv direction line).of_eq_ok h
  refine ⟨hk, le_of_not_gt fun hfar => ?_⟩
  obtain ⟨hdistance, hfinite, hposition⟩ := ha.position_spec (hv.samples _) hline
  have hnear := near_of_lineIndex_eq hv hindex hfinite h
  rw [← sub_sub] at hfar
  exact not_le.mpr hnear (le_of_far ha.step_pos hdistance (ha.step_le (hv.samples _) hk) hposition hfar)

/-- **Lines are accepted up to the tolerance in snapping them.** Take a volume with a sample along each axis, in memory
(`sampled_of_sizeInBytes`), an axis of it that starts at an integer and goes on in steps of a positive one, with
annotations of at most `2 ^ 24`, and the number of a line in 32 bits.

By annotation, the line is taken for index `k`, with exactly the slices of this index, if it is closer to the annotation
of `k` than a ten-thousandth of a step. If it is farther from all annotations than that, there is no such line. With
steps of less than ten thousand, it is hence found exactly if it is one of the annotations. By index, it is found exactly
if it is an index. What is not found is reported as such, with the range of the lines that there are. -/
theorem lines_snapped (hv : v.Sampled) (direction : Direction) {first step : ℤ}
    (ha : (v.axis direction.dimension).IsIntegral first step) (line : ℤ) (hleast : -2 ^ 31 ≤ line) (hgreatest : line < 2 ^ 31) :
    (direction.isIndex = false →
      (step < 10000 → ((∃ slice, v.slice direction line [] = .ok slice) ↔
        ∃ k < (v.axis direction.dimension).samples, line = first + k * step)) ∧
      (∀ k < (v.axis direction.dimension).samples, 10000 * |line - (first + k * step)| < step →
        v.TakenFor direction line k) ∧
      ((∀ k < (v.axis direction.dimension).samples, step < 10000 * |line - (first + k * step)|) →
        ∀ bounds, v.slice direction line bounds = .fail (noAnnotatedLine (v.axis direction.dimension) line)) ∧
      ((∃ k < (v.axis direction.dimension).samples, 10000 * |line - (first + k * step)| ≤ step ∧
          v.TakenFor direction line k) ∨
        ∀ bounds, v.slice direction line bounds = .fail (noAnnotatedLine (v.axis direction.dimension) line))) ∧
    (direction.isIndex = true →
      ((∃ slice, v.slice direction line [] = .ok slice) ↔
        0 ≤ line ∧ line < (v.axis direction.dimension).samples) ∧
      (¬ (0 ≤ line ∧ line < (v.axis direction.dimension).samples) →
        ∀ bounds, v.slice direction line bounds = .fail (noIndexedLine (v.axis direction.dimension) line))) := by
  have hline : |line| ≤ 2 ^ 31 := abs_le.mpr ⟨hleast, hgreatest.le⟩
  constructor
  · intro hindex
    have hcases : (∃ k < (v.axis direction.dimension).samples, 10000 * |line - (first + k * step)| ≤ step ∧
          v.TakenFor direction line k) ∨
        v.lineIndex direction line = .fail (noAnnotatedLine (v.axis direction.dimension) line) := by
      rcases lineIndex_annotated_cases v hindex line with ⟨k, hk⟩ | hnone
      · obtain ⟨hlt, hclose⟩ := close_of_lineIndex hv ha hindex hline hk
        exact Or.inl ⟨k, hlt, hclose, takenFor_of_lineIndex_eq hv hk⟩
      · exact Or.inr hnone
    refine ⟨fun hstep => ⟨fun ⟨slice, hslice⟩ => ?_, fun ⟨k, hk, hon⟩ => ?_⟩, fun k hk hclose => ?_, fun hfar => ?_, ?_⟩
    · rcases hcases with ⟨k, hk, hclose, -⟩ | hnone
      · -- a distance of one unit would be more than a ten-thousandth of the step
        have hzero : |line - (first + k * step)| = 0 := by
          have := abs_nonneg (line - (first + k * step))
          omega
        exact ⟨k, hk, sub_eq_zero.mp (abs_eq_zero.mp hzero)⟩
      · rw [slice_of_no_line hnone] at hslice
        cases hslice
    · have hclose : 10000 * |line - (first + k * step)| < step := by
        rw [hon, sub_self, abs_zero, mul_zero]
        exact ha.step_pos
      exact (takenFor_of_lineIndex_eq hv (lineIndex_of_close hv ha hindex hline hk hclose)).1
    · exact takenFor_of_lineIndex_eq hv (lineIndex_of_close hv ha hindex hline hk hclose)
    · rcases hcases with ⟨k, hk, hclose, -⟩ | hnone
      · exact absurd hclose (not_le.mpr (hfar k hk))
      · exact slice_of_no_line hnone
    · exact hcases.imp_right slice_of_no_line
  · intro hindex
    have hout (h : ¬ (0 ≤ line ∧ line < (v.axis direction.dimension).samples)) :
        v.lineIndex direction line = .fail (noIndexedLine (v.axis direction.dimension) line) := by
      unfold lineIndex
      rw [hindex]
      exact if_neg h
    refine ⟨⟨fun ⟨slice, hslice⟩ => ?_, fun ⟨hpos, hlt⟩ => ?_⟩, fun h => slice_of_no_line (hout h)⟩
    · by_contra h
      rw [slice_of_no_line (hout h)] at hslice
      cases hslice
    · obtain ⟨n, rfl⟩ := Int.eq_ofNat_of_zero_le hpos
      exact (takenFor_of_lineIndex_eq hv (lineIndex_of_lt hindex (by exact_mod_cast hlt))).1

theorem isIntegral_wellKnown : (wellKnown.axis .inline).IsIntegral 1 2 where
  min := value32_of_unpack (m := 2 ^ 23) (e := -23) (by decide) rfl (by norm_num)
  stepsize := value32_of_unpack (m := 2 ^ 23) (e := -22) (by decide) rfl (by norm_num)
  step_pos := by decide
  annotations := by decide

/-- Of the inlines 1, 3 and 5, line 3 is that of index 1, and there is no line 4. -/
theorem lines_snapped_sample :
    wellKnown.TakenFor .inline 3 1 ∧
      ∀ bounds, wellKnown.slice .inline 4 bounds = .fail (noAnnotatedLine wellKnown.inline 4) := by
  obtain ⟨hthree, -⟩ := lines_snapped sampled_wellKnown .inline isIntegral_wellKnown 3 (by decide) (by decide)
  obtain ⟨hfour, -⟩ := lines_snapped sampled_wellKnown .inline isIntegral_wellKnown 4 (by decide) (by decide)
  exact ⟨(hthree rfl).2.1 1 (by decide) (by decide), (hfour rfl).2.2.1 (by decide)⟩

/-- The inlines 0, 20000 and 40000. -/
def farApart : Volume :=
  ofFn ⟨"Inline", "unitless", 0, 20000, 3⟩ wellKnown.crossline wellKnown.sample
    (fun i j k => ofNat32 (100 + 8 * i + 4 * j + k)) wellKnown.transform wellKnown.provenance

/-- With steps as great as this, line 1 is taken for line 0, although it is not on the axis. -/
theorem off_axis_line_found :
    (farApart.axis .inline).IsIntegral 0 20000 ∧
      (¬ ∃ k < (farApart.axis .inline).samples, (1 : ℤ) = 0 + k * 20000) ∧
      ∃ slice, farApart.slice .inline 1 [] = .ok slice := by
  have hsampled : farApart.Sampled := by
    constructor <;> intro d <;> cases d <;> decide
  have hline : farApart.lineIndex .inline 1 = .ok 0 := by decide
  refine ⟨⟨⟨rfl, ?_⟩, ?_, by decide, by decide⟩, by decide, (takenFor_of_lineIndex_eq hsampled hline).1⟩
  · rw [Int.cast_zero]
    rfl
  · exact value32_of_unpack (m := 10240000) (e := -9) (by decide) rfl (by norm_num)

end Volume

end SurveyGateway
