import SurveyGateway.Answer
import SurveyGateway.Proofs.Counting
import SurveyGateway.Proofs.Number.Arithmetic
import SurveyGateway.Proofs.Volume.Shape

/-!
# Places in a volume

A computation on a volume breaks off if it reaches for a sample that is not there. The places come from floats that are
rounded, moved into ranges and cut to whole numbers; and the floats come from callers, may be infinite, and may be no
numbers at all once the axes and the transform of the volume have been applied to them.

## The model

`Meets x P` says that a computation is not broken off, and that what it gives satisfies `P`; `Completes x` says only the
former. A volume is `Sampled` if each axis has a sample, and indices are exact as floats.

## What is proved

Each function on a volume has one statement of what it meets; that of a composed one is put together by `Meets.bind`.

* `toNat_lt_samples`, `toNat_clamp_lt` — what is cut to a whole number is an index of the axis.
* `meets_lineIndex`, `meets_boundedRange`, `completes_slice` — slices.
* `meets_traceAt`, `completes_fence` — traces and fences.
-/

namespace SurveyGateway

open Number

/-! ### Computations that are not broken off -/

namespace Computation

variable {α β : Type} {x : Computation α} {P P' : α → Prop} {Q : β → Prop}

/-- A computation is not broken off, and what it gives satisfies `P`. -/
def Meets (x : Computation α) (P : α → Prop) : Prop :=
  match x with
  | .ok a => P a
  | .error (.failed _) => True
  | .error .brokenOff => False

/-- A computation is not broken off. -/
abbrev Completes (x : Computation α) : Prop := Meets x fun _ => True

theorem Meets.of_eq_ok {a : α} (h : Meets x P) (hx : x = .ok a) : P a := by
  subst hx
  exact h

/-- What a computation gives may be known from elsewhere. -/
theorem Meets.mono (h : Meets x P) (hP : ∀ a, x = .ok a → P a → P' a) : Meets x P' := by
  cases x with
  | ok a => exact hP a rfl h
  | error mishap =>
    cases mishap with
    | failed f => trivial
    | brokenOff => exact h

theorem Meets.bind {f : α → Computation β} (h : Meets x P) (hf : ∀ a, P a → Meets (f a) Q) : Meets (x >>= f) Q := by
  cases x with
  | ok a => exact hf a h
  | error mishap =>
    cases mishap with
    | failed f => trivial
    | brokenOff => exact h

theorem completes_mapM {f : α → Computation β} {xs : List α} (h : ∀ x ∈ xs, Completes (f x)) :
    Completes (xs.mapM f) := by
  induction xs with
  | nil => trivial
  | cons x xs ih =>
    rw [List.mapM_cons]
    refine (h x List.mem_cons_self).bind fun y _ => ?_
    exact (ih fun x hx => h x (List.mem_cons_of_mem _ hx)).bind fun ys _ => trivial

theorem completes_ofSample {x : Option α} (h : x.isSome = true) : Completes (ofSample x) := by
  obtain ⟨a, rfl⟩ := Option.isSome_iff_exists.mp h
  trivial

/-- What is not broken off has a result, or fails. -/
theorem Meets.cases (h : Meets x P) : (∃ a, x = .ok a) ∨ ∃ f, x = .fail f := by
  cases x with
  | ok a => exact Or.inl ⟨a, rfl⟩
  | error mishap =>
    cases mishap with
    | failed f => exact Or.inr ⟨f, rfl⟩
    | brokenOff => exact h.elim

/-- What is not broken off is reported as a result or a failure. -/
theorem Meets.report (h : Meets x P) : (∃ a, x.report = .ok a) ∨ ∃ f, x.report = .error (.failed f) := by
  cases x with
  | ok a => exact Or.inl ⟨a, rfl⟩
  | error mishap =>
    cases mishap with
    | failed f => exact Or.inr ⟨_, rfl⟩
    | brokenOff => exact h.elim

end Computation

open SurveyGateway.Computation

/-! ### Places in a volume -/

namespace Volume

variable {v : Volume}

/-- There is a sample along each axis, and an index is the same number as a float. -/
structure Sampled (v : Volume) : Prop where
  samples : ∀ d, 0 < (v.axis d).samples
  last : ∀ d, (v.axis d).last ≤ 2 ^ 53

/-- No axis has more samples than there are in all. -/
theorem last_le_of_sizeInBytes (hsamples : ∀ d, 0 < (v.axis d).samples) {n : ℕ} (hbytes : v.sizeInBytes ≤ 4 * n)
    (d : Dimension) : (v.axis d).last ≤ n := by
  have hi : 0 < v.inline.samples := hsamples .inline
  have hj : 0 < v.crossline.samples := hsamples .crossline
  have hk : 0 < v.sample.samples := hsamples .sample
  have hsize : v.inline.samples * v.crossline.samples * v.sample.samples ≤ n := by
    rw [← v.size_data]
    exact Nat.le_of_mul_le_mul_left hbytes four_pos
  refine (Nat.sub_le _ 1).trans (le_trans ?_ hsize)
  cases d with
  | inline => exact (Nat.le_mul_of_pos_right _ hj).trans (Nat.le_mul_of_pos_right _ hk)
  | crossline => exact (Nat.le_mul_of_pos_left _ hi).trans (Nat.le_mul_of_pos_right _ hk)
  | sample => exact Nat.le_mul_of_pos_left _ (Nat.mul_pos hi hj)

/-- Indices are exact in every volume that there is memory for: no processor addresses more than `2 ^ 52` bytes. Beyond,
the last index of an axis might be rounded up to one that is not there. -/
theorem sampled_of_sizeInBytes (hsamples : ∀ d, 0 < (v.axis d).samples) (hbytes : v.sizeInBytes ≤ 2 ^ 55) :
    v.Sampled :=
  ⟨hsamples, last_le_of_sizeInBytes hsamples (n := 2 ^ 53) hbytes⟩

theorem place_lt {i j k m n l : ℕ} (hi : i < m) (hj : j < n) (hk : k < l) : (i * n + j) * l + k < m * n * l := by
  have hrow : i * n + j + 1 ≤ m * n := by
    calc i * n + j + 1 ≤ i * n + n := by omega
      _ = (i + 1) * n := (Nat.succ_mul i n).symm
      _ ≤ m * n := Nat.mul_le_mul_right n hi
  calc (i * n + j) * l + k < (i * n + j) * l + l := by omega
    _ = (i * n + j + 1) * l := (Nat.succ_mul _ l).symm
    _ ≤ m * n * l := Nat.mul_le_mul_right l hrow

theorem isSome_value? {i j k : ℕ} (hi : i < v.inline.samples) (hj : j < v.crossline.samples)
    (hk : k < v.sample.samples) : (v.value? i j k).isSome = true := by
  have hplace : v.traceStart i j + k < v.data.size := by
    rw [v.size_data]
    exact place_lt hi hj hk
  rw [value?, Array.getElem?_eq_getElem hplace]
  rfl

/-- A trace between the ends of both axes is there. -/
theorem completes_trace (hv : v.Sampled) {i j : ℕ} (hi : i < v.inline.samples) (hj : j < v.crossline.samples) :
    Completes (v.trace i j) := by
  have hk : v.traceLength - 1 < v.sample.samples := Nat.sub_lt (hv.samples .sample) Nat.one_pos
  have hplace := place_lt hi hj hk
  have hend : v.traceStart i j + v.traceLength ≤ v.data.size := by
    rw [v.size_data]
    unfold traceStart
    unfold traceLength at hplace hk ⊢
    omega
  unfold trace
  rw [if_pos hend]
  trivial

/-! ### Indices of an axis -/

theorem Sampled.last_lt (hv : v.Sampled) (d : Dimension) : (v.axis d).last < (v.axis d).samples :=
  Nat.sub_lt (hv.samples d) Nat.one_pos

/-- The range that positions on an axis are moved into is in order. -/
theorem Sampled.zero_le_last (hv : v.Sampled) (d : Dimension) : (0.0 : Float) ≤ ofNat (v.axis d).last := by
  obtain ⟨hfinite, hvalue⟩ := value_ofNat (hv.last d)
  rw [le_iff, value_zero, hvalue]
  refine ⟨isNaN_of_isFinite isFinite_zero, isNaN_of_isFinite hfinite, ?_⟩
  exact EReal.coe_nonneg.mpr (Nat.cast_nonneg _)

/-- The whole part of what is at most the last index is an index. -/
theorem Sampled.toNat_lt_samples (hv : v.Sampled) {d : Dimension} {x : Float}
    (h : value x ≤ value (ofNat (v.axis d).last)) : toNat x < (v.axis d).samples :=
  calc toNat x ≤ toNat (ofNat (v.axis d).last) := toNat_le_toNat h
    _ = (v.axis d).last := toNat_ofNat (hv.last d)
    _ < (v.axis d).samples := hv.last_lt d

/-- The whole part of what has been moved between the ends of an axis is an index, even if it is no number. -/
theorem Sampled.toNat_clamp_lt (hv : v.Sampled) (d : Dimension) (x : Float) :
    toNat (clamp x 0.0 (ofNat (v.axis d).last)) < (v.axis d).samples := by
  rcases clamp_cases (hv.zero_le_last d) x with hnan | ⟨-, hle⟩
  · rw [toNat_eq_zero (value_of_isNaN hnan).le]
    exact hv.samples d
  · exact hv.toNat_lt_samples hle

/-! ### Slices -/

/-- The index of a line, if there is one, is on the axis. -/
theorem meets_lineIndex (hv : v.Sampled) (direction : Direction) (line : ℤ) :
    Meets (v.lineIndex direction line) fun index => index < (v.axis direction.dimension).samples := by
  unfold lineIndex
  dsimp only
  split
  · split
    · next h =>
      show line.toNat < (v.axis direction.dimension).samples
      omega
    · trivial
  · split
    · next h => exact hv.toNat_lt_samples (le_iff.mp h.2.2).2.2
    · trivial

/-- The ends of a range that has been cropped out of an axis are numbers, and the range goes no further than the axis. -/
structure IsCropped (a : Axis) (range : Float × Float) : Prop where
  first : range.1.isNaN = false
  last : range.2.isNaN = false
  last_le : value range.2 ≤ value (ofNat a.last)

/-- A bound that is no number on the axis crops nothing. -/
theorem IsCropped.crop {a : Axis} {range : Float × Float} (h : IsCropped a range) (b : Bound) :
    IsCropped a (crop a range b) where
  first := isNaN_maximum_left h.first
  last := isNaN_minimum_left h.last
  last_le := (value_minimum_le_left h.last).trans h.last_le

/-- What bounds leave of an axis, if it is something, is in order and on the axis. -/
theorem meets_boundedRange (hv : v.Sampled) (dimension : Dimension) (bounds : List Bound) :
    Meets (v.boundedRange dimension bounds) fun range =>
      range.1 ≤ range.2 ∧ range.2 < (v.axis dimension).samples := by
  have hwhole : IsCropped (v.axis dimension) (0.0, ofNat (v.axis dimension).last) :=
    ⟨isNaN_of_isFinite isFinite_zero, isNaN_of_isFinite (value_ofNat (hv.last dimension)).1, le_refl _⟩
  have hcropped := foldl_keeps (I := IsCropped (v.axis dimension)) (fun range b h => h.crop b) hwhole
    (bounds.filter fun b => b.direction.dimension == dimension)
  unfold boundedRange
  dsimp only
  split
  · trivial
  · next horder =>
    have hle := value_le_of_not_lt hcropped.last hcropped.first horder
    exact ⟨toNat_le_toNat hle, hv.toNat_lt_samples hcropped.last_le⟩

theorem mem_indices {first last n : ℕ} (h : first ≤ last) : n ∈ indices first last ↔ first ≤ n ∧ n ≤ last := by
  simp only [indices, List.mem_map, List.mem_range]
  constructor
  · rintro ⟨m, hm, rfl⟩
    omega
  · rintro ⟨hfirst, hlast⟩
    exact ⟨n - first, by omega, by omega⟩

theorem isSome_planeValue? (dimension : Dimension) {line row column : ℕ} (hline : line < (v.axis dimension).samples)
    (hrow : row < (v.axis (planeDimensions dimension).1).samples)
    (hcolumn : column < (v.axis (planeDimensions dimension).2).samples) :
    (v.planeValue? dimension line row column).isSome = true := by
  cases dimension with
  | inline => exact isSome_value? hline hrow hcolumn
  | crossline => exact isSome_value? hrow hline hcolumn
  | sample => exact isSome_value? hrow hcolumn hline

/-- A slice is not broken off. -/
theorem completes_slice (hv : v.Sampled) (direction : Direction) (line : ℤ) (bounds : List Bound) :
    Completes (v.slice direction line bounds) := by
  unfold slice
  refine (meets_lineIndex hv direction line).bind fun index hindex => ?_
  refine (meets_boundedRange hv _ bounds).bind fun rows hrows => ?_
  refine (meets_boundedRange hv _ bounds).bind fun columns hcolumns => ?_
  refine Meets.bind (completes_mapM fun row hrow => ?_) fun _ _ => trivial
  refine completes_mapM fun column hcolumn => completes_ofSample ?_
  have hrow := ((mem_indices hrows.1).mp hrow).2.trans_lt hrows.2
  have hcolumn := ((mem_indices hcolumns.1).mp hcolumn).2.trans_lt hcolumns.2
  exact isSome_planeValue? direction.dimension hindex hrow hcolumn

/-! ### Traces -/

theorem Sampled.nearestIndex_lt (hv : v.Sampled) (d : Dimension) (position : Float) :
    nearestIndex (v.axis d) position < (v.axis d).samples :=
  (Nat.min_le_right _ _).trans_lt (hv.last_lt d)

/-- The lines on both sides of a position are lines. -/
theorem Sampled.neighbours_lt (hv : v.Sampled) (d : Dimension) (position : Float) :
    (neighbours (v.axis d) position).1 < (v.axis d).samples ∧
      (neighbours (v.axis d) position).2.1 < (v.axis d).samples :=
  ⟨hv.toNat_clamp_lt d position, (Nat.min_le_right _ _).trans_lt (hv.last_lt d)⟩

/-- The trace at a position, if there is one, is a whole one. -/
theorem meets_traceAt (hv : v.Sampled) (i j : Float) (interpolation : Interpolation) :
    Meets (v.traceAt i j interpolation) fun trace => ∀ samples ∈ trace, samples.length = v.sample.samples := by
  have hcompletes : Completes (v.traceAt i j interpolation) := by
    unfold traceAt
    split
    · trivial
    · split
      · have hi : nearestIndex v.inline i < v.inline.samples := hv.nearestIndex_lt .inline i
        have hj : nearestIndex v.crossline j < v.crossline.samples := hv.nearestIndex_lt .crossline j
        exact (completes_trace hv hi hj).bind fun _ _ => trivial
      · have hi := hv.neighbours_lt .inline i
        have hj := hv.neighbours_lt .crossline j
        refine (completes_trace hv hi.1 hj.1).bind fun _ _ => ?_
        refine (completes_trace hv hi.2 hj.1).bind fun _ _ => ?_
        refine (completes_trace hv hi.1 hj.2).bind fun _ _ => ?_
        exact (completes_trace hv hi.2 hj.2).bind fun _ _ => trivial
  refine hcompletes.mono fun trace htrace _ samples hsamples => ?_
  cases hsamples
  exact length_traceAt htrace

theorem completes_cdpToIndex (x y : Float) : Completes (v.cdpToIndex x y) := by
  unfold cdpToIndex
  dsimp only
  split <;> trivial

theorem completes_toIndex (system : CoordinateSystem) (x y : Float) : Completes (v.toIndex system x y) := by
  cases system with
  | ij => trivial
  | ilxl => trivial
  | cdp => exact completes_cdpToIndex x y

/-- A fence is not broken off. -/
theorem completes_fence (hv : v.Sampled) (system : CoordinateSystem) (coordinates : List (Float32 × Float32))
    (interpolation : Interpolation) (fill : Option Float32) :
    Completes (v.fence system coordinates interpolation fill) := by
  unfold fence
  refine (completes_mapM fun point _ => ?_).bind fun _ _ => trivial
  unfold fenceTrace
  refine (completes_toIndex system _ _).bind fun index _ => ?_
  refine (meets_traceAt hv index.1 index.2 interpolation).bind fun trace _ => ?_
  cases trace with
  | some trace => trivial
  | none =>
    cases fill with
    | some fill => trivial
    | none => trivial

end Volume

end SurveyGateway
