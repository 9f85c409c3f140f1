import SurveyGateway.Proofs.Number.Special
import SurveyGateway.Proofs.Volume.Points

/-!
# Two surfaces that coincide

The window between two surfaces is made up from their distance, and that along a surface from extents that are asked for.
Between a surface and itself there is no distance: not even where a depth is infinite and its distance from itself is no
number, since no number gives way to zero. Points without data are the same for both, too. So the attributes between a
surface and itself are those along it in a window without extent, with the same failure if there is one.

## What is proved

* `maximum_sub_self` — the distance from any depth to itself counts as zero.
* `windowsBetween_self` — the windows are the same, point by point.
* `coincident_surfaces` — and so are the maps, and the answers to the questions that ask for them.
-/

namespace SurveyGateway

open Float.Model Number

/-- The distance from any depth to itself counts as zero. -/
theorem Number.maximum_sub_self (a : Float) : maximum (a - a) 0.0 = 0.0 := by
  have hsub : a - a = .ofModel (.pack (UnpackedFloat.sub .binary64 a.toModel.unpack a.toModel.unpack)) := rfl
  have hgives : maximum notANumber 0.0 = 0.0 := if_pos isNaN_notANumber
  rw [hsub]
  cases a.toModel.unpack with
  | notANumber => exact hgives
  | infinity s => cases s <;> exact hgives
  | zero s => cases s <;> rfl
  | finite s m e hm =>
    -- the mantissas cancel, whatever they are
    have hcancel : UnpackedFloat.sub .binary64 (.finite s m e hm) (.finite s m e hm) = .zero .positive := by
      simp only [UnpackedFloat.sub, Int.sub_self]
      rfl
    rw [hcancel]
    rfl

namespace Volume

/-- At a point where two surfaces coincide, the window between them is one without extent. -/
theorem windowBetween_self (s : Surface) (stepsize value : Float32) :
    windowBetween s s value value = windowAlong s ⟨0, 0, stepsize⟩ value := by
  have hzero : widen 0 = 0.0 := rfl
  unfold windowBetween windowAlong
  rw [Bool.or_self, maximum_sub_self, hzero]

theorem windowsBetween_self (s : Surface) (stepsize : Float32) :
    windowsBetween s s = windowsAlong s ⟨0, 0, stepsize⟩ := by
  have hrow (row : List Float32) :
      row.zipWith (windowBetween s s) row = row.map (windowAlong s ⟨0, 0, stepsize⟩) := by
    rw [List.zipWith_self]
    exact List.map_congr_left fun value _ => windowBetween_self s stepsize value
  show s.values.zipWith (fun row others => row.zipWith (windowBetween s s) others) s.values = _
  rw [List.zipWith_self]
  exact List.map_congr_left fun row _ => hrow row

theorem attributesBetween_self (v : Volume) (s : Surface) (stepsize : Float32) (attributes : List Attribute)
    (interpolation : Interpolation) : v.attributesBetween s s stepsize attributes interpolation =
      v.attributesAlong s ⟨0, 0, stepsize⟩ attributes interpolation := by
  rw [attributesBetween_eq_growMaps rfl, attributesAlong_eq_growMaps, windowsBetween_self s stepsize]

theorem perform_between_self (v : Volume) (s : Surface) (stepsize : Float32) (attributes : List Attribute)
    (interpolation : Interpolation) : v.perform (.between s s stepsize attributes interpolation) =
      v.perform (.along s ⟨0, 0, stepsize⟩ attributes interpolation) := by
  have hsamples : v.samples (.between s s stepsize attributes interpolation) =
      v.samples (.along s ⟨0, 0, stepsize⟩ attributes interpolation) :=
    attributesBetween_self v s stepsize attributes interpolation
  unfold perform
  rw [hsamples]
  rfl

/-- A window without extent is accepted with every step that is. -/
theorem make_zero (stepsize : Float32) :
    VerticalWindow.make 0 0 stepsize = (fun _ => ⟨0, 0, stepsize⟩) <$> checkStepsize stepsize := by
  have hextent (name : String) : checkExtent name 0 = .ok () := if_pos (by decide)
  unfold VerticalWindow.make
  rw [hextent, hextent]
  cases checkStepsize stepsize <;> rfl

/-- **Between a surface and itself.** For every volume and every surface, with infinities or points without data, and
every step, list of attributes and interpolation, the maps between the surface and itself are those along it in a window
without extent, or the failure is the same. So are the answers to the questions that ask for them. -/
theorem coincident_surfaces (v : Volume) (s : Surface) (stepsize : Float32) :
    (∀ attributes interpolation, v.attributesBetween s s stepsize attributes interpolation =
      v.attributesAlong s ⟨0, 0, stepsize⟩ attributes interpolation) ∧
    (∀ attributes interpolation, v.answer (.between ⟨s, s, stepsize, attributes, interpolation⟩) =
      v.answer (.along ⟨s, 0, 0, stepsize, attributes, interpolation⟩)) := by
  refine ⟨attributesBetween_self v s stepsize, fun attributes interpolation => ?_⟩
  -- the same checks are made in the same order, and what passes them sets tasks that are performed alike
  simp only [answer, Question.task, make_zero]
  cases checkStepsize stepsize with
  | error refusal => rfl
  | ok _ =>
    cases Interpolation.parse interpolation with
    | error refusal => rfl
    | ok method =>
      cases Attribute.parseAll attributes with
      | error refusal => rfl
      | ok parsed => exact congrArg Computation.report (perform_between_self v s stepsize parsed method)

end Volume

end SurveyGateway
