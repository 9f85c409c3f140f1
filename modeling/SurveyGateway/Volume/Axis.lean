import SurveyGateway.Number.Conversion

/-!
# Axes

An axis annotates the indices of one dimension linearly.
-/

namespace SurveyGateway

/-- The annotation of the indices `0, …, samples - 1`: the first one is `min`, and each of the others is
`stepsize` further on. -/
structure Axis where
  name : String
  unit : String
  min : Float32
  stepsize : Float32
  samples : Nat
  deriving DecidableEq

/-- The numbers of an axis as 64-bit floats, with the index of its last sample. -/
structure Scale where
  min : Float
  step : Float
  last : Float

/-- The fractional index of an annotation. -/
def Scale.position (s : Scale) (value : Float) : Float := (value - s.min) / s.step

namespace Axis

/-- The annotation of an index. -/
def annotationAt (a : Axis) (index : Nat) : Float32 := a.min + a.stepsize * Number.ofNat32 index

/-- The index of the last sample. -/
def last (a : Axis) : Nat := a.samples - 1

/-- The annotation of the last sample. -/
def max (a : Axis) : Float32 := a.annotationAt a.last

/-- The axis in 64-bit floats. -/
def scale (a : Axis) : Scale := ⟨Number.widen a.min, Number.widen a.stepsize, Number.ofNat a.last⟩

/-- The fractional index of an annotation. -/
def position (a : Axis) (value : Float) : Float := a.scale.position value

end Axis

end SurveyGateway
