import SurveyGateway.Volume.Slice

/-!
# Traces and fences

A trace between grid points is taken from the nearest one, or mixed from the four around it. A fence is a
list of traces along a path.
-/

namespace SurveyGateway

namespace Volume

/-- Whether a fractional index is nearer to a sample of the axis than to one beyond its ends. -/
def isInside (a : Axis) (position : Float) : Bool :=
  -0.5 ≤ position && position < Number.ofNat a.samples - 0.5

/-- The index of the grid line nearest to a position. -/
def nearestIndex (a : Axis) (position : Float) : Nat :=
  Nat.min (Number.toNat (Number.maximum (Number.round position) 0.0)) a.last

/-- The grid lines on both sides of a position, and the weight of the second one. -/
def neighbours (a : Axis) (position : Float) : Nat × Nat × Float :=
  let position := Number.clamp position 0.0 (Number.ofNat a.last)
  let first := Number.toNat position
  (first, Nat.min (first + 1) a.last, position - Number.ofNat first)

/-- A trace with `weight` times the samples added. -/
def addWeighted (trace : List Float) (samples : List Float32) (weight : Float) : List Float :=
  trace.zipWith (fun out sample => out + weight * Number.widen sample) samples

/-- The trace at a fractional index; none outside the survey. -/
def traceAt (v : Volume) (i j : Float) (interpolation : Interpolation) : Computation (Option (List Float)) :=
  if !(i.isFinite && j.isFinite && isInside v.inline i && isInside v.crossline j) then .ok none
  else if interpolation = .nearest then do
    let samples ← v.trace (nearestIndex v.inline i) (nearestIndex v.crossline j)
    return some (samples.map Number.widen)
  else do
    let (i0, i1, wi) := neighbours v.inline i
    let (j0, j1, wj) := neighbours v.crossline j
    let s00 ← v.trace i0 j0
    let s10 ← v.trace i1 j0
    let s01 ← v.trace i0 j1
    let s11 ← v.trace i1 j1
    let start := List.replicate v.traceLength 0.0
    let start := addWeighted start s00 ((1.0 - wi) * (1.0 - wj))
    let start := addWeighted start s10 (wi * (1.0 - wj))
    let start := addWeighted start s01 ((1.0 - wi) * wj)
    return some (addWeighted start s11 (wi * wj))

/-! ### Fences -/

/-- The samples of a fence at one coordinate: its trace, or the fill value outside the survey. -/
def fenceTrace (v : Volume) (system : CoordinateSystem) (interpolation : Interpolation)
    (fill : Option Float32) (coordinate : Float32 × Float32) (position : Nat) : Computation (List Float32) := do
  let (x, y) := coordinate
  let (i, j) ← v.toIndex system (Number.widen x) (Number.widen y)
  match ← v.traceAt i j interpolation, fill with
  | some trace, _ => return trace.map Number.narrow
  | none, some fill => return List.replicate v.traceLength fill
  | none, none => .fail (.outside x y position)

/-- The samples of a fence, coordinate by coordinate. -/
def fence (v : Volume) (system : CoordinateSystem) (coordinates : List (Float32 × Float32))
    (interpolation : Interpolation) (fill : Option Float32) : Computation (List Float32) := do
  let traces ← coordinates.zipIdx.mapM fun (coordinate, position) =>
    v.fenceTrace system interpolation fill coordinate position
  return traces.flatten

end Volume

end SurveyGateway
