import SurveyGateway.Statistics
import SurveyGateway.Surface
import SurveyGateway.Volume.Trace

/-!
# Attribute maps

At every point of a surface the trace is resampled over a vertical window, and each attribute of the window
gives one value of its map. A point gets the fill value if it has no data, if it lies outside the survey, or
if its window leaves the trace.
-/

namespace SurveyGateway

namespace Volume

/-- A trace and the scale of its samples. -/
structure Trace where
  scale : Scale
  samples : Array Float

/-- The value of a trace at a depth, between its samples linearly; none off its ends. -/
def Trace.sampleAt (t : Trace) (depth : Float) : Computation (Option Float) :=
  let position := t.scale.position depth
  if position < -snapTolerance || t.scale.last + snapTolerance < position then .ok none
  else do
    let position := Number.clamp position 0.0 t.scale.last
    let first := Number.toNat position
    let second := Nat.min (first + 1) (t.samples.size - 1)
    let weight := position - Number.ofNat first
    let a ← Computation.ofSample t.samples[first]?
    let b ← Computation.ofSample t.samples[second]?
    return some (a * (1.0 - weight) + b * weight)

/-- The values of a trace at the given depths; none if one of them is off its ends. -/
def Trace.samplesAt (t : Trace) (depths : List Float) : Computation (Option (List Float)) :=
  (depths.mapM fun depth => OptionT.mk (t.sampleAt depth)).run

/-- The step a window is sampled with: that of the volume where none is asked for. -/
def resampleStep (v : Volume) (stepsize : Float32) : Float :=
  if 0.0 < stepsize then Number.widen stepsize else Number.widen v.sample.stepsize

/-- How many steps fit into an extent. -/
def stepsWithin (extent step : Float) : Float := Number.floor (extent / step + snapTolerance)

/-- The depths of a window of `above` steps over and `below` steps under a reference. -/
def windowDepths (reference step : Float) (above below : Nat) : List Float :=
  let start := Number.ofNat above
  (List.range (above + below + 1)).map fun m => reference + (Number.ofNat m - start) * step

/-- The window around a reference on a trace, and the index of the reference in it; none if the window leaves
the trace. -/
def Trace.windowAt (t : Trace) (reference above below step : Float) :
    Computation (Option (List Float × Nat)) := do
  let above := stepsWithin above step
  let below := stepsWithin below step
  if (← t.sampleAt (reference - above * step)).isNone then return none
  if (← t.sampleAt (reference + below * step)).isNone then return none
  let total := above + below + 1.0
  if !total.isFinite || Number.ofNat windowLimit < total then .fail (.windowTooLarge total)
  let above := Number.toNat above
  let window ← t.samplesAt (windowDepths reference step above (Number.toNat below))
  return window.map (·, above)

/-- What is computed at a point of a surface: where it lies, and the reference and extents of its window. -/
structure WindowSpec where
  reference : Float
  above : Float
  below : Float

/-- The attributes at one point; none if the point gets the fill value. -/
def pointAttributes (v : Volume) (s : Surface) (row column : Nat) (window : WindowSpec) (step : Float)
    (attributes : List Attribute) (interpolation : Interpolation) : Computation (Option (List Float32)) := do
  let (x, y) := s.toWorld row column
  let (i, j) ← v.cdpToIndex x y
  match ← v.traceAt i j interpolation with
  | none => return none
  | some trace =>
    let trace : Trace := ⟨v.sample.scale, trace.toArray⟩
    match ← trace.windowAt window.reference window.above window.below step with
    | none => return none
    | some (samples, reference) =>
      return some (attributes.map fun a => Statistics.compute a samples reference)

/-- The attributes at all points, row by row. A point without a window gets the fill value. -/
def gridAttributes (v : Volume) (s : Surface) (windows : List (List (Option WindowSpec))) (step : Float)
    (attributes : List Attribute) (interpolation : Interpolation) :
    Computation (List (Option (List Float32))) := do
  let points ← windows.zipIdx.mapM fun (rowWindows, row) =>
    rowWindows.zipIdx.mapM fun (window, column) =>
      match window with
      | none => return none
      | some window => v.pointAttributes s row column window step attributes interpolation
  return points.flatten

/-- One map for each of `count` attributes. -/
def mapsOf (count : Nat) (fill : Float32) (points : List (Option (List Float32))) : List (List Float32) :=
  (List.range count).map fun index => points.map fun point => ((point.bind (·[index]?)).getD fill)

/-- The windows of a fixed extent around the points of a surface. -/
def windowsAlong (s : Surface) (window : VerticalWindow) : List (List (Option WindowSpec)) :=
  s.values.map fun row => row.map fun value =>
    if s.isFill value then none
    else some ⟨Number.widen value, Number.widen window.above, Number.widen window.below⟩

/-- The attribute maps of a window along a surface. -/
def attributesAlong (v : Volume) (s : Surface) (window : VerticalWindow) (attributes : List Attribute)
    (interpolation : Interpolation) : Computation (List (List Float32)) := do
  let points ← v.gridAttributes s (windowsAlong s window) (v.resampleStep window.stepsize) attributes
    interpolation
  return mapsOf attributes.length s.fillValue points

/-- The windows that reach from the points of one surface to those of another. -/
def windowsBetween (primary secondary : Surface) : List (List (Option WindowSpec)) :=
  primary.values.zipWith (fun row others => row.zipWith (fun value other =>
    if primary.isFill value || secondary.isFill other then none
    else
      let reference := Number.widen value
      let other := Number.widen other
      some ⟨reference, Number.maximum (reference - other) 0.0, Number.maximum (other - reference) 0.0⟩)
    others) secondary.values

/-- The attribute maps of the window between two surfaces, with the first one as reference. -/
def attributesBetween (v : Volume) (primary secondary : Surface) (stepsize : Float32)
    (attributes : List Attribute) (interpolation : Interpolation) : Computation (List (List Float32)) := do
  let shape := (primary.rows, primary.columns)
  let other := (secondary.rows, secondary.columns)
  if shape ≠ other then .fail (.shapesDiffer shape other)
  let points ← v.gridAttributes primary (windowsBetween primary secondary) (v.resampleStep stepsize)
    attributes interpolation
  return mapsOf attributes.length primary.fillValue points

end Volume

end SurveyGateway
