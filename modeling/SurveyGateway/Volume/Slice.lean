import SurveyGateway.Volume.Metadata

/-!
# Slices

A slice is the plane of a volume at one line of an axis. Bounds crop its other two axes: an index is kept
if it is within every bound on its axis, up to a small tolerance.
-/

namespace SurveyGateway

/-- The tolerance in snapping annotations to samples, in samples. -/
def snapTolerance : Float := 1e-4

/-- A bound on an axis, by index or by annotation. -/
structure Bound where
  direction : Direction
  lower : Float32
  upper : Float32
  deriving DecidableEq

namespace Volume

/-- The index of a line. An annotated line has to be within the tolerance of a sample. -/
def lineIndex (v : Volume) (direction : Direction) (line : Int) : Computation Nat :=
  let a := v.axis direction.dimension
  if direction.isIndex then
    if 0 ≤ line ∧ line < a.samples then .ok line.toNat
    else .fail (.noSuchLine line ['0'] (Number.natText a.last) ['1'])
  else
    let position := a.position (Number.ofInt line)
    let snapped := Number.round position
    if (position - snapped).abs < snapTolerance ∧ 0.0 ≤ snapped ∧ snapped ≤ Number.ofNat a.last then
      .ok (Number.toNat snapped)
    else
      .fail (.noSuchLine line (Number.plainText32 a.min) (Number.plainText32 a.max)
        (Number.plainText32 a.stepsize))

/-- The positions on an axis that a bound names. -/
def boundPositions (a : Axis) (b : Bound) : Float × Float :=
  let lower := Number.widen b.lower
  let upper := Number.widen b.upper
  if b.direction.isIndex then (lower, upper) else (a.position lower, a.position upper)

/-- A range cropped by a bound. -/
def crop (a : Axis) (range : Float × Float) (b : Bound) : Float × Float :=
  let (lower, upper) := boundPositions a b
  (Number.maximum range.1 (Number.ceil (lower - snapTolerance)),
    Number.minimum range.2 (Number.floor (upper + snapTolerance)))

/-- The first and the last index of an axis that all bounds on it keep. -/
def boundedRange (v : Volume) (dimension : Dimension) (bounds : List Bound) : Computation (Nat × Nat) :=
  let a := v.axis dimension
  let range := (bounds.filter fun b => b.direction.dimension == dimension).foldl (crop a)
    (0.0, Number.ofNat a.last)
  if range.2 < range.1 then .fail (.nothingSelected a.name)
  else .ok (Number.toNat range.1, Number.toNat range.2)

/-- The dimensions of the rows and of the columns of a slice. -/
def planeDimensions : Dimension → Dimension × Dimension
  | .inline => (.crossline, .sample)
  | .crossline => (.inline, .sample)
  | .sample => (.inline, .crossline)

/-- The sample in a row and a column of a slice. -/
def planeValue? (v : Volume) (dimension : Dimension) (line row column : Nat) : Option Float32 :=
  match dimension with
  | .inline => v.value? line row column
  | .crossline => v.value? row line column
  | .sample => v.value? row column line

/-- The indices from `first` to `last`. -/
def indices (first last : Nat) : List Nat := (List.range (last - first + 1)).map (first + ·)

/-- The world positions round a slice: the two ends of a vertical one, the corners of a horizontal one. -/
def outline (v : Volume) (dimension : Dimension) (line : Nat) (rows columns : Nat × Nat) :
    List (Float × Float) :=
  let corner (i j : Nat) := v.indexToCdp (Number.ofNat i) (Number.ofNat j)
  match dimension with
  | .inline => [corner line rows.1, corner line rows.2]
  | .crossline => [corner rows.1 line, corner rows.2 line]
  | .sample => [corner rows.1 columns.1, corner rows.2 columns.1, corner rows.2 columns.2, corner rows.1 columns.2]

/-- The slice at a line, cropped by bounds: what is said of it, and its samples row by row. -/
def slice (v : Volume) (direction : Direction) (line : Int) (bounds : List Bound) :
    Computation (SliceMetadata × List Float32) := do
  let dimension := direction.dimension
  let index ← v.lineIndex direction line
  let (rowDimension, columnDimension) := planeDimensions dimension
  let rows ← v.boundedRange rowDimension bounds
  let columns ← v.boundedRange columnDimension bounds
  let data ← (indices rows.1 rows.2).mapM fun row =>
    (indices columns.1 columns.2).mapM fun column =>
      Computation.ofSample (v.planeValue? dimension index row column)
  let metadata : SliceMetadata :=
    { x := (v.axis columnDimension).summary columns.1 columns.2
      y := (v.axis rowDimension).summary rows.1 rows.2
      shape := (rows.2 - rows.1 + 1, columns.2 - columns.1 + 1)
      geospatial := v.outline dimension index rows columns }
  return (metadata, data.flatten)

/-- What is said of a slice. -/
def sliceMetadata (v : Volume) (direction : Direction) (line : Int) (bounds : List Bound) :
    Computation SliceMetadata := do
  let (metadata, _) ← v.slice direction line bounds
  return metadata

/-- The samples of a slice. -/
def sliceSamples (v : Volume) (direction : Direction) (line : Int) (bounds : List Bound) :
    Computation (List Float32) := do
  let (_, samples) ← v.slice direction line bounds
  return samples

end Volume

end SurveyGateway
