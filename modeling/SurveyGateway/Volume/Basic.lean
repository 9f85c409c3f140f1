import SurveyGateway.Failure
import SurveyGateway.Vocabulary
import SurveyGateway.Volume.Axis

/-!
# Volumes

A volume is a dense grid of samples along inline, crossline and sample axis, placed in the world by an affine
transform of its first two indices. `Volume.value?` is the view that all products are read through.
-/

namespace SurveyGateway

/-! ### What a volume can fail at -/

/-- Why a volume cannot give a product. -/
inductive VolumeFault where
  /-- No line of that number; the numbers run from `first` to `last` in steps of `step`. -/
  | noSuchLine (line : Int) (first last step : List Char)
  /-- The bounds leave nothing of an axis. -/
  | nothingSelected (axis : String)
  /-- The coordinate at `position` lies outside, and no fill value stands in. -/
  | outside (x y : Float32) (position : Nat)
  /-- The transform does not tell world positions apart. -/
  | degenerateTransform
  /-- The surfaces have unequal numbers of rows and columns. -/
  | shapesDiffer (primary secondary : Nat × Nat)
  /-- A window of `total` samples. -/
  | windowTooLarge (total : Float)
  deriving DecidableEq

/-- The most samples a window may have. -/
def windowLimit : Nat := 1 <<< 20

/-- Rows and columns. -/
def shapeText (shape : Nat × Nat) : List Char := Number.natText shape.1 ++ 'x' :: Number.natText shape.2

namespace VolumeFault

/-- The wording of a fault. -/
def message : VolumeFault → String
  | noSuchLine line first last step =>
    String.ofList ("Invalid lineno: ".toList ++ Number.intText line ++ ", valid range: [".toList ++ first
      ++ ':' :: last ++ ':' :: step ++ [']'])
  | nothingSelected axis => "Bounds on '" ++ axis ++ "' select no samples"
  | outside x y position =>
    String.ofList ("Coordinate (".toList ++ Number.plainText32 x ++ ", ".toList ++ Number.plainText32 y
      ++ ") at position ".toList ++ Number.natText position ++ " is out of bounds".toList)
  | degenerateTransform => "Degenerate world transform in dataset"
  | shapesDiffer primary secondary =>
    String.ofList ("Expected surfaces to have the same shape, primary is ".toList ++ shapeText primary
      ++ ", secondary is ".toList ++ shapeText secondary)
  | windowTooLarge total =>
    String.ofList ("Vertical window of ".toList ++ Number.plainText64 total
      ++ " samples exceeds the limit of ".toList ++ Number.natText windowLimit
      ++ ", increase the stepsize".toList)

/-- The failure that a fault is reported as. -/
def toFailure (f : VolumeFault) : Failure := ⟨.gateway, f.message⟩

end VolumeFault

/-- Why a computation on a volume has no result: it fails, or it reaches for a sample that is not there and
breaks off. -/
inductive Mishap (ε : Type) where
  | failed (e : ε)
  | brokenOff
  deriving DecidableEq

/-- A computation on a volume. -/
abbrev Computation := Except (Mishap VolumeFault)

/-- Fail with a fault. -/
def Computation.fail {α : Type} (f : VolumeFault) : Computation α := .error (.failed f)

/-- A sample that has to be there. -/
def Computation.ofSample {α : Type} : Option α → Computation α
  | some x => .ok x
  | none => .error .brokenOff

/-! ### Volumes -/

/-- Where a grid lies in the world: index `(i, j)` at `origin + i * inlineStep + j * crosslineStep`. -/
structure Transform where
  origin : Float × Float
  inlineStep : Float × Float
  crosslineStep : Float × Float

/-- The transform that takes indices for world coordinates. -/
def Transform.identity : Transform := ⟨(0, 0), (1, 0), (0, 1)⟩

/-- Where a volume came from. -/
structure Provenance where
  crs : String
  inputFileName : String
  importTimeStamp : String
  deriving DecidableEq

/-- A dense grid of samples, those of one trace next to each other and traces in order of crossline within
inline. -/
structure Volume where
  inline : Axis
  crossline : Axis
  sample : Axis
  transform : Transform
  provenance : Provenance
  data : Array Float32
  size_data : data.size = inline.samples * crossline.samples * sample.samples

namespace Volume

/-- The volume with the sample `value i j k` at each grid point. -/
def ofFn (inline crossline sample : Axis) (value : Nat → Nat → Nat → Float32)
    (transform : Transform) (provenance : Provenance) : Volume where
  inline
  crossline
  sample
  transform
  provenance
  data := Array.ofFn fun p : Fin (inline.samples * crossline.samples * sample.samples) =>
    value (p / sample.samples / crossline.samples) (p / sample.samples % crossline.samples) (p % sample.samples)
  size_data := Array.size_ofFn

/-- A small survey of three inlines, two crosslines and four samples, with the values
`100 + 8 * i + 4 * j + k`. -/
def wellKnown : Volume :=
  ofFn ⟨"Inline", "unitless", 1, 2, 3⟩ ⟨"Crossline", "unitless", 10, 1, 2⟩ ⟨"Sample", "ms", 4, 4, 4⟩
    (fun i j k => Number.ofNat32 (100 + 8 * i + 4 * j + k))
    ⟨(2, 0), (6, 4), (-2, 3)⟩ ⟨"utmXX", "well_known.segy", "2021-02-18T21:54:42.123Z"⟩

/-- The axis along a dimension. -/
def axis (v : Volume) : Dimension → Axis
  | .inline => v.inline
  | .crossline => v.crossline
  | .sample => v.sample

/-- The number of samples of a trace. -/
def traceLength (v : Volume) : Nat := v.sample.samples

/-- The place of the first sample of a trace. -/
def traceStart (v : Volume) (i j : Nat) : Nat := (i * v.crossline.samples + j) * v.traceLength

/-- The sample at a grid point. -/
def value? (v : Volume) (i j k : Nat) : Option Float32 := v.data[v.traceStart i j + k]?

/-- The samples of a trace, which have to be there. -/
def trace (v : Volume) (i j : Nat) : Computation (List Float32) :=
  let start := v.traceStart i j
  if start + v.traceLength ≤ v.data.size then .ok (v.data.extract start (start + v.traceLength)).toList
  else .error .brokenOff

/-- The size of the samples in bytes. -/
def sizeInBytes (v : Volume) : Nat := 4 * v.data.size

/-! ### Coordinates -/

/-- The world position of a fractional index. -/
def indexToCdp (v : Volume) (i j : Float) : Float × Float :=
  let t := v.transform
  (t.origin.1 + i * t.inlineStep.1 + j * t.crosslineStep.1,
    t.origin.2 + i * t.inlineStep.2 + j * t.crosslineStep.2)

/-- The distance from one to the next 64-bit float. A transform whose determinant is below it is degenerate. -/
def epsilon : Float := Float.ofBits 0x3cb0000000000000

/-- The fractional index of a world position. -/
def cdpToIndex (v : Volume) (x y : Float) : Computation (Float × Float) :=
  let a := v.transform.inlineStep
  let b := v.transform.crosslineStep
  let determinant := a.1 * b.2 - a.2 * b.1
  if determinant.abs < epsilon then .fail .degenerateTransform
  else
    let dx := x - v.transform.origin.1
    let dy := y - v.transform.origin.2
    .ok ((dx * b.2 - dy * b.1) / determinant, (a.1 * dy - a.2 * dx) / determinant)

/-- The fractional index of a position in some system. -/
def toIndex (v : Volume) (system : CoordinateSystem) (x y : Float) : Computation (Float × Float) :=
  match system with
  | .ij => .ok (x, y)
  | .ilxl => .ok (v.inline.position x, v.crossline.position y)
  | .cdp => v.cdpToIndex x y

end Volume

end SurveyGateway
