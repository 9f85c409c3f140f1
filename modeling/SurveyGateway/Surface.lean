import SurveyGateway.Failure

/-!
# Surfaces and vertical windows

A surface is a regular grid of depths or times placed in the world. A vertical window reaches some way above
and below it.
-/

namespace SurveyGateway

/-- A grid of depths or times. The point in row `r` and column `c` lies at the origin plus `r` steps of
`xinc` along the rotated first axis and `c` steps of `yinc` along the second. -/
structure Surface where
  values : List (List Float32)
  xori : Float32
  yori : Float32
  xinc : Float32
  yinc : Float32
  /-- Degrees counter-clockwise from east. -/
  rotation : Float32
  /-- The value of points without data. -/
  fillValue : Float32
  deriving DecidableEq

namespace Surface

/-- The number of rows. -/
def rows (s : Surface) : Nat := s.values.length

/-- The number of values in the first row. -/
def columns (s : Surface) : Nat := (s.values.head?.map List.length).getD 0

/-- A surface has a row, its rows have a value, and all have the same number of them. -/
def validate (s : Surface) : Except Refusal Unit :=
  match s.values with
  | [] => .error .noRows
  | first :: rest =>
    if first.isEmpty then .error .emptyRow
    else
      match (rest.zipIdx 1).find? fun (row, _) => row.length != first.length with
      | some (row, index) => .error (.raggedRow first.length index row.length)
      | none => .ok ()

/-- Whether a value marks a point without data. -/
def isFill (s : Surface) (value : Float32) : Bool := value == s.fillValue || value.isNaN

/-- Degrees per radian, inverted. -/
def radian : Float := 3.14159265358979323846264338327950288 / 180.0

/-- The world position of a point. -/
def toWorld (s : Surface) (row column : Nat) : Float × Float :=
  let angle := Number.widen s.rotation * radian
  let sin := angle.sin
  let cos := angle.cos
  let r := Number.ofNat row * Number.widen s.xinc
  let c := Number.ofNat column * Number.widen s.yinc
  (Number.widen s.xori + r * cos - c * sin, Number.widen s.yori + r * sin + c * cos)

end Surface

/-! ### Windows -/

/-- How far a window reaches above and below a surface, and the step it is sampled with; a step of zero
stands for the sample interval of the volume. -/
structure VerticalWindow where
  above : Float32
  below : Float32
  stepsize : Float32
  deriving DecidableEq

/-- An extent is at least zero and below the limit. -/
def checkExtent (name : String) (extent : Float32) : Except Refusal Unit :=
  if 0 ≤ extent ∧ extent < Refusal.extentLimit then .ok () else .error (.extentOutOfRange name extent)

/-- A step is a number that is not negative. -/
def checkStepsize (stepsize : Float32) : Except Refusal Unit :=
  if stepsize.isNaN || stepsize < 0 then .error (.stepsizeOutOfRange stepsize) else .ok ()

namespace VerticalWindow

/-- The window of the given extents and step. -/
def make (above below stepsize : Float32) : Except Refusal VerticalWindow := do
  checkExtent "above" above
  checkExtent "below" below
  checkStepsize stepsize
  return ⟨above, below, stepsize⟩

end VerticalWindow

/-! ### Coordinates -/

/-- The coordinates as pairs; `position` is that of the first one. -/
def coordinatePairsFrom (position : Nat) : List (List Float32) → Except Refusal (List (Float32 × Float32))
  | [] => .ok []
  | [x, y] :: rest => return (x, y) :: (← coordinatePairsFrom (position + 1) rest)
  | values :: _ => .error (.notAPair values position)

/-- The coordinates as pairs. -/
def coordinatePairs (coordinates : List (List Float32)) : Except Refusal (List (Float32 × Float32)) :=
  coordinatePairsFrom 0 coordinates

end SurveyGateway
