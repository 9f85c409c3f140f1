import SurveyGateway.Number.Conversion
import SurveyGateway.Vocabulary

/-!
# Window statistics

The attributes of a window of samples. A window is never empty.
-/

namespace SurveyGateway.Statistics

/-- The sum from the first sample to the last; that of no samples is negative zero. -/
def sum (xs : List Float) : Float := xs.foldl (· + ·) (-0.0)

/-- The sum divided by the size of the window. -/
def mean (window : List Float) : Float := sum window / Number.ofNat window.length

/-- The mean of the samples that satisfy `keep`; zero if there are none. -/
def meanWhere (keep : Float → Bool) (window : List Float) : Float :=
  let kept := window.filter keep
  if kept.isEmpty then 0.0 else kept.foldl (· + ·) 0.0 / Number.ofNat kept.length

/-- Floats in their total order, told apart by their bits. -/
def sorted (window : List UInt64) : List UInt64 :=
  window.mergeSort fun a b => decide (Number.totalRank a ≤ Number.totalRank b)

/-- The float in the middle of the order, or the mean of the two there. -/
def medianOfBits (window : List UInt64) : Float :=
  let ordered := sorted window
  let middle := ordered.length / 2
  let upper := Float.ofBits (ordered.getD middle 0)
  if ordered.length % 2 = 0 then (Float.ofBits (ordered.getD (middle - 1) 0) + upper) / 2.0 else upper

/-- The sample in the middle of the order, or the mean of the two there. -/
def median (window : List Float) : Float := medianOfBits (window.map Float.toBits)

/-- The mean squared distance from the mean. -/
def variance (window : List Float) : Float :=
  let m := mean window
  mean (window.map fun v => (v - m) * (v - m))

/-- The value of an attribute over a window whose sample at the surface has index `reference`. -/
def value (a : Attribute) (window : List Float) (reference : Nat) : Float :=
  match a with
  | .sampleValue => window.getD (Nat.min reference (window.length - 1)) 0.0
  | .min => window.foldl Number.minimum (1.0 / 0.0)
  | .max => window.foldl Number.maximum (-1.0 / 0.0)
  | .maxAbs => (window.map Float.abs).foldl Number.maximum 0.0
  | .mean => mean window
  | .meanAbs => mean (window.map Float.abs)
  | .meanPos => meanWhere (fun v => 0.0 < v) window
  | .meanNeg => meanWhere (fun v => v < 0.0) window
  | .median => median window
  | .rms => (mean (window.map fun v => v * v)).sqrt
  | .var => variance window
  | .sd => (variance window).sqrt
  | .sumPos => sum (window.filter fun v => 0.0 < v)
  | .sumNeg => sum (window.filter fun v => v < 0.0)

/-- The attribute as a 32-bit float. -/
def compute (a : Attribute) (window : List Float) (reference : Nat) : Float32 :=
  Number.narrow (value a window reference)

end SurveyGateway.Statistics
