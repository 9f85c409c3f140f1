import SurveyGateway.Request.Inquiry
import SurveyGateway.Volume.Attributes

/-!
# Answers

A question is answered from a volume. All of its tokens and numbers are checked before the volume is touched;
a question that passes is a `Task`, and what a task fails at is the volume's.
-/

namespace SurveyGateway

/-- A product: its metadata document and its blocks of samples, as bytes. -/
structure Product where
  metadata : List UInt8
  blocks : List (List UInt8)
  deriving DecidableEq

/-- A question whose tokens have been understood. -/
inductive Task where
  | metadata
  | slice (direction : Direction) (line : Int) (bounds : List Bound)
  | fence (system : CoordinateSystem) (coordinates : List (Float32 × Float32)) (interpolation : Interpolation)
      (fill : Option Float32)
  | along (surface : Surface) (window : VerticalWindow) (attributes : List Attribute)
      (interpolation : Interpolation)
  | between (primary secondary : Surface) (stepsize : Float32) (attributes : List Attribute)
      (interpolation : Interpolation)

/-- A bound with its token understood. -/
def SliceBound.parse (b : SliceBound) : Except Refusal Bound :=
  return ⟨← Direction.parse b.direction, b.lower, b.upper⟩

/-- The task that a question sets. -/
def Question.task : Question → Except Refusal Task
  | .metadata => return .metadata
  | .slice q => do
    let direction ← Direction.parse q.direction
    let bounds ← q.bounds.mapM SliceBound.parse
    return .slice direction q.line bounds
  | .fence q => do
    let system ← CoordinateSystem.parse q.coordinateSystem
    let coordinates ← coordinatePairs q.coordinates
    let interpolation ← Interpolation.parse q.interpolation
    return .fence system coordinates interpolation q.fillValue
  | .along q => do
    let window ← VerticalWindow.make q.above q.below q.stepsize
    let interpolation ← Interpolation.parse q.interpolation
    let attributes ← Attribute.parseAll q.attributes
    return .along q.surface window attributes interpolation
  | .between q => do
    checkStepsize q.stepsize
    let interpolation ← Interpolation.parse q.interpolation
    let attributes ← Attribute.parseAll q.attributes
    return .between q.primary q.secondary q.stepsize attributes interpolation

/-- The document that goes ahead of the samples of a task. -/
def Volume.document (v : Volume) : Task → Computation Json.Value
  | .metadata => return v.metadata.toValue
  | .slice direction line bounds => do
    let metadata ← v.sliceMetadata direction line bounds
    return metadata.toValue
  | .fence _ coordinates _ _ => return shapeValue (coordinates.length, v.traceLength)
  | .along surface _ _ _ => return shapeValue (surface.rows, surface.columns)
  | .between primary _ _ _ _ => return shapeValue (primary.rows, primary.columns)

/-- The samples of a task, block by block. -/
def Volume.samples (v : Volume) : Task → Computation (List (List Float32))
  | .metadata => return []
  | .slice direction line bounds => do
    let plane ← v.sliceSamples direction line bounds
    return [plane]
  | .fence system coordinates interpolation fill => do
    let traces ← v.fence system coordinates interpolation fill
    return [traces]
  | .along surface window attributes interpolation => v.attributesAlong surface window attributes interpolation
  | .between primary secondary stepsize attributes interpolation =>
    v.attributesBetween primary secondary stepsize attributes interpolation

/-- The product of a task. What is said of the samples does not come out of computing them. -/
def Volume.perform (v : Volume) (task : Task) : Computation Product := do
  let document ← v.document task
  let blocks ← v.samples task
  return ⟨document.bytes, blocks.map encodeSamples⟩

/-- The outcome of a computation as it is reported. -/
def Computation.report {α : Type} : Computation α → Except (Mishap Failure) α
  | .ok x => .ok x
  | .error (.failed f) => .error (.failed f.toFailure)
  | .error .brokenOff => .error .brokenOff

/-- The answer of a volume to a question. -/
def Volume.answer (v : Volume) (q : Question) : Except (Mishap Failure) Product :=
  match q.task with
  | .error r => .error (.failed r.toFailure)
  | .ok task => (v.perform task).report

end SurveyGateway
