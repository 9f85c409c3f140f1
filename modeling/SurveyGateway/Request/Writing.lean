import SurveyGateway.Json.Value
import SurveyGateway.Request.Basic

/-!
# Requests as documents

`Request.toValue` is the document a caller sends. `Question.toValue` is the canonical document of a question:
it names the kind and leaves nothing out, so it can be told from that of any other question.
-/

namespace SurveyGateway

open Json (Value)

/-- The document of a bound. -/
def SliceBound.toValue (b : SliceBound) : Value :=
  .object [("direction", .text b.direction), ("lower", .float32 b.lower), ("upper", .float32 b.upper)]

/-- The document of a surface. -/
def Surface.toValue (s : Surface) : Value :=
  .object [("values", .list (s.values.map Value.floats32)), ("xori", .float32 s.xori),
    ("yori", .float32 s.yori), ("xinc", .float32 s.xinc), ("yinc", .float32 s.yinc),
    ("rotation", .float32 s.rotation), ("fillValue", .float32 s.fillValue)]

/-- A member that is left out where there is none. -/
def optionalMember (name : String) (value : Option Value) : List (String × Value) :=
  match value with
  | none => []
  | some v => [(name, v)]

/-- The members of a question in the document of a request. -/
def Question.requestMembers : Question → List (String × Value)
  | .metadata => []
  | .slice q => [("direction", .text q.direction), ("lineno", .integer q.line)]
      ++ (if q.bounds.isEmpty then [] else [("bounds", .list (q.bounds.map SliceBound.toValue))])
  | .fence q => [("coordinateSystem", .text q.coordinateSystem),
      ("coordinates", .list (q.coordinates.map Value.floats32)), ("interpolation", .text q.interpolation)]
      ++ optionalMember "fillValue" (q.fillValue.map .float32)
  | .along q => [("surface", q.surface.toValue), ("above", .float32 q.above), ("below", .float32 q.below),
      ("stepsize", .float32 q.stepsize), ("attributes", Value.texts q.attributes),
      ("interpolation", .text q.interpolation)]
  | .between q => [("primarySurface", q.primary.toValue), ("secondarySurface", q.secondary.toValue),
      ("stepsize", .float32 q.stepsize), ("attributes", Value.texts q.attributes),
      ("interpolation", .text q.interpolation)]

/-- The document of a request. -/
def Request.toValue (r : Request) : Value :=
  .object (("vds", .text r.dataset) :: (r.question.requestMembers ++ optionalMember "sas" (r.token.map .text)))

/-- The members of a question in canonical documents. -/
def Question.members : Question → List (String × Value)
  | .metadata => []
  | .slice q => [("direction", .text q.direction), ("lineno", .integer q.line),
      ("bounds", .list (q.bounds.map SliceBound.toValue))]
  | .fence q => [("coordinateSystem", .text q.coordinateSystem),
      ("coordinates", .list (q.coordinates.map Value.floats32)), ("interpolation", .text q.interpolation),
      ("fillValue", (q.fillValue.map Value.float32).getD .null)]
  | .along q => [("surface", q.surface.toValue), ("above", .float32 q.above), ("below", .float32 q.below),
      ("stepsize", .float32 q.stepsize), ("attributes", Value.texts q.attributes),
      ("interpolation", .text q.interpolation)]
  | .between q => [("primarySurface", q.primary.toValue), ("secondarySurface", q.secondary.toValue),
      ("stepsize", .float32 q.stepsize), ("attributes", Value.texts q.attributes),
      ("interpolation", .text q.interpolation)]

/-- The kind of a question, then its members. -/
def Question.taggedMembers (q : Question) : List (String × Value) := ("kind", .text q.kind.tag) :: q.members

/-- The canonical document of a question. -/
def Question.toValue (q : Question) : Value := .object q.taggedMembers

end SurveyGateway
