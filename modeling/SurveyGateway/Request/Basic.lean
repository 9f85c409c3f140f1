import SurveyGateway.Surface
import SurveyGateway.Vocabulary

/-!
# Requests

A request names a dataset, may carry a token, and asks a question of one of five kinds. The question holds all
that decides the product; dataset and token only say where to read and as whom.
-/

namespace SurveyGateway

/-! ### Questions -/

/-- A bound on an axis as a request spells it. -/
structure SliceBound where
  direction : String
  lower : Float32
  upper : Float32
  deriving DecidableEq

/-- Which plane of a volume to give. -/
structure SliceQuestion where
  direction : String
  line : Int
  bounds : List SliceBound
  deriving DecidableEq

/-- Along which path to give traces. -/
structure FenceQuestion where
  coordinateSystem : String
  coordinates : List (List Float32)
  interpolation : String
  /-- Stands in outside the survey; without it such coordinates are an error. -/
  fillValue : Option Float32
  deriving DecidableEq

/-- Which attributes to give in a window around a surface. -/
structure AlongQuestion where
  surface : Surface
  above : Float32
  below : Float32
  stepsize : Float32
  attributes : List String
  interpolation : String
  deriving DecidableEq

/-- Which attributes to give in the window between two surfaces. -/
structure BetweenQuestion where
  primary : Surface
  secondary : Surface
  stepsize : Float32
  attributes : List String
  interpolation : String
  deriving DecidableEq

/-- What is asked of a dataset. -/
inductive Question where
  | metadata
  | slice (q : SliceQuestion)
  | fence (q : FenceQuestion)
  | along (q : AlongQuestion)
  | between (q : BetweenQuestion)
  deriving DecidableEq

/-- The kinds of questions. -/
inductive Kind where
  | metadata
  | slice
  | fence
  | along
  | between
  deriving DecidableEq, Repr

namespace Kind

/-- The short name of a kind. -/
def name : Kind → String
  | metadata => "metadata"
  | slice => "slice"
  | fence => "fence"
  | along => "attributes_along_surface"
  | between => "attributes_between_surfaces"

/-- The name of a kind in canonical documents. -/
def tag : Kind → String
  | metadata => "metadata"
  | slice => "slice"
  | fence => "fence"
  | along => "attributeAlongSurface"
  | between => "attributeBetweenSurfaces"

end Kind

namespace Question

/-- The kind of a question. -/
def kind : Question → Kind
  | metadata => .metadata
  | slice _ => .slice
  | fence _ => .fence
  | along _ => .along
  | between _ => .between

/-- Whether the product has blocks of samples beside its metadata. -/
def hasData (q : Question) : Bool := q.kind != .metadata

end Question

/-- A request as a caller makes it. -/
structure Request where
  /-- The locator of the dataset. -/
  dataset : String
  token : Option String
  question : Question
  deriving DecidableEq

/-! ### Validation -/

/-- A token that is required must not be blank. -/
def requireToken (name token : String) : Except Refusal Unit :=
  if Text.isBlankText token then .error (.emptyMember name) else .ok ()

/-- What has to hold of a question whatever dataset it is asked of. -/
def Question.validate : Question → Except Refusal Unit
  | .metadata => .ok ()
  | .slice q => do
    requireToken "direction" q.direction
    q.bounds.forM fun b => requireToken "bounds.direction" b.direction
  | .fence q => do
    requireToken "coordinateSystem" q.coordinateSystem
    if q.coordinates.isEmpty then .error .noCoordinates else .ok ()
  | .along q => q.surface.validate
  | .between q => do
    q.primary.validate
    q.secondary.validate

/-! ### Canonical form -/

/-- The bound with its token in canonical spelling. -/
def SliceBound.canonical (b : SliceBound) : SliceBound := { b with direction := canonicalToken b.direction }

/-- The question with all its tokens in canonical spelling. -/
def Question.canonical : Question → Question
  | .metadata => .metadata
  | .slice q => .slice { q with
      direction := canonicalToken q.direction
      bounds := q.bounds.map SliceBound.canonical }
  | .fence q => .fence { q with
      coordinateSystem := canonicalToken q.coordinateSystem
      interpolation := canonicalInterpolation q.interpolation }
  | .along q => .along { q with
      attributes := q.attributes.map canonicalToken
      interpolation := canonicalInterpolation q.interpolation }
  | .between q => .between { q with
      attributes := q.attributes.map canonicalToken
      interpolation := canonicalInterpolation q.interpolation }

/-- The locator of a dataset without blanks around it and slashes at its end. It must name something, and it
must not carry a query, which would be a credential. -/
def canonicalDataset (locator : String) : Except Refusal String :=
  let locator := Text.trimEnd '/' (Text.trim locator)
  if locator.isEmpty then .error (.emptyMember "vds")
  else if locator.toList.contains '?' then .error .signedLocator
  else .ok locator

end SurveyGateway
