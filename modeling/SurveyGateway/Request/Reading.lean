import SurveyGateway.Json.Record
import SurveyGateway.Request.Basic

/-!
# Reading requests

`Request.read kind` decodes the document of a request of the given kind. Members that are not known are passed
over, and members that a kind can do without have defaults.
-/

namespace SurveyGateway

open Json (Reader Member Record)

/-! ### Bounds and surfaces -/

/-- A bound as far as it has been read. -/
structure SliceBoundDraft where
  direction : Option String := none
  lower : Option Float32 := none
  upper : Option Float32 := none

/-- The record of a bound. -/
def SliceBound.record : Record SliceBound SliceBoundDraft where
  name := "SliceBound"
  empty := {}
  members := [
    ⟨"direction", fun d => return { d with direction := some (← Json.text) }, (·.direction.isSome), false⟩,
    ⟨"lower", fun d => return { d with lower := some (← Json.float32) }, (·.lower.isSome), false⟩,
    ⟨"upper", fun d => return { d with upper := some (← Json.float32) }, (·.upper.isSome), false⟩]
  value? d := return ⟨← d.direction, ← d.lower, ← d.upper⟩

/-- A surface as far as it has been read. -/
structure SurfaceDraft where
  values : Option (List (List Float32)) := none
  xori : Option Float32 := none
  yori : Option Float32 := none
  xinc : Option Float32 := none
  yinc : Option Float32 := none
  rotation : Option Float32 := none
  fillValue : Option Float32 := none

/-- A list of lists of numbers. -/
def numberRows : Reader (List (List Float32)) := Json.list (Json.list Json.float32)

/-- The record of a surface. -/
def Surface.record : Record Surface SurfaceDraft where
  name := "RegularSurface"
  empty := {}
  members := [
    ⟨"values", fun d => return { d with values := some (← numberRows) }, (·.values.isSome), false⟩,
    ⟨"xori", fun d => return { d with xori := some (← Json.float32) }, (·.xori.isSome), false⟩,
    ⟨"yori", fun d => return { d with yori := some (← Json.float32) }, (·.yori.isSome), false⟩,
    ⟨"xinc", fun d => return { d with xinc := some (← Json.float32) }, (·.xinc.isSome), false⟩,
    ⟨"yinc", fun d => return { d with yinc := some (← Json.float32) }, (·.yinc.isSome), false⟩,
    ⟨"rotation", fun d => return { d with rotation := some (← Json.float32) }, (·.rotation.isSome), false⟩,
    ⟨"fillValue", fun d => return { d with fillValue := some (← Json.float32) }, (·.fillValue.isSome), false⟩]
  value? d := return ⟨← d.values, ← d.xori, ← d.yori, ← d.xinc, ← d.yinc, ← d.rotation, ← d.fillValue⟩

/-! ### Requests -/

/-- A request of any kind as far as it has been read. Members that have been read are present, even where
their value is none. -/
structure RequestDraft where
  vds : Option String := none
  sas : Option (Option String) := none
  direction : Option String := none
  lineno : Option Int := none
  bounds : Option (List SliceBound) := none
  coordinateSystem : Option String := none
  coordinates : Option (List (List Float32)) := none
  interpolation : Option String := none
  fillValue : Option (Option Float32) := none
  surface : Option Surface := none
  primarySurface : Option Surface := none
  secondarySurface : Option Surface := none
  above : Option Float32 := none
  below : Option Float32 := none
  stepsize : Option Float32 := none
  attributes : Option (List String) := none

namespace RequestDraft

/-- The request that a draft amounts to, given its question. -/
def request? (d : RequestDraft) (question : Option Question) : Option Request :=
  return ⟨← d.vds, d.sas.join, ← question⟩

/-- The dataset. -/
def vdsMember : Member RequestDraft :=
  ⟨"vds", fun d => return { d with vds := some (← Json.text) }, (·.vds.isSome), false⟩

/-- The token. -/
def sasMember : Member RequestDraft :=
  ⟨"sas", fun d => return { d with sas := some (← Json.optional Json.text) }, (·.sas.isSome), true⟩

/-- The interpolation method; a blank one by default. -/
def interpolationMember : Member RequestDraft :=
  ⟨"interpolation", fun d => return { d with interpolation := some (← Json.text) },
    (·.interpolation.isSome), true⟩

/-- The sampling step; zero by default. -/
def stepsizeMember : Member RequestDraft :=
  ⟨"stepsize", fun d => return { d with stepsize := some (← Json.float32) }, (·.stepsize.isSome), true⟩

/-- The attributes. -/
def attributesMember : Member RequestDraft :=
  ⟨"attributes", fun d => return { d with attributes := some (← Json.list Json.text) },
    (·.attributes.isSome), false⟩

end RequestDraft

open RequestDraft

/-- The record of a request for metadata. -/
def metadataRecord : Record Request RequestDraft where
  name := "MetadataRequest"
  empty := {}
  members := [vdsMember, sasMember]
  value? d := d.request? (some .metadata)

/-- The record of a request for a slice. -/
def sliceRecord : Record Request RequestDraft where
  name := "SliceRequest"
  empty := {}
  members := [vdsMember,
    ⟨"direction", fun d => return { d with direction := some (← Json.text) }, (·.direction.isSome), false⟩,
    ⟨"lineno", fun d => return { d with lineno := some (← Json.int32) }, (·.lineno.isSome), false⟩,
    ⟨"bounds", fun d => return { d with bounds := some (← Json.list (Json.record SliceBound.record)) },
      (·.bounds.isSome), true⟩,
    sasMember]
  value? d := d.request? do return .slice ⟨← d.direction, ← d.lineno, d.bounds.getD []⟩

/-- The record of a request for a fence. -/
def fenceRecord : Record Request RequestDraft where
  name := "FenceRequest"
  empty := {}
  members := [vdsMember,
    ⟨"coordinateSystem", fun d => return { d with coordinateSystem := some (← Json.text) },
      (·.coordinateSystem.isSome), false⟩,
    ⟨"coordinates", fun d => return { d with coordinates := some (← numberRows) },
      (·.coordinates.isSome), false⟩,
    interpolationMember,
    ⟨"fillValue", fun d => return { d with fillValue := some (← Json.optional Json.float32) },
      (·.fillValue.isSome), true⟩,
    sasMember]
  value? d := d.request? do
    return .fence ⟨← d.coordinateSystem, ← d.coordinates, d.interpolation.getD "", d.fillValue.join⟩

/-- The record of a request for attributes along a surface. -/
def alongRecord : Record Request RequestDraft where
  name := "AttributeAlongSurfaceRequest"
  empty := {}
  members := [vdsMember,
    ⟨"surface", fun d => return { d with surface := some (← Json.record Surface.record) },
      (·.surface.isSome), false⟩,
    ⟨"above", fun d => return { d with above := some (← Json.float32) }, (·.above.isSome), false⟩,
    ⟨"below", fun d => return { d with below := some (← Json.float32) }, (·.below.isSome), false⟩,
    stepsizeMember, attributesMember, interpolationMember, sasMember]
  value? d := d.request? do
    return .along ⟨← d.surface, ← d.above, ← d.below, d.stepsize.getD 0, ← d.attributes,
      d.interpolation.getD ""⟩

/-- The record of a request for attributes between surfaces. -/
def betweenRecord : Record Request RequestDraft where
  name := "AttributeBetweenSurfacesRequest"
  empty := {}
  members := [vdsMember,
    ⟨"primarySurface", fun d => return { d with primarySurface := some (← Json.record Surface.record) },
      (·.primarySurface.isSome), false⟩,
    ⟨"secondarySurface", fun d => return { d with secondarySurface := some (← Json.record Surface.record) },
      (·.secondarySurface.isSome), false⟩,
    stepsizeMember, attributesMember, interpolationMember, sasMember]
  value? d := d.request? do
    return .between ⟨← d.primarySurface, ← d.secondarySurface, d.stepsize.getD 0, ← d.attributes,
      d.interpolation.getD ""⟩

/-- The record of a request of some kind. -/
def Kind.record : Kind → Record Request RequestDraft
  | .metadata => metadataRecord
  | .slice => sliceRecord
  | .fence => fenceRecord
  | .along => alongRecord
  | .between => betweenRecord

/-- The request of some kind that a document holds. -/
def Request.read (kind : Kind) (bytes : List UInt8) : Except Json.Complaint Request :=
  Json.document (Json.record kind.record) bytes

/-- The request that a body holds. -/
def Request.ofBody (kind : Kind) (body : List UInt8) : Except Failure Request :=
  (Request.read kind body).mapError fun c => (Refusal.unreadable c).toFailure

end SurveyGateway
