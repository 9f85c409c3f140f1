import SurveyGateway.Json.Value
import SurveyGateway.Volume.Basic

/-!
# Metadata documents

What goes ahead of the samples of a product, or stands for itself: the axes and corners of a volume, the
axes and outline of a slice, or the mere shape of a block.
-/

namespace SurveyGateway

/-- How samples are encoded: as 32-bit floats, least byte first. -/
def sampleFormat : String := "<f4"

/-- A range of an axis. -/
structure AxisSummary where
  name : String
  max : Float32
  min : Float32
  samples : Nat
  stepsize : Float32
  unit : String
  deriving DecidableEq

/-- The part of an axis with the indices `first` to `last`. -/
def Axis.summary (a : Axis) (first last : Nat) : AxisSummary where
  name := a.name
  max := a.annotationAt last
  min := a.annotationAt first
  samples := last - first + 1
  stepsize := a.stepsize
  unit := a.unit

/-- What is said of a volume. The corners go round it, starting at index `(0, 0)` along the inline axis. -/
structure Metadata where
  axes : List AxisSummary
  cdp : List (Float × Float)
  ilxl : List (Float32 × Float32)
  ij : List (Float32 × Float32)
  provenance : Provenance

/-- What is said of a slice: `x` runs along its rows and `y` from row to row. -/
structure SliceMetadata where
  x : AxisSummary
  y : AxisSummary
  /-- Rows and columns. -/
  shape : Nat × Nat
  /-- The world positions round its outline. -/
  geospatial : List (Float × Float)

/-- What is said of a volume. -/
def Volume.metadata (v : Volume) : Metadata :=
  let i := v.inline.last
  let j := v.crossline.last
  let corners := [(0, 0), (i, 0), (i, j), (0, j)]
  { axes := [v.inline, v.crossline, v.sample].map fun a => a.summary 0 a.last
    cdp := corners.map fun (i, j) => v.indexToCdp (Number.ofNat i) (Number.ofNat j)
    ilxl := corners.map fun (i, j) => (v.inline.annotationAt i, v.crossline.annotationAt j)
    ij := corners.map fun (i, j) => (Number.ofNat32 i, Number.ofNat32 j)
    provenance := v.provenance }

/-! ### Documents -/

open Json (Value)

/-- A pair of 64-bit floats. -/
def pairValue (p : Float × Float) : Value := .list [.float64 p.1, .float64 p.2]

/-- A pair of 32-bit floats. -/
def pairValue32 (p : Float32 × Float32) : Value := .list [.float32 p.1, .float32 p.2]

/-- The document of a range of an axis. -/
def AxisSummary.toValue (a : AxisSummary) : Value :=
  .object [("annotation", .text a.name), ("max", .float32 a.max), ("min", .float32 a.min),
    ("samples", .integer a.samples), ("stepsize", .float32 a.stepsize), ("unit", .text a.unit)]

/-- The document of a volume. -/
def Metadata.toValue (m : Metadata) : Value :=
  .object [("axis", .list (m.axes.map AxisSummary.toValue)),
    ("boundingBox", .object [("cdp", .list (m.cdp.map pairValue)), ("ilxl", .list (m.ilxl.map pairValue32)),
      ("ij", .list (m.ij.map pairValue32))]),
    ("crs", .text m.provenance.crs), ("inputFileName", .text m.provenance.inputFileName),
    ("importTimeStamp", .text m.provenance.importTimeStamp), ("format", .text sampleFormat)]

/-- The document of a slice. -/
def SliceMetadata.toValue (m : SliceMetadata) : Value :=
  .object [("x", m.x.toValue), ("y", m.y.toValue),
    ("shape", .list [.integer m.shape.1, .integer m.shape.2]), ("format", .text sampleFormat),
    ("geospatial", .list (m.geospatial.map pairValue))]

/-- The document of a block of the given shape. -/
def shapeValue (shape : Nat × Nat) : Value :=
  .object [("shape", .list [.integer shape.1, .integer shape.2]), ("format", .text sampleFormat)]

/-! ### Blocks -/

/-- The four bytes of a word, least one first. -/
def littleEndian (w : UInt32) : List UInt8 :=
  [w.toUInt8, (w >>> 8).toUInt8, (w >>> 16).toUInt8, (w >>> 24).toUInt8]

/-- Samples as bytes. -/
def encodeSamples (samples : List Float32) : List UInt8 :=
  samples.flatMap fun x => littleEndian x.toBits

/-- The samples of a block; bytes that do not make up a sample are left out. -/
def decodeSamples : List UInt8 → List Float32
  | a :: b :: c :: d :: rest =>
    Float32.ofBits (a.toUInt32 ||| (b.toUInt32 <<< 8) ||| (c.toUInt32 <<< 16) ||| (d.toUInt32 <<< 24))
      :: decodeSamples rest
  | _ => []

end SurveyGateway
