import SurveyGateway.Digest.Fnv
import SurveyGateway.Number.Conversion
import SurveyGateway.Number.Style
import SurveyGateway.Text.Utf8

/-!
# Metrics

Every response leaves a sample. Samples are counted by method and path, and their durations and sizes are sorted
into buckets with upper bounds. A family has a series for every digest of the values of its labels, one behind the
other; so values that run together to the same text share a series, under the values that came first. What has been
recorded is shown as text: the families by name, the series of a family by the values of their labels, and in each
bucket all samples up to its bound.
-/

namespace SurveyGateway.Service

/-- What is known of a response. -/
structure Sample where
  method : String
  path : String
  status : Nat
  size : Nat
  cacheHit : Bool
  /-- How long it took, in seconds. -/
  duration : Float

/-! ### Recording -/

/-- Numbers sorted into buckets. -/
structure Histogram where
  /-- How many numbers are in each bucket and in none of those before it. -/
  buckets : List Nat
  sum : Float
  count : Nat

namespace Histogram

/-- A histogram without numbers. -/
def empty (bounds : List Float) : Histogram := ⟨bounds.map fun _ => 0, 0, 0⟩

/-- The buckets with `x` in the first one that it is not above. -/
def fill (x : Float) : List Float → List Nat → List Nat
  | bound :: bounds, n :: ns => if x ≤ bound then (n + 1) :: ns else n :: fill x bounds ns
  | _, ns => ns

/-- The histogram with one more number. -/
def observe (bounds : List Float) (h : Histogram) (x : Float) : Histogram :=
  ⟨fill x bounds h.buckets, h.sum + x, h.count + 1⟩

/-- How many numbers each bucket shows: its own and those of all before it. -/
def cumulative (total : Nat) : List Nat → List Nat
  | [] => []
  | n :: ns => (total + n) :: cumulative (total + n) ns

end Histogram

/-- What is recorded of samples whose labels have one digest. -/
structure Series (α : Type) where
  digest : UInt64
  /-- The values of its labels in the order of their names. -/
  labels : List String
  value : α

/-- Series by the values of their labels, in order. -/
abbrev Family (α : Type) := List (Series α)

namespace Family

/-- The digest of the values of labels. -/
def digestOf (values : List String) : UInt64 := Digest.fnv (values.flatMap fun v => Text.utf8 v.toList)

/-- The value of the series with a digest. -/
def value? {α : Type} (family : Family α) (digest : UInt64) : Option α :=
  (family.find? (·.digest == digest)).map (·.value)

/-- The family with one series more. -/
def insert {α : Type} (new : Series α) : Family α → Family α
  | [] => [new]
  | series :: rest =>
    if new.labels < series.labels then new :: series :: rest else series :: insert new rest

/-- The family with the series of a digest changed; if there is none yet, it begins as `fresh`, under `labels`. -/
def change {α : Type} (digest : UInt64) (labels : List String) (fresh : α) (f : α → α) (family : Family α) :
    Family α :=
  if family.any (·.digest == digest) then
    family.map fun series => if series.digest == digest then { series with value := f series.value } else series
  else insert ⟨digest, labels, f fresh⟩ family

end Family

/-- The upper bounds of durations, in seconds. -/
def durationBounds : List Float := [0.1, 0.5, 1, 2, 5, 20, 60, 120]

/-- The upper bounds of sizes, in bytes. -/
def sizeBounds : List Float :=
  [102400, 1048576, 5242880, 10485760, 20971520, 52428800, 104857600, 209715200]

/-- What has been recorded. -/
structure Metrics where
  /-- By cache hit, path and status. -/
  durations : Family Histogram
  /-- By method and path. -/
  requests : Family Nat
  /-- By path and status. -/
  sizes : Family Histogram

namespace Metrics

/-- Nothing recorded. -/
def empty : Metrics := ⟨[], [], []⟩

/-- The metrics with one more sample. -/
def record (m : Metrics) (s : Sample) : Metrics :=
  let status := String.ofList (Number.natText s.status)
  let hit := if s.cacheHit then "true" else "false"
  { durations := m.durations.change (Family.digestOf [s.path, status, hit]) [hit, s.path, status]
      (.empty durationBounds) (·.observe durationBounds s.duration)
    requests := m.requests.change (Family.digestOf [s.method, s.path]) [s.method, s.path] 0 (· + 1)
    sizes := m.sizes.change (Family.digestOf [s.path, status]) [s.path, status]
      (.empty sizeBounds) (·.observe sizeBounds (Number.ofNat s.size)) }

end Metrics

/-! ### Showing -/

/-- A character in the value of a label. -/
def labelChar (c : Char) : List Char :=
  if c = '\\' then ['\\', '\\'] else if c = '\n' then ['\\', 'n'] else if c = '"' then ['\\', '"'] else [c]

/-- A label. -/
def labelText (name value : String) : List Char :=
  name.toList ++ '=' :: '"' :: (value.toList.flatMap labelChar ++ ['"'])

/-- The labels of a series. -/
def labelsText (names values : List String) : List (List Char) := List.zipWith labelText names values

/-- A line with the value of a series. -/
def lineText (name : String) (labels : List (List Char)) (value : List Char) : List Char :=
  name.toList ++ '\x7b' :: (List.intercalate [','] labels ++ '\x7d' :: ' ' :: (value ++ ['\n']))

/-- What announces a family. -/
structure Heading where
  name : String
  help : String
  type : String
  labels : List String

/-- The text of a family: nothing if it has no series. -/
def familyText {α : Type} (h : Heading) (series : List (List Char) → α → List Char) (family : Family α) :
    List Char :=
  if family.isEmpty then []
  else
    "# HELP ".toList ++ h.name.toList ++ ' ' :: h.help.toList ++ '\n' :: "# TYPE ".toList ++ h.name.toList
      ++ ' ' :: h.type.toList ++ '\n' :: family.flatMap fun one => series (labelsText h.labels one.labels) one.value

/-- The lines of a counter. -/
def counterText (name : String) (labels : List (List Char)) (n : Nat) : List Char :=
  lineText name labels (Number.natText n)

/-- The lines of a histogram. -/
def histogramText (name : String) (bounds : List Float) (labels : List (List Char)) (h : Histogram) :
    List Char :=
  let bucket (bound : List Char) (n : Nat) : List Char :=
    lineText (name ++ "_bucket") (labels ++ [labelText "le" (String.ofList bound)]) (Number.natText n)
  (List.zipWith bucket (bounds.map Number.plainText64) (Histogram.cumulative 0 h.buckets)).flatten
    ++ bucket "+Inf".toList h.count ++ lineText (name ++ "_sum") labels (Number.plainText64 h.sum)
    ++ lineText (name ++ "_count") labels (Number.natText h.count)

/-- How durations are announced. -/
def durationHeading : Heading where
  name := "seisgate_durations_histogram_seconds"
  help := "Gateway latency distributions."
  type := "histogram"
  labels := ["cachehit", "path", "status"]

/-- How the numbers of requests are announced. -/
def requestHeading : Heading where
  name := "seisgate_number_of_requests"
  help := "Gateway number of requests."
  type := "counter"
  labels := ["method", "path"]

/-- How sizes are announced. -/
def sizeHeading : Heading where
  name := "seisgate_response_sizes_histogram_bytes"
  help := "Gateway response size distributions."
  type := "histogram"
  labels := ["path", "status"]

/-- The text of all that has been recorded. -/
def Metrics.text (m : Metrics) : List Char :=
  familyText durationHeading (histogramText durationHeading.name durationBounds) m.durations
    ++ familyText requestHeading (counterText requestHeading.name) m.requests
    ++ familyText sizeHeading (histogramText sizeHeading.name sizeBounds) m.sizes

/-- The type of that text. -/
def metricsType : String := "text/plain; version=0.0.4"

end SurveyGateway.Service
