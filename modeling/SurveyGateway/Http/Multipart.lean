import SurveyGateway.Number.Style
import SurveyGateway.Text.Ascii
import SurveyGateway.Text.Blank
import SurveyGateway.Text.Find
import SurveyGateway.Text.Split
import SurveyGateway.Text.Utf8

/-!
# Bodies of several parts

A body of several parts is written with a boundary ahead of each part and behind the last one. Reading takes a
body apart at its boundary again. What a part holds is left as it is, so it must not hold the boundary behind a
line break.
-/

namespace SurveyGateway.Http

/-- A part of a body. -/
structure Part where
  contentType : String
  content : List UInt8
  deriving DecidableEq

namespace Multipart

/-- A line break. -/
def lineBreak : List UInt8 := [13, 10]

/-- Two dashes. -/
def dashes : List UInt8 := [45, 45]

/-! ### Writing -/

/-- A part behind its boundary. -/
def writePart (boundary : String) (p : Part) : List UInt8 :=
  dashes ++ Text.utf8 boundary.toList ++ lineBreak ++ Text.utf8 ("Content-Type: " ++ p.contentType).toList
    ++ lineBreak ++ lineBreak ++ p.content ++ lineBreak

/-- The body of some parts. -/
def write (boundary : String) (parts : List Part) : List UInt8 :=
  parts.flatMap (writePart boundary) ++ dashes ++ Text.utf8 boundary.toList ++ dashes ++ lineBreak

/-- The type of a body of several parts. -/
def contentType (boundary : String) : String := "multipart/mixed; boundary=" ++ boundary

/-! ### Reading -/

/-- Why a body cannot be taken apart. -/
inductive Fault where
  | noBoundary (contentType : String)
  | noStart
  | unterminatedPart
  | malformedDelimiter
  | unterminatedHeaders
  /-- A piece at `index` of the headers is not UTF-8; it is `length` bytes long, or it is cut off. -/
  | invalidHeaders (index : Nat) (length : Option Nat)
  | noContentType
  deriving DecidableEq

/-- The wording of a fault. -/
def Fault.message : Fault → String
  | noBoundary contentType => "no boundary in '" ++ contentType ++ "'"
  | noStart => "body does not start with the boundary"
  | unterminatedPart => "unterminated part"
  | malformedDelimiter => "malformed delimiter"
  | unterminatedHeaders => "part has no header terminator"
  | invalidHeaders index none =>
    "incomplete utf-8 byte sequence from index " ++ String.ofList (Number.natText index)
  | invalidHeaders index (some length) =>
    "invalid utf-8 sequence of " ++ String.ofList (Number.natText length) ++ " bytes from index "
      ++ String.ofList (Number.natText index)
  | noContentType => "part has no Content-Type"

/-- The boundary that a content type names. -/
def boundary? (contentType : String) : Option (List Char) :=
  (Text.split ';' contentType.toList).findSome? fun parameter =>
    Text.behind? "boundary=".toList (Text.trimmed parameter)

/-- The lines of some headers. -/
def lines : List Char → List (List Char)
  | [] => [[]]
  | '\r' :: '\n' :: cs => [] :: lines cs
  | c :: cs =>
    match lines cs with
    | [] => [[c]]
    | line :: rest => (c :: line) :: rest

/-- The type that a header line names. -/
def typeOfLine? (line : List Char) : Option String :=
  match Text.cut ':' line with
  | (name, some value) =>
    if Text.asciiLowercase (String.ofList (Text.trimmed name)) = "content-type" then
      some (String.ofList (Text.trimmed value))
    else none
  | _ => none

/-- The text of some headers. -/
def headerText (headers : List UInt8) : Except Fault (List Char) :=
  match (Text.pieces headers).mapM id with
  | some cs => .ok cs
  | none =>
    let index := Text.validLength headers
    .error (.invalidHeaders index (Text.faultLength? (headers.drop index)))

/-- A part: headers, an empty line and the content. -/
def readPart (bytes : List UInt8) : Except Fault Part := do
  let some n := Text.find? (lineBreak ++ lineBreak) bytes | throw .unterminatedHeaders
  let headers ← headerText (bytes.take n)
  let some type := (lines headers).findSome? typeOfLine? | throw .noContentType
  return ⟨type, bytes.drop (n + 4)⟩

/-- The parts behind a first boundary. -/
def readParts (delimiter bytes : List UInt8) : Except Fault (List Part) :=
  match Text.find? delimiter bytes with
  | none => .error .unterminatedPart
  | some n =>
    match readPart (bytes.take n) with
    | .error fault => .error fault
    | .ok part =>
      match _h : bytes.drop (n + delimiter.length) with
      | 45 :: 45 :: _ => .ok [part]
      | 13 :: 10 :: rest => (readParts delimiter rest).map (part :: ·)
      | _ => .error .malformedDelimiter
termination_by bytes.length
decreasing_by
  have := congrArg List.length _h
  simp only [List.length_drop, List.length_cons] at this
  omega

/-- The parts of a body. -/
def read (contentType : String) (body : List UInt8) : Except Fault (List Part) :=
  match boundary? contentType with
  | none => .error (.noBoundary contentType)
  | some boundary =>
    let mark := dashes ++ Text.utf8 boundary
    match Text.behind? (mark ++ lineBreak) body with
    | none => .error .noStart
    | some rest => readParts (lineBreak ++ mark) rest

end Multipart

end SurveyGateway.Http
