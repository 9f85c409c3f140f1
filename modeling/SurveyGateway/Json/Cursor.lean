import SurveyGateway.Number.Style
import SurveyGateway.Text.Quoted

/-!
# Places in a document, and what can be wrong there

A document is read byte by byte. A `Cursor` is what is left to read and the place it starts at; a
`Complaint` is an issue at a place. Lines count from one, columns count the bytes read on the line.
-/

namespace SurveyGateway.Json

/-! ### Places -/

/-- A place in a document. -/
structure Place where
  line : Nat
  column : Nat
  deriving DecidableEq, Repr

/-- The place behind the byte `b`. -/
def Place.after (p : Place) (b : UInt8) : Place :=
  if b = 10 then ⟨p.line + 1, 0⟩ else ⟨p.line, p.column + 1⟩

/-- What is left of a document, and where it starts. -/
structure Cursor where
  rest : List UInt8
  place : Place
  deriving DecidableEq, Repr

namespace Cursor

/-- The start of a document. -/
def start (bytes : List UInt8) : Cursor := ⟨bytes, ⟨1, 0⟩⟩

/-- The byte at the cursor; none at the end. -/
def peek? (c : Cursor) : Option UInt8 := c.rest.head?

/-- The cursor behind one more byte, if there is one. -/
def next (c : Cursor) : Cursor :=
  match c.rest with
  | [] => c
  | b :: bs => ⟨bs, c.place.after b⟩

/-- Whether `b` separates tokens. -/
def isSpace (b : UInt8) : Bool := b == 32 || b == 10 || b == 9 || b == 13

/-- The cursor behind the bytes that satisfy `p`, beside those bytes. -/
def span (p : UInt8 → Bool) : List UInt8 → Place → List UInt8 × Cursor
  | [], place => ([], ⟨[], place⟩)
  | b :: bs, place =>
    if p b then
      let (taken, c) := span p bs (place.after b)
      (b :: taken, c)
    else ([], ⟨b :: bs, place⟩)

/-- The cursor behind blanks. -/
def afterBlanks (c : Cursor) : Cursor := go c.rest c.place
where
  go : List UInt8 → Place → Cursor
  | [], place => ⟨[], place⟩
  | b :: bs, place => if isSpace b then go bs (place.after b) else ⟨b :: bs, place⟩

end Cursor

/-! ### Issues -/

/-- What a document holds where something else was expected. -/
inductive Found where
  | null
  | boolean (b : Bool)
  | integer (n : Int)
  | float (x : Float)
  | text (s : String)
  | sequence
  | map
  deriving DecidableEq

/-- What can be wrong with a document. -/
inductive Issue where
  | endInList
  | endInObject
  | endInText
  | endInValue
  | colonExpected
  | listSeparatorExpected
  | objectSeparatorExpected
  | wordExpected
  | valueExpected
  | badEscape
  | badNumber
  | numberOutOfRange
  | badCodePoint
  | controlCharacter
  | keyExpected
  | loneSurrogate
  | trailingComma
  | trailingCharacters
  | unpairedSurrogate
  /-- A value of another type than the expected one. -/
  | mismatch (found : Found) (expected : String)
  /-- A whole number beyond 32 bits. -/
  | beyond32 (n : Int)
  /-- A list in place of a record that ends after `count` members. -/
  | tooShort (count : Nat) (expected : String)
  | missingMember (name : String)
  | repeatedMember (name : String)
  deriving DecidableEq

/-- An issue and its place. -/
structure Complaint where
  issue : Issue
  place : Place
  deriving DecidableEq

/-- Numbers go as they would in a document, texts go quoted. -/
def Found.describe : Found → List Char
  | .null => "null".toList
  | .boolean b => "boolean `".toList ++ (if b then "true`" else "false`").toList
  | .integer n => "integer `".toList ++ Number.intText n ++ ['\x60']
  | .float x => "floating point `".toList ++ (Number.documentText64? x).getD [] ++ ['\x60']
  | .text s => "string ".toList ++ Text.quoted s
  | .sequence => "sequence".toList
  | .map => "map".toList

/-- The wording of an issue. -/
def Issue.message : Issue → List Char
  | .endInList => "EOF while parsing a list".toList
  | .endInObject => "EOF while parsing an object".toList
  | .endInText => "EOF while parsing a string".toList
  | .endInValue => "EOF while parsing a value".toList
  | .colonExpected => "expected `:`".toList
  | .listSeparatorExpected => "expected `,` or `]`".toList
  | .objectSeparatorExpected => "expected `,` or `\x7d`".toList
  | .wordExpected => "expected ident".toList
  | .valueExpected => "expected value".toList
  | .badEscape => "invalid escape".toList
  | .badNumber => "invalid number".toList
  | .numberOutOfRange => "number out of range".toList
  | .badCodePoint => "invalid unicode code point".toList
  | .controlCharacter => "control character (\\u0000-\\u001F) found while parsing a string".toList
  | .keyExpected => "key must be a string".toList
  | .loneSurrogate => "lone leading surrogate in hex escape".toList
  | .trailingComma => "trailing comma".toList
  | .trailingCharacters => "trailing characters".toList
  | .unpairedSurrogate => "unexpected end of hex escape".toList
  | .mismatch found expected => "invalid type: ".toList ++ found.describe ++ ", expected ".toList ++ expected.toList
  | .beyond32 n => "invalid value: integer `".toList ++ Number.intText n ++ "`, expected i32".toList
  | .tooShort count expected =>
    "invalid length ".toList ++ Number.natText count ++ ", expected ".toList ++ expected.toList
  | .missingMember name => "missing field `".toList ++ name.toList ++ ['\x60']
  | .repeatedMember name => "duplicate field `".toList ++ name.toList ++ ['\x60']

/-- The issue, then its place. -/
def Complaint.message (c : Complaint) : String :=
  String.ofList (c.issue.message ++ " at line ".toList ++ Number.natText c.place.line ++ " column ".toList
    ++ Number.natText c.place.column)

end SurveyGateway.Json
