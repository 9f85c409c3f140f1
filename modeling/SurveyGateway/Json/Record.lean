import SurveyGateway.Json.Token

/-!
# Typed values of a document

Readers for the values that requests are made of: texts, 32-bit numbers, lists, and records. A record is
read from an object, whose members may stand in any order among others that are passed over, or from a list
of its members in order. What has another type is reported with the type that was expected.
-/

namespace SurveyGateway.Json

open Reader

/-- Complain that the value ahead is not what was expected. -/
def mismatch {α : Type} (expected : String) : Reader α := do
  match (← cursor).peek? with
  | some 34 =>
    advance
    let s ← textBody
    complainHere (.mismatch (.text s) expected)
  | some 91 => complainHere (.mismatch .sequence expected)
  | some 123 => complainHere (.mismatch .map expected)
  | some b =>
    if let some tail := wordTail? b then
      advance
      word tail
      complainHere (.mismatch (if b = 110 then .null else .boolean (b == 116)) expected)
    else if b = 45 ∨ isDigit b then
      match ← number with
      | .integer n => complainHere (.mismatch (.integer n) expected)
      | .float x => complainHere (.mismatch (.float x) expected)
    else complainAhead .valueExpected
  | none => complainAhead .valueExpected

/-- The first byte of a value, behind blanks. -/
def valueStart : Reader UInt8 := do
  match ← peekToken with
  | some b => return b
  | none => complainAhead .endInValue

/-- A text. -/
def text : Reader String := do
  if (← valueStart) = 34 then
    advance
    textBody
  else mismatch "a string"

/-- A number that starts with a digit or a minus. -/
def numeral (expected : String) : Reader Numeral := do
  let b ← valueStart
  if b = 45 ∨ isDigit b then number else mismatch expected

/-- A whole number of 32 bits. -/
def int32 : Reader Int := do
  match ← numeral "i32" with
  | .float x => complainHere (.mismatch (.float x) "i32")
  | .integer n => if -2147483648 ≤ n ∧ n ≤ 2147483647 then return n else complainHere (.beyond32 n)

/-- A 32-bit float; any number is rounded to one. -/
def float32 : Reader Float32 := do
  match ← numeral "f32" with
  | .float x => return Number.narrow x
  | .integer n => return Number.ofInt32 n

/-- A value or `null`. -/
def optional {α : Type} (value : Reader α) : Reader (Option α) := do
  if (← peekToken) = some 110 then
    advance
    word [117, 108, 108]
    return none
  else return some (← value)

/-! ### Lists -/

/-- Whether another item of a list follows; the closing bracket is left alone. -/
def nextItem (first : Bool) : Reader Bool := do
  match ← peekToken with
  | none => complainAhead .endInList
  | some 93 => return false
  | some b =>
    if first then return true
    else if b = 44 then
      advance
      match ← peekToken with
      | none => complainAhead .endInValue
      | some 93 => complainAhead .trailingComma
      | some _ => return true
    else complainAhead .listSeparatorExpected

/-- The items of a list behind those already read, last one first. Each item takes at least one byte, so the bytes
ahead, `fuel`, are enough of them: where there are none, the list has no end. -/
def items {α : Type} (item : Reader α) (fuel : List UInt8) (read : List α) : Reader (List α) :=
  match fuel with
  | [] => complainAhead .endInList
  | _ :: fuel => do
    if ← nextItem read.isEmpty then
      let x ← item
      items item fuel (x :: read)
    else return read.reverse

/-- A list. -/
def list {α : Type} (item : Reader α) : Reader (List α) := do
  if (← valueStart) = 91 then
    advance
    let xs ← items item (← cursor).rest []
    advance
    return xs
  else mismatch "a sequence"

/-! ### Records -/

/-- A member of a record that is gathered in drafts of type `δ`. -/
structure Member (δ : Type) where
  name : String
  /-- Reads the member's value into a draft. -/
  read : δ → Reader δ
  /-- Whether a draft has the member. -/
  isPresent : δ → Bool
  /-- Whether the record can do without it. -/
  isOptional : Bool

/-- A record: its name, its members in order, and its drafts, of which the empty one starts the reading and
a complete one gives the value. -/
structure Record (α δ : Type) where
  name : String
  members : List (Member δ)
  empty : δ
  value? : δ → Option α

/-- Pass over the end of an object or list if it is next: complaints that concern the whole record are
placed behind it. -/
def closeEarly (closing : UInt8) : Reader Unit := do
  if (← peekToken) = some closing then advance

/-- Whether another member of an object follows; the closing brace is left alone. -/
def nextMember (first : Bool) : Reader Bool := do
  match ← peekToken with
  | none => complainAhead .endInObject
  | some 125 => return false
  | some b =>
    if first then
      if b = 34 then return true else complainAhead .keyExpected
    else if b = 44 then
      advance
      match ← peekToken with
      | none => complainAhead .endInValue
      | some 34 => return true
      | some 125 => complainAhead .trailingComma
      | some _ => complainAhead .keyExpected
    else complainAhead .objectSeparatorExpected

/-- The colon between a name and its value. -/
def colon : Reader Unit := do
  match ← peekToken with
  | some 58 => advance
  | some _ => complainAhead .colonExpected
  | none => complainAhead .endInObject

/-- The members of an object. Each takes at least one byte, so the bytes ahead, `fuel`, are enough of them: where
there are none, the object has no end. -/
def objectMembers {δ : Type} (members : List (Member δ)) (fuel : List UInt8) (first : Bool) (draft : δ) :
    Reader δ :=
  match fuel with
  | [] => complainAhead .endInObject
  | _ :: fuel => do
    if ← nextMember first then
      advance
      let name ← textBody
      match members.find? (·.name == name) with
      | none =>
        colon
        skipValue
        objectMembers members fuel false draft
      | some member =>
        if member.isPresent draft then
          closeEarly 125
          complainHere (.repeatedMember name)
        colon
        let draft ← member.read draft
        objectMembers members fuel false draft
    else return draft

/-- The members of a record given as a list. Members at the end that the record can do without may be left
out. -/
def listMembers {δ : Type} (expected : String) (index : Nat) : List (Member δ) → δ → Reader δ
  | [], draft => return draft
  | member :: members, draft => do
    if ← nextItem (index == 0) then
      let draft ← member.read draft
      listMembers expected (index + 1) members draft
    else if member.isOptional then listMembers expected (index + 1) members draft
    else
      closeEarly 93
      complainHere (.tooShort index expected)

/-- The end of a list whose members have all been read. -/
def closeList : Reader Unit := do
  match ← peekToken with
  | some 93 => advance
  | some 44 =>
    advance
    if (← peekToken) = some 93 then complainAhead .trailingComma else complainAhead .trailingCharacters
  | some _ => complainAhead .trailingCharacters
  | none => complainAhead .endInList

/-- The value of a draft, or a complaint about the first member it lacks. -/
def Record.finish {α δ : Type} (r : Record α δ) (draft : δ) : Reader α := do
  match r.value? draft with
  | some x => return x
  | none =>
    let missing := r.members.find? fun m => !m.isOptional && !m.isPresent draft
    complainHere (.missingMember ((missing.map (·.name)).getD ""))

/-- A record. -/
def record {α δ : Type} (r : Record α δ) : Reader α := do
  match ← valueStart with
  | 123 =>
    advance
    let draft ← objectMembers r.members (← cursor).rest true r.empty
    advance
    r.finish draft
  | 91 =>
    advance
    let expected := "struct " ++ r.name ++ " with " ++ String.ofList (Number.natText r.members.length)
      ++ (if r.members.length = 1 then " element" else " elements")
    let draft ← listMembers expected 0 r.members r.empty
    closeList
    r.finish draft
  | _ => mismatch ("struct " ++ r.name)

/-- A document that holds one value and nothing behind it. -/
def document {α : Type} (value : Reader α) (bytes : List UInt8) : Except Complaint α := do
  let (x, c) ← value (.start bytes)
  let c := c.afterBlanks
  if c.rest.isEmpty then return x else .error ⟨.trailingCharacters, c.next.place⟩

end SurveyGateway.Json
