import SurveyGateway.Json.Cursor
import SurveyGateway.Number.Scaled
import SurveyGateway.Text.Utf8

/-!
# Tokens of a document

Readers for texts, numbers and words, and `skipValue`, which passes over a value that nobody asked for.
A reader takes a cursor and gives what it read together with the cursor behind it, or the first complaint.
-/

namespace SurveyGateway.Json

/-- A step through a document that gives a value or complains. -/
abbrev Reader := StateT Cursor (Except Complaint)

namespace Reader

/-- The cursor itself. -/
def cursor : Reader Cursor := get

/-- Complain at the place reached. -/
def complainHere {α : Type} (issue : Issue) : Reader α :=
  fun c => .error ⟨issue, c.place⟩

/-- Complain of the byte ahead, at the place behind it. -/
def complainAhead {α : Type} (issue : Issue) : Reader α :=
  fun c => .error ⟨issue, c.next.place⟩

/-- Pass over one byte. -/
def advance : Reader Unit := modify Cursor.next

/-- Pass over blanks and look at the byte ahead. -/
def peekToken : Reader (Option UInt8) :=
  fun c => let c := c.afterBlanks; .ok (c.peek?, c)

end Reader

open Reader

/-! ### Texts -/

/-- Where the reading of a text stands. -/
inductive TextState where
  /-- Between characters. -/
  | plain
  /-- Behind a backslash. -/
  | escape
  /-- Within the four digits of a numbered escape; `high` is the first half of a pair read before. -/
  | digits (read : List UInt8) (high : Option Nat)
  /-- Behind the first half of a pair, where the second one has to start. -/
  | pair (high : Nat)
  /-- Behind the backslash of the second half of a pair. -/
  | pairEscape (high : Nat)
  deriving DecidableEq

/-- The number of four hexadecimal digits. -/
def fourDigits? (ds : List UInt8) : Option Nat :=
  ds.foldl (fun n d => do return 16 * (← n) + (← Text.hexValue? d)) (some 0)

/-- The bytes of the character with number `n`. -/
def codePointBytes (n : Nat) : List UInt8 := String.utf8EncodeChar (Char.ofNat n)

/-- The byte that a letter behind a backslash stands for. -/
def escapedByte? (b : UInt8) : Option UInt8 :=
  if b = 34 ∨ b = 92 ∨ b = 47 then some b
  else if b = 98 then some 8
  else if b = 102 then some 12
  else if b = 110 then some 10
  else if b = 114 then some 13
  else if b = 116 then some 9
  else none

/-- What the numbered escape `n` gives, behind the first half `high` of a pair if there is one. -/
def numbered (n : Nat) (high : Option Nat) : Except Issue (TextState × List UInt8) :=
  match high with
  | none =>
    if 0xdc00 ≤ n ∧ n ≤ 0xdfff then .error .loneSurrogate
    else if 0xd800 ≤ n ∧ n ≤ 0xdbff then .ok (.pair n, [])
    else .ok (.plain, codePointBytes n)
  | some high =>
    if 0xdc00 ≤ n ∧ n ≤ 0xdfff then
      .ok (.plain, codePointBytes (0x10000 + (high - 0xd800) * 0x400 + (n - 0xdc00)))
    else .error .loneSurrogate

/-- One byte of a text, other than the closing quote: the next state and the bytes it adds. -/
def TextState.step (s : TextState) (b : UInt8) : Except Issue (TextState × List UInt8) :=
  match s with
  | .plain =>
    if b = 92 then .ok (.escape, [])
    else if b < 32 then .error .controlCharacter
    else .ok (.plain, [b])
  | .escape =>
    if b = 117 then .ok (.digits [] none, [])
    else
      match escapedByte? b with
      | some e => .ok (.plain, [e])
      | none => .error .badEscape
  | .digits read high =>
    if read.length < 3 then .ok (.digits (read ++ [b]) high, [])
    else
      match fourDigits? (read ++ [b]) with
      | some n => numbered n high
      | none => .error .badEscape
  | .pair high => if b = 92 then .ok (.pairEscape high, []) else .error .unpairedSurrogate
  | .pairEscape high => if b = 117 then .ok (.digits [] (some high), []) else .error .unpairedSurrogate

/-- The bytes of a text up to its closing quote, put in front of `read`, last byte first. -/
def textBytes (s : TextState) (read : List UInt8) : List UInt8 → Place → Except Complaint (List UInt8 × Cursor)
  | [], place => .error ⟨.endInText, place⟩
  | b :: bs, place =>
    if s = .plain ∧ b = 34 then .ok (read.reverse, ⟨bs, place.after b⟩)
    else
      match s.step b with
      | .error issue => .error ⟨issue, place.after b⟩
      | .ok (s, added) => textBytes s (added.reverse ++ read) bs (place.after b)

/-- The place where a text that ends ahead of `behind` is reported as not being UTF-8: as many bytes back as the
text has from its first faulty byte on. Where escapes follow, which are longer than what they stand for, that is
later than the faulty byte. A text never spans lines. -/
def faultPlace (bytes : List UInt8) (behind : Place) : Place :=
  { behind with column := behind.column - (bytes.length - Text.validLength bytes) }

/-- A text, from behind its opening quote. It has to be UTF-8. -/
def textBody : Reader String := fun c => do
  let (bytes, behind) ← textBytes .plain [] c.rest c.place
  match String.fromUTF8? ⟨bytes.toArray⟩ with
  | some s => .ok (s, behind)
  | none => .error ⟨.badCodePoint, faultPlace bytes behind.place⟩

/-- Pass over a text from behind its opening quote. Its escapes have to be well formed, its characters are
not looked at. `digits` counts the digits of a numbered escape still to come. -/
def skipTextBytes (escaped : Bool) (digits : Nat) (bad : Bool) :
    List UInt8 → Place → Except Complaint (Unit × Cursor)
  | [], place => .error ⟨.endInText, place⟩
  | b :: bs, place =>
    match digits with
    | n + 1 =>
      let bad := bad || (Text.hexValue? b).isNone
      if n = 0 ∧ bad then .error ⟨.badEscape, place.after b⟩
      else skipTextBytes false n bad bs (place.after b)
    | 0 =>
      if escaped then
        if b = 117 then skipTextBytes false 4 false bs (place.after b)
        else if (escapedByte? b).isSome then skipTextBytes false 0 false bs (place.after b)
        else .error ⟨.badEscape, place.after b⟩
      else if b = 34 then .ok ((), ⟨bs, place.after b⟩)
      else if b = 92 then skipTextBytes true 0 false bs (place.after b)
      else if b < 32 then .error ⟨.controlCharacter, place⟩
      else skipTextBytes false 0 false bs (place.after b)

/-- Pass over a text from behind its opening quote. -/
def skipText : Reader Unit := fun c => skipTextBytes false 0 false c.rest c.place

/-! ### Numbers -/

/-- A number as a document writes it. -/
inductive Numeral where
  | integer (n : Int)
  | float (x : Float)

/-- Whether `b` is a decimal digit. -/
def isDigit (b : UInt8) : Bool := 48 ≤ b && b ≤ 57

/-- The digits ahead. -/
def digitRun : Reader (List UInt8) := fun c => .ok (Cursor.span isDigit c.rest c.place)

/-- A significand with one digit more, as long as it fits into 64 bits. -/
def pushDigit? (significand : Nat) (digit : UInt8) : Option Nat :=
  let n := 10 * significand + (digit.toNat - 48)
  if n < 1 <<< 64 then some n else none

/-- The digits of a whole part: the significand they give, and how many were left out because it was full. -/
def wholeDigits (significand : Nat) : List UInt8 → Nat × Nat
  | [] => (significand, 0)
  | d :: ds =>
    match pushDigit? significand d with
    | some n => wholeDigits n ds
    | none => (significand, ds.length + 1)

/-- The digits of a fraction behind `significand`: what they make of it, and how many of them count. -/
def fractionDigits (significand : Nat) : List UInt8 → Nat × Nat
  | [] => (significand, 0)
  | d :: ds =>
    match pushDigit? significand d with
    | some n => let (n, count) := fractionDigits n ds; (n, count + 1)
    | none => (significand, 0)

/-- The float of a sign, a significand and a power of ten. -/
def floatOf (positive : Bool) (significand : Nat) (exponent : Int) : Reader Numeral :=
  match Number.scaled? significand exponent with
  | some x => return .float (if positive then x else -x)
  | none => complainHere .numberOutOfRange

/-- The digits of an exponent behind `read`. None if it exceeds 32 bits, in which case the cursor stands
behind the digit that made it so. -/
def exponentDigits (read : Nat) : List UInt8 → Place → Option Nat × Cursor
  | [], place => (some read, ⟨[], place⟩)
  | b :: bs, place =>
    if isDigit b then
      let n := 10 * read + (b.toNat - 48)
      if n < 1 <<< 31 then exponentDigits n bs (place.after b) else (none, ⟨bs, place.after b⟩)
    else (some read, ⟨b :: bs, place⟩)

/-- The rest of a number, from its exponent mark on. -/
def exponentPart (positive : Bool) (significand : Nat) (shift : Int) : Reader Numeral := do
  advance
  let sign := (← cursor).peek?
  if sign = some 43 ∨ sign = some 45 then advance
  match (← cursor).peek? with
  | none => complainHere .endInValue
  | some b =>
    unless isDigit b do complainAhead .badNumber
    let (exponent, c) := exponentDigits 0 (← cursor).rest (← cursor).place
    set c
    match exponent with
    | some n => floatOf positive significand (if sign = some 45 then shift - n else shift + n)
    | none =>
      if significand ≠ 0 ∧ sign ≠ some 45 then complainHere .numberOutOfRange
      let _ ← digitRun
      return .float (if positive then 0.0 else -0.0)

/-- The rest of a number, from its decimal point on; `dropped` digits of the whole part were left out. -/
def fractionPart (positive : Bool) (significand : Nat) (dropped : Nat) : Reader Numeral := do
  advance
  let digits ← digitRun
  let next := (← cursor).peek?
  if digits.isEmpty then
    if next.isSome then complainAhead .badNumber else complainHere .endInValue
  let (significand, count) := fractionDigits significand digits
  let shift := (dropped : Int) - count
  if next = some 101 ∨ next = some 69 then exponentPart positive significand shift
  else floatOf positive significand shift

/-- The number that a whole part alone stands for. Negative zero and what exceeds 64 bits are floats. -/
def wholeNumber (positive : Bool) (significand : Nat) : Numeral :=
  if positive then .integer significand
  else if significand = 0 ∨ 1 <<< 63 < significand then .float (-(Number.ofNat significand))
  else .integer (-(significand : Int))

/-- A number, from behind its minus if it has one. -/
def numberBody (positive : Bool) : Reader Numeral := do
  match (← cursor).peek? with
  | none => complainHere .endInValue
  | some first =>
    unless isDigit first do complainAhead .badNumber
    let (significand, dropped) ←
      if first = 48 then do
        advance
        if (← cursor).peek?.any isDigit then complainAhead .badNumber
        pure (0, 0)
      else do
        let digits ← digitRun
        pure (wholeDigits 0 digits)
    let next := (← cursor).peek?
    if next = some 46 then fractionPart positive significand dropped
    else if next = some 101 ∨ next = some 69 then exponentPart positive significand dropped
    else if dropped = 0 then return wholeNumber positive significand
    else floatOf positive significand dropped

/-- A number. -/
def number : Reader Numeral := do
  if (← cursor).peek? = some 45 then
    advance
    numberBody false
  else numberBody true

/-- Pass over a number, from behind its minus if it has one. Its size is not looked at. -/
def skipNumber : Reader Unit := do
  let first := (← cursor).peek?
  unless first.any isDigit do
    if first.isSome then complainAhead .badNumber else complainHere .badNumber
  if first = some 48 then
    advance
    if (← cursor).peek?.any isDigit then complainAhead .badNumber
  else
    let _ ← digitRun
  if (← cursor).peek? = some 46 then
    advance
    let digits ← digitRun
    if digits.isEmpty then complainAhead .badNumber
  if (← cursor).peek?.any fun b => b == 101 || b == 69 then
    advance
    if (← cursor).peek?.any fun b => b == 43 || b == 45 then advance
    unless (← cursor).peek?.any isDigit do complainAhead .badNumber
    let _ ← digitRun

/-! ### Words and other values -/

/-- Pass over the given bytes. -/
def word (expected : List UInt8) : Reader Unit :=
  expected.forM fun b => do
    match (← cursor).peek? with
    | none => complainHere .endInValue
    | some found =>
      advance
      unless found = b do complainHere .wordExpected

/-- The rest of `null`, `true` and `false` behind their first letter. -/
def wordTail? (first : UInt8) : Option (List UInt8) :=
  if first = 110 then some [117, 108, 108]
  else if first = 116 then some [114, 117, 101]
  else if first = 102 then some [97, 108, 115, 101]
  else none

/-- The two kinds of bracket. -/
inductive Bracket where
  | list
  | object
  deriving DecidableEq

/-- The closing byte. -/
def Bracket.closing : Bracket → UInt8
  | .list => 93
  | .object => 125

/-- The key and the colon of a member. -/
def skipKey : Reader Unit := do
  match ← peekToken with
  | some 34 =>
    advance
    skipText
  | some _ => complainAhead .keyExpected
  | none => complainAhead .endInObject
  match ← peekToken with
  | some 58 => advance
  | some _ => complainAhead .colonExpected
  | none => complainAhead .endInObject

/-- The end of the document inside a bracket. -/
def Bracket.endIssue : Bracket → Issue
  | .list => .endInList
  | .object => .endInObject

/-- Something other than a comma or the closing byte behind a value inside a bracket. -/
def Bracket.separatorIssue : Bracket → Issue
  | .list => .listSeparatorExpected
  | .object => .objectSeparatorExpected

/-- The bracket that a byte opens. -/
def bracketOf? (b : UInt8) : Option Bracket :=
  if b = 91 then some .list else if b = 123 then some .object else none

/-- Pass over an opening byte, and over the closing byte or the first key if it is next; whether a value
follows. -/
def skipOpening (bracket : Bracket) : Reader Bool := do
  advance
  match ← peekToken with
  | none => complainAhead bracket.endIssue
  | some b =>
    if b = bracket.closing then
      advance
      return false
    else
      if bracket = .object then skipKey
      return true

/-- Pass over the closing bytes behind a value inside some brackets, innermost first, up to the next value: the
brackets that are left. -/
def skipClosing : List Bracket → Reader (List Bracket)
  | [] => return []
  | bracket :: outer => do
    match ← peekToken with
    | none => complainAhead bracket.endIssue
    | some b =>
      if b = bracket.closing then
        advance
        skipClosing outer
      else
        unless b = 44 do complainAhead bracket.separatorIssue
        advance
        if bracket = .object then skipKey
        return bracket :: outer

/-- Pass over a word, a number or a text whose first byte is `b`. -/
def skipScalar (b : UInt8) : Reader Unit := do
  if let some tail := wordTail? b then
    advance
    word tail
  else if b = 45 then
    advance
    skipNumber
  else if isDigit b then skipNumber
  else if b = 34 then
    advance
    skipText
  else complainAhead .valueExpected

/-- Pass over a value inside some brackets, and over what follows it there. Each step passes at least one byte, so
the bytes ahead, `fuel`, are enough of them: where there are none, there is no value. -/
def skipFrom (fuel : List UInt8) (opened : List Bracket) : Reader Unit :=
  match fuel with
  | [] => complainAhead .endInValue
  | _ :: fuel => do
    match ← peekToken with
    | none => complainAhead .endInValue
    | some b =>
      match bracketOf? b with
      | none =>
        skipScalar b
        let opened ← skipClosing opened
        unless opened.isEmpty do skipFrom fuel opened
      | some bracket =>
        if ← skipOpening bracket then skipFrom fuel (bracket :: opened)
        else
          let opened ← skipClosing opened
          unless opened.isEmpty do skipFrom fuel opened

/-- Pass over a value. -/
def skipValue : Reader Unit := do
  skipFrom (← cursor).rest []

end SurveyGateway.Json
