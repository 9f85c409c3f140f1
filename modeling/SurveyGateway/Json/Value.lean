import SurveyGateway.Number.Style
import SurveyGateway.Text.Hex
import SurveyGateway.Text.Utf8

/-!
# Documents as trees, and their text

What the gateway writes is a `Value`; `Value.render` is its one compact text, with members in order and no
blanks between tokens.
-/

namespace SurveyGateway.Json

/-- A document. -/
inductive Value where
  | null
  | boolean (b : Bool)
  | integer (n : Int)
  | float32 (x : Float32)
  | float64 (x : Float)
  | text (s : String)
  | list (items : List Value)
  | object (members : List (String × Value))

/-- A character inside a text. Controls are escaped, by letter where there is one. -/
def escapedChar (c : Char) : List Char :=
  if c = '"' then ['\\', '"']
  else if c = '\\' then ['\\', '\\']
  else if c = '\x08' then ['\\', 'b']
  else if c = '\t' then ['\\', 't']
  else if c = '\n' then ['\\', 'n']
  else if c = '\x0c' then ['\\', 'f']
  else if c = '\r' then ['\\', 'r']
  else if c.toNat < 32 then
    ['\\', 'u', '0', '0', Text.hexDigit (c.toNat / 16), Text.hexDigit (c.toNat % 16)]
  else [c]

/-- A text between quotes. -/
def textText (s : String) : List Char := '"' :: (s.toList.flatMap escapedChar ++ ['"'])

/-- The text of a number, or `null` where there is none. -/
def orNull (text : Option (List Char)) : List Char := text.getD ['n', 'u', 'l', 'l']

namespace Value

mutual

/-- The text of a document. -/
def render : Value → List Char
  | .null => ['n', 'u', 'l', 'l']
  | .boolean b => if b then ['t', 'r', 'u', 'e'] else ['f', 'a', 'l', 's', 'e']
  | .integer n => Number.intText n
  | .float32 x => orNull (Number.documentText32? x)
  | .float64 x => orNull (Number.documentText64? x)
  | .text s => textText s
  | .list [] => ['[', ']']
  | .list (x :: xs) => '[' :: (x.render ++ renderItems xs)
  | .object [] => ['\x7b', '\x7d']
  | .object ((name, x) :: members) =>
    '\x7b' :: (textText name ++ ':' :: (x.render ++ renderMembers members))

/-- The items behind the first one, and the end of the list. -/
def renderItems : List Value → List Char
  | [] => [']']
  | x :: xs => ',' :: (x.render ++ renderItems xs)

/-- The members behind the first one, and the end of the object. -/
def renderMembers : List (String × Value) → List Char
  | [] => ['\x7d']
  | (name, x) :: members => ',' :: (textText name ++ ':' :: (x.render ++ renderMembers members))

end

/-- The bytes of a document. -/
def bytes (v : Value) : List UInt8 := Text.utf8 v.render

/-- A list of texts. -/
def texts (ss : List String) : Value := .list (ss.map .text)

/-- A list of 32-bit floats. -/
def floats32 (xs : List Float32) : Value := .list (xs.map .float32)

end Value

end SurveyGateway.Json
