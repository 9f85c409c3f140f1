import SurveyGateway.Text.Split
import SurveyGateway.Text.Utf8

/-!
# Request targets

A target names a resource by its path, and may carry a query behind a question mark. A fragment is no part of
it, and a scheme and an authority ahead of the path are left out.
-/

namespace SurveyGateway.Http

/-- The path and the query of a request. -/
structure Target where
  path : List UInt8
  query : Option (List UInt8)
  deriving DecidableEq

namespace Target

/-- The bytes with a meaning in a target. -/
def slash : UInt8 := 47
def questionMark : UInt8 := 63
def numberSign : UInt8 := 35
def colon : UInt8 := 58

/-- The target of a path and a query; no path is the path of the root. -/
def ofPathAndQuery (bytes : List UInt8) : Target :=
  let (path, query) := Text.cut questionMark (Text.cut numberSign bytes).1
  ⟨if path.isEmpty then [slash] else path, query⟩

/-- What lies behind a scheme and its two slashes. -/
def behindScheme? (bytes : List UInt8) : Option (List UInt8) :=
  match (Text.cut colon bytes).2 with
  | some (a :: b :: rest) => if a = slash ∧ b = slash then some rest else none
  | _ => none

/-- The target that some bytes spell: a path, or a whole locator. Anything else names an authority only, and
has neither path nor query. -/
def read (bytes : List UInt8) : Target :=
  if bytes.head? = some slash ∨ bytes = [42] then ofPathAndQuery bytes
  else
    match behindScheme? bytes with
    | some rest => ofPathAndQuery (rest.dropWhile fun b => b ≠ slash ∧ b ≠ questionMark ∧ b ≠ numberSign)
    | none => ⟨[], none⟩

/-- The path as text. -/
def pathText (t : Target) : String := Text.lossyText t.path

end Target

end SurveyGateway.Http
