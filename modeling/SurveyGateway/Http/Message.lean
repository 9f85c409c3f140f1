import SurveyGateway.Failure
import SurveyGateway.Http.Target
import SurveyGateway.Json.Value
import SurveyGateway.Text.Ascii

/-!
# Requests and responses

What arrives at the gateway, and what leaves it. Failures leave it as a document with their message.
-/

namespace SurveyGateway.Http

/-- A request as it arrives. -/
structure Call where
  method : String
  target : Target
  headers : List (String × String)
  body : List UInt8

/-- A response. Names of headers are in lowercase. -/
structure Response where
  status : Nat
  headers : List (String × String)
  body : List UInt8
  deriving DecidableEq

/-- The value of the first header of a name. -/
def Call.header? (c : Call) (name : String) : Option String :=
  (c.headers.find? fun h => Text.asciiLowercase h.1 == name).map (·.2)

namespace Response

/-- Nothing but a status. -/
def ofStatus (status : Nat) : Response := ⟨status, [], []⟩

/-- A body of some type. -/
def ofBody (status : Nat) (contentType : String) (body : List UInt8) : Response :=
  ⟨status, [("content-type", contentType)], body⟩

/-- A plain text. -/
def ofText (status : Nat) (text : String) : Response :=
  ofBody status "text/plain; charset=utf-8" (Text.utf8 text.toList)

/-- The type of documents. -/
def documentType : String := "application/json"

/-- A document. -/
def ofDocument (status : Nat) (document : Json.Value) : Response :=
  ofBody status documentType document.bytes

/-- The response with a further header. -/
def withHeader (r : Response) (name value : String) : Response :=
  { r with headers := r.headers ++ [(name, value)] }

/-- The value of a header. -/
def header? (r : Response) (name : String) : Option String :=
  (r.headers.find? (·.1 == name)).map (·.2)

end Response

end SurveyGateway.Http

namespace SurveyGateway.Failure

/-- The status that tells who has to act. -/
def status (f : Failure) : Nat :=
  match f.blame with
  | .caller => 400
  | .gateway => 500

/-- The response that tells of a failure. -/
def response (f : Failure) : Http.Response :=
  .ofDocument f.status (.object [("error", .text f.message)])

end SurveyGateway.Failure
