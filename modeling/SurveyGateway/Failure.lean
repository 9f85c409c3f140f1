import SurveyGateway.Json.Cursor
import SurveyGateway.Text.Replace

/-!
# Failures

A request fails for one of two reasons: it cannot be answered as it was asked, which its caller can mend, or
the gateway and its storage could not answer it. A `Refusal` is a cause of the first kind. A `Failure` is what
the caller is told: who has to act, and a message.
-/

namespace SurveyGateway

/-- Who has to act on a failure. -/
inductive Blame where
  | caller
  | gateway
  deriving DecidableEq, Repr

/-- What a caller is told of a request that failed. -/
structure Failure where
  blame : Blame
  message : String
  deriving DecidableEq, Repr

namespace Failure

/-- The failure without any occurrence of `secret` that its message quoted. -/
def redact (secret : String) (f : Failure) : Failure :=
  if secret.isEmpty then f else { f with message := Text.replaceAll secret "<redacted>" f.message }

end Failure

/-! ### Refusals -/

/-- Why a request cannot be answered as it was asked. -/
inductive Refusal where
  /-- The document is not one of the expected kind. -/
  | unreadable (complaint : Json.Complaint)
  /-- The query of the target holds no document. -/
  | noQuery
  /-- The query of the target holds more than one document. -/
  | repeatedQuery
  /-- The document in the query of the target is not one of the expected kind. -/
  | unreadableQuery (complaint : Json.Complaint)
  | emptyMember (name : String)
  /-- The locator carries a query, which would be a credential. -/
  | signedLocator
  | noCoordinates
  | noRows
  | emptyRow
  /-- Row `row` has `count` values where the first one has `first`. -/
  | raggedRow (first row count : Nat)
  | extentOutOfRange (name : String) (extent : Float32)
  | stepsizeOutOfRange (stepsize : Float32)
  /-- The coordinate at `position` is not a pair. -/
  | notAPair (values : List Float32) (position : Nat)
  /-- A token that is not in the vocabulary announced by `heading`. -/
  | unknownToken (heading token : String) (options : List String)
  | noAttributes
  | unsupportedAccount (locator : String)
  | noCredentials (locator : String)
  | invalidPort (text : String)
  | invalidAddress (host : String) (port : Nat)
  deriving DecidableEq

namespace Refusal

/-- The upper end of a window's extent, which it must stay below. -/
def extentLimit : Float32 := 250

/-- The wording of a refusal. -/
def message : Refusal → String
  | unreadable complaint => complaint.message
  | noQuery => "GET request to specified endpoint requires a 'query' parameter"
  | repeatedQuery => "Failed to deserialize query string: duplicate field `query`"
  | unreadableQuery complaint =>
    "Please ensure that the supplied query is valid and conforms to the expected request schema: "
      ++ complaint.message
  | emptyMember name => "Field '" ++ name ++ "' must not be empty"
  | signedLocator => "Signed urls are not supported, pass the token in 'sas'"
  | noCoordinates => "Field 'coordinates' must contain at least one coordinate"
  | noRows => "Surface must have at least one row"
  | emptyRow => "Surface rows must have at least one element"
  | raggedRow first row count =>
    String.ofList ("Surface rows are not of the same length. Row 0 has ".toList ++ Number.natText first
      ++ " elements. Row ".toList ++ Number.natText row ++ " has ".toList ++ Number.natText count
      ++ " elements".toList)
  | extentOutOfRange name extent =>
    String.ofList ('\'' :: name.toList ++ "' out of range! Must be within [0, ".toList
      ++ Number.plainText32 extentLimit ++ "], was ".toList ++ Number.plainText32 extent)
  | stepsizeOutOfRange stepsize =>
    String.ofList ("'stepsize' out of range! Must be bigger than 0, was ".toList
      ++ Number.plainText32 stepsize)
  | notAPair values position =>
    String.ofList ("invalid coordinate [".toList
      ++ (List.intersperse [' '] (values.map Number.plainText32)).flatten
      ++ "] at position ".toList ++ Number.natText position ++ ", expected [x y] pair".toList)
  | unknownToken heading token options =>
    heading ++ " '" ++ token ++ "', valid options are: " ++ String.intercalate ", " options
  | noAttributes => "at least one attribute must be requested"
  | unsupportedAccount locator => "Unsupported storage account: " ++ locator
  | noCredentials locator => "No credentials provided for " ++ locator
  | invalidPort text => "Invalid port value: " ++ text
  | invalidAddress host port =>
    String.ofList ("Invalid bind address ".toList ++ host.toList ++ ':' :: Number.natText port
      ++ ": invalid socket address syntax".toList)

/-- The failure that a refusal is reported as. -/
def toFailure (r : Refusal) : Failure := ⟨.caller, r.message⟩

end Refusal

end SurveyGateway
