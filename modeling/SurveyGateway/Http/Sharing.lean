import SurveyGateway.Http.Message

/-!
# Sharing responses between origins

A browser shows a response to pages of other origins only if the response says so, and asks in advance with the
method `OPTIONS`. The policy allows either every origin or those that are listed.
-/

namespace SurveyGateway.Http

/-- Who may see responses, and how long the permission may be remembered. -/
structure SharingPolicy where
  /-- The origins that may; none stands for every one. -/
  origins : Option (List String)
  maxAge : Nat

/-- Whether a text can be the value of a header: without control characters other than a tab. -/
def isHeaderValue (s : String) : Bool :=
  s.toList.all fun c => (32 ≤ c.toNat && c.toNat != 127) || c == '\t'

namespace SharingPolicy

/-- The policy that allows some origins, or all if none is named. What cannot be the value of a header is no
origin. -/
def allowing (origins : List String) (maxAge : Nat) : SharingPolicy where
  origins := if origins.isEmpty then none else some (origins.filter isHeaderValue)
  maxAge := maxAge

/-- The origin that is told it may see a response. -/
def allowedOrigin? (p : SharingPolicy) (origin : Option String) : Option String :=
  match p.origins with
  | none => some "*"
  | some origins => origin.filter origins.contains

/-- What every response says. -/
def commonHeaders (p : SharingPolicy) (c : Call) : List (String × String) :=
  ((p.allowedOrigin? (c.header? "origin")).map fun origin => ("access-control-allow-origin", origin)).toList
    ++ [("vary", "origin, access-control-request-method, access-control-request-headers")]

/-- Whether a request asks in advance. -/
def isPreflight (c : Call) : Bool := c.method == "OPTIONS"

/-- The answer to a request that asks in advance. -/
def preflight (p : SharingPolicy) (c : Call) : Response where
  status := 200
  headers := p.commonHeaders c ++ [
    ("access-control-allow-methods", "GET,POST,OPTIONS"),
    ("access-control-allow-headers", "content-type,accept"),
    ("access-control-max-age", String.ofList (Number.natText p.maxAge))]
  body := []

/-- A response with what it says about sharing. -/
def share (p : SharingPolicy) (c : Call) (r : Response) : Response :=
  { r with headers := r.headers ++ p.commonHeaders c ++ [("access-control-expose-headers", "x-cache")] }

end SharingPolicy

end SurveyGateway.Http
