import SurveyGateway.Http.Query
import SurveyGateway.Http.Sharing
import SurveyGateway.Service.Delivery
import SurveyGateway.Service.Metrics
import SurveyGateway.Service.Settings

/-!
# The server

Every path has an endpoint, which answers to some methods. Products are asked for with a document in the query or
in the body. Around the endpoints responses are recorded, and say who may see them; a request that asks for that in
advance reaches no endpoint.
-/

namespace SurveyGateway.Service

open Http (Call Response SharingPolicy)
open Json (Value)
open Storage (Engine)

/-! ### Endpoints -/

/-- What a path leads to. -/
inductive Endpoint where
  | liveness
  | ping
  | readiness
  | product (kind : Kind)
  | metrics
  deriving DecidableEq

namespace Endpoint

/-- The endpoint of a path; that of the metrics only if there are any. -/
def ofPath? (withMetrics : Bool) (path : String) : Option Endpoint :=
  match path with
  | "/" => some liveness
  | "/health/live" => some liveness
  | "/health/ping" => some ping
  | "/health/ready" => some readiness
  | "/metadata" => some (product .metadata)
  | "/slice" => some (product .slice)
  | "/fence" => some (product .fence)
  | "/attributes/surface/along" => some (product .along)
  | "/attributes/surface/between" => some (product .between)
  | "/metrics" => if withMetrics then some metrics else none
  | _ => none

/-- The methods of an endpoint. -/
def methods : Endpoint → List String
  | product _ => ["GET", "HEAD", "POST"]
  | _ => ["GET", "HEAD"]

end Endpoint

/-! ### Health -/

/-- What is told of the health of the service. -/
def livenessValue : Value :=
  .object [("status", .text "healthy"), ("message", .text "Process is alive")]

/-- What is told of its cache besides. -/
def readinessValue (c : Cache) (uptime : Nat) : Value :=
  .object [("status", .text "healthy"), ("details", .object [
    ("cache", .object [
      ("enabled", .boolean c.enabled), ("entries", .integer c.entries.length),
      ("memory_bytes", .integer c.entries.weight), ("capacity_bytes", .integer c.budget),
      ("hits", .integer c.hits), ("misses", .integer c.misses), ("evictions", .integer c.evictions),
      ("hit_rate", .float64 c.hitRate)]),
    ("version", .text version), ("uptime_seconds", .integer uptime)])]

/-! ### Requests -/

/-- The most bytes that a body may have. -/
def bodyLimit : Nat := 1 <<< 21

/-- The response to a body that is too long. -/
def tooLong : Response := .ofText 413 "Failed to buffer the request body: length limit exceeded"

/-- The request of some kind that a call makes, or the response to a call that makes none. -/
def requestOf (kind : Kind) (c : Call) : Except Response Request :=
  if c.method = "POST" then
    if bodyLimit < c.body.length then .error tooLong
    else (Request.ofBody kind c.body).mapError Failure.response
  else (Request.ofTarget kind c.target).mapError Failure.response

/-! ### The server -/

/-- What does not change while the server runs. -/
structure Setup (σ κ η : Type) where
  engine : Engine σ κ η
  resolver : Resolver
  policy : SharingPolicy

/-- What does. -/
structure Server (σ : Type) where
  shared : Shared σ
  /-- What has been recorded, if anything is. -/
  metrics : Option Metrics

/-- What the surroundings of the server bring to one response. -/
structure Circumstances where
  /-- The boundary of its parts. -/
  boundary : String
  /-- How many seconds the server has been running. -/
  uptime : Nat
  /-- How many seconds the response takes. -/
  duration : Float

/-- A server set up by settings around a storage engine. -/
def Setup.ofSettings {σ κ η : Type} (engine : Engine σ κ η) (s : Settings) : Setup σ κ η where
  engine := engine
  resolver := s.resolver
  policy := .allowing s.corsOrigins s.corsMaxAge

/-- The server that settings ask for. -/
def Server.ofSettings {σ : Type} (storage : σ) (s : Settings) : Server σ where
  shared := ⟨storage, .ofBudget s.cacheBudget, 0⟩
  metrics := if s.metricsEnabled then some .empty else none

namespace Server

variable {σ κ η : Type}

/-- A response, and whether it delivers a product that was stored before. -/
structure Reply where
  response : Response
  cacheHit : Bool

/-- A response that delivers no product. -/
def Reply.plain (r : Response) : Reply := ⟨r, false⟩

/-- The reply with a product, and the server after it. -/
def replyProduct (setup : Setup σ κ η) (boundary : String) (s : Server σ) (kind : Kind) (c : Call) :
    Reply × Server σ :=
  match requestOf kind c with
  | .error r => (.plain r, s)
  | .ok request =>
    let (outcome, shared) := s.shared.serve setup.engine setup.resolver request
    (match outcome with
      | .error f => .plain f.response
      | .ok served => {
          response := if kind = .metadata then served.metadataResponse else served.partsResponse boundary
          cacheHit := served.stored },
      { s with shared })

/-- The reply of an endpoint to one of its methods. -/
def replyOf (setup : Setup σ κ η) (now : Circumstances) (s : Server σ) (e : Endpoint) (c : Call) :
    Reply × Server σ :=
  match e with
  | .liveness => (.plain (.ofDocument 200 livenessValue), s)
  | .ping => (.plain (.ofText 200 "pong"), s)
  | .readiness => (.plain (.ofDocument 200 (readinessValue s.shared.cache now.uptime)), s)
  | .metrics => (.plain (.ofBody 200 metricsType (Text.utf8 (s.metrics.getD .empty).text)), s)
  | .product kind => replyProduct setup now.boundary s kind c

/-- The endpoint that a call names. -/
def endpoint? (s : Server σ) (c : Call) : Option Endpoint :=
  Endpoint.ofPath? s.metrics.isSome c.target.pathText

/-- The reply to a call that reaches its endpoint. -/
def reply (setup : Setup σ κ η) (now : Circumstances) (s : Server σ) (c : Call) : Reply × Server σ :=
  match s.endpoint? c with
  | none => (.plain (.ofStatus 404), s)
  | some e => if c.method ∈ e.methods then replyOf setup now s e c else (.plain (.ofStatus 405), s)

/-- The sample that a reply leaves. -/
def sampleOf (now : Circumstances) (c : Call) (r : Reply) : Sample where
  method := c.method
  path := c.target.pathText
  status := r.response.status
  size := r.response.body.length
  cacheHit := r.cacheHit
  duration := now.duration

/-- The server with one more sample recorded. -/
def record (s : Server σ) (sample : Sample) : Server σ :=
  { s with metrics := s.metrics.map (·.record sample) }

/-- The header with the methods of an endpoint, where a method is none of them. -/
def allowHeader (e : Option Endpoint) (method : String) : List (String × String) :=
  match e with
  | none => []
  | some e => if method ∈ e.methods then [] else [("allow", String.intercalate "," e.methods)]

/-- A response as it is sent: with its length, and without its body where only the headers were asked for. -/
def sent (e : Option Endpoint) (method : String) (r : Response) : Response where
  status := r.status
  headers := r.headers ++ allowHeader e method
    ++ [("content-length", String.ofList (Number.natText r.body.length))]
  body := if method = "HEAD" then [] else r.body

/-- The response to a call, and the server after it. -/
def respond (setup : Setup σ κ η) (now : Circumstances) (s : Server σ) (c : Call) : Response × Server σ :=
  let e := s.endpoint? c
  if SharingPolicy.isPreflight c then (sent e c.method (setup.policy.preflight c), s)
  else
    let (r, s) := s.reply setup now c
    (sent e c.method (setup.policy.share c r.response), s.record (sampleOf now c r))

end Server

end SurveyGateway.Service
