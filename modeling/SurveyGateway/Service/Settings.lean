import SurveyGateway.Access.Resolver
import SurveyGateway.Cache
import SurveyGateway.Number.Unsigned
import SurveyGateway.Service.Address
import SurveyGateway.Text.Ascii
import SurveyGateway.Text.Lowercase
import SurveyGateway.Text.Split

/-!
# Settings

The gateway is set up by variables of its environment. A variable that is not set, or whose text makes no sense,
leaves its setting at the default; only the address to listen on is checked when it is asked for.
-/

namespace SurveyGateway.Service

/-- Where settings are looked up by name. -/
abbrev Variables := String → Option String

/-- How the gateway is set up. -/
structure Settings where
  bindHost : String
  /-- The port as it was written. -/
  port : String
  cacheMegabytes : Nat
  /-- The prefixes of the datasets that are served. -/
  storageAccounts : List String
  defaultCredentials : List (String × Credential)
  /-- The origins that may share responses; none stands for all. -/
  corsOrigins : List String
  corsMaxAge : Nat
  metricsEnabled : Bool
  /-- How many samples may wait to be recorded. -/
  metricsBuffer : Nat
  demoDataset : Option String
  demoCredential : Option Credential

/-- The end of the range of 64-bit numbers. -/
def limit64 : Nat := 1 <<< 64

/-- The items of a list with commas, without blanks around them; empty ones are left out. -/
def items (s : String) : List String :=
  ((Text.split ',' s.toList).map fun item => String.ofList (Text.trimmed item)).filter fun item => !item.isEmpty

/-- A prefix and its credential, which is all that follows the first `=`. -/
def defaultCredential? (pair : List Char) : Option (String × Credential) :=
  let (start, credential) := Text.cut '=' (Text.trimmed pair)
  match Text.trimmed start, credential with
  | [], _ | _, none | _, some [] => none
  | c :: cs, some token => some (String.ofList (c :: cs), ⟨String.ofList token⟩)

/-- The default credentials that a list of pairs gives; what is no pair is left out. -/
def defaultCredentials (s : String) : List (String × Credential) :=
  (Text.split ',' s.toList).filterMap defaultCredential?

namespace Settings

/-- The settings that variables give. -/
def read (env : Variables) : Settings where
  bindHost := (env "SEISGATE_API_BIND").getD "0.0.0.0"
  port := ((env "PORT").or (env "SEISGATE_API_PORT")).getD "8080"
  cacheMegabytes :=
    ((env "SEISGATE_CACHE_SIZE_MB").bind fun s => Number.unsigned? limit64 (Text.trim s)).getD 0
  storageAccounts := ((env "SEISGATE_STORAGE_ACCOUNTS").map items).getD []
  defaultCredentials := ((env "SEISGATE_DEFAULT_CREDENTIALS").map Service.defaultCredentials).getD []
  corsOrigins := ((env "SEISGATE_CORS_ORIGINS").map items).getD []
  corsMaxAge := ((env "SEISGATE_CORS_MAX_AGE_SECS").bind (Number.unsigned? limit64)).getD 86400
  metricsEnabled :=
    ((env "SEISGATE_METRICS_ENABLED").map fun s => Text.lowercase s != "false" && s != "0").getD true
  metricsBuffer :=
    (((env "SEISGATE_METRICS_BUFFER").bind (Number.unsigned? limit64)).filter (0 < ·)).getD 1024
  demoDataset :=
    ((env "SEISGATE_DEMO_DATASET").map canonicalPrefix).filter fun s => !s.isEmpty
  demoCredential :=
    ((env "SEISGATE_DEMO_CREDENTIAL").filter fun s => !s.isEmpty).map Credential.mk

/-- The address to listen on. -/
def address (s : Settings) : Except Refusal Address :=
  match Number.unsigned? 65536 (Text.trim s.port) with
  | none => .error (.invalidPort s.port)
  | some port =>
    match Host.read? s.bindHost with
    | some host => .ok ⟨host, port⟩
    | none => .error (.invalidAddress s.bindHost port)

/-- How many bytes of products are kept. -/
def cacheBudget (s : Settings) : Nat := Cache.budgetOfMegabytes s.cacheMegabytes

/-- The prefixes that are served: the storage accounts, then those with a default credential. -/
def resolver (s : Settings) : Resolver :=
  s.defaultCredentials.foldl (fun r pair => r.withDefault pair.1 pair.2)
    (s.storageAccounts.foldl Resolver.allow .empty)

end Settings

/-! ### What is told of the service -/

/-- The version of the service. -/
def version : String := "0.4.0"

/-- How the service presents itself in its log. -/
structure Telemetry where
  serviceName : String
  serviceVersion : String
  environment : String
  defaultFilter : String
  /-- Whether the log is written as documents. -/
  asDocuments : Bool
  deriving DecidableEq, Repr

/-- The telemetry that variables set up. -/
def Telemetry.read (env : Variables) : Telemetry where
  serviceName := (env "SEISGATE_SERVICE_NAME").getD "seisgate-api"
  serviceVersion := (env "SEISGATE_SERVICE_VERSION").getD version
  environment := (env "SEISGATE_ENVIRONMENT").getD "development"
  defaultFilter := "seisgate_api=debug,info"
  asDocuments := ((env "SEISGATE_LOG_FORMAT").map fun s => Text.asciiLowercase s != "text").getD true

end SurveyGateway.Service
