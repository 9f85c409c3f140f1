import SurveyGateway.Failure
import SurveyGateway.Text.Blank

/-!
# Storage accounts and credentials

Datasets live in storage accounts. Only datasets under an allowed prefix are served, and an account may have a
default credential for callers that bring none.
-/

namespace SurveyGateway

/-- A token that gives access to datasets. It is shown only to the storage engine. -/
structure Credential where
  token : String
  deriving DecidableEq

/-- What is shown of a credential: nothing. -/
def Credential.display (_ : Credential) : String := "Credential([REDACTED])"

/-- Where to read, and as whom. -/
structure Connection where
  dataset : String
  credential : Credential
  deriving DecidableEq

/-- A storage account: the datasets under a prefix. -/
structure Account where
  pathPrefix : String
  defaultCredential : Option Credential
  deriving DecidableEq

/-- Whether a dataset is the prefix itself or lies below it. -/
def Account.contains (a : Account) (dataset : String) : Bool :=
  let start := a.pathPrefix.toList
  start.isPrefixOf dataset.toList
    && match dataset.toList.drop start.length with
      | [] => true
      | c :: _ => c == '/'

/-- The prefix of an account without blanks around it and slashes at its end. -/
def canonicalPrefix (s : String) : String := Text.trimEnd '/' (Text.trim s)

/-- The accounts that are served, in order of first mention. -/
structure Resolver where
  accounts : List Account
  deriving DecidableEq

namespace Resolver

/-- No accounts. -/
def empty : Resolver := ⟨[]⟩

/-- Whether nothing is served. -/
def isEmpty (r : Resolver) : Bool := r.accounts.isEmpty

/-- The prefixes of the accounts. -/
def prefixes (r : Resolver) : List String := r.accounts.map (·.pathPrefix)

/-- Serve the datasets under a prefix. -/
def allow (r : Resolver) (s : String) : Resolver :=
  let start := canonicalPrefix s
  if r.accounts.any (·.pathPrefix == start) then r else ⟨r.accounts ++ [⟨start, none⟩]⟩

/-- The accounts with a default credential for the one of the given prefix. -/
def setDefault (start : String) (credential : Credential) : List Account → List Account
  | [] => [⟨start, some credential⟩]
  | a :: rest =>
    if a.pathPrefix == start then { a with defaultCredential := some credential } :: rest
    else a :: setDefault start credential rest

/-- Serve the datasets under a prefix, and read them with a credential where the caller brings none. -/
def withDefault (r : Resolver) (s : String) (credential : Credential) : Resolver :=
  ⟨setDefault (canonicalPrefix s) credential r.accounts⟩

/-- A caller's token without blanks around it and question marks in front; none if nothing is left. -/
def suppliedToken (token : Option String) : Option String :=
  (token.map fun t => Text.trimStart '?' (Text.trim t)).filter fun t => !t.isEmpty

/-- Where to read a dataset and as whom. The first account that has the dataset decides on its default. -/
def resolve (r : Resolver) (dataset : String) (token : Option String) : Except Refusal Connection :=
  match r.accounts.find? (·.contains dataset) with
  | none => .error (.unsupportedAccount dataset)
  | some account =>
    match suppliedToken token, account.defaultCredential with
    | some t, _ => .ok ⟨dataset, ⟨t⟩⟩
    | none, some credential => .ok ⟨dataset, credential⟩
    | none, none => .error (.noCredentials dataset)

end Resolver

end SurveyGateway
