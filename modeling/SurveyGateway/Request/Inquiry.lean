import SurveyGateway.Access.Resolver
import SurveyGateway.Digest.Sha256
import SurveyGateway.Request.Reading
import SurveyGateway.Request.Writing

/-!
# Inquiries and their fingerprints

A request that is in order is split into a connection and a question in canonical form. The fingerprint of
an inquiry is the digest of the canonical document of dataset and question; credentials have no part in it, so
that callers who ask the same share one product.
-/

namespace SurveyGateway

open Json (Value)

/-- A request in order: where to read, as whom, and what to compute. -/
structure Inquiry where
  connection : Connection
  question : Question
  deriving DecidableEq

/-- The inquiry that a request makes. -/
def Request.normalize (resolver : Resolver) (r : Request) : Except Refusal Inquiry := do
  let dataset ← canonicalDataset r.dataset
  r.question.validate
  let connection ← resolver.resolve dataset r.token
  return ⟨connection, r.question.canonical⟩

/-- The digest that products are kept under. -/
structure Fingerprint where
  bytes : List UInt8
  deriving DecidableEq

namespace Fingerprint

/-- The digest of any content. -/
def ofContent (content : List UInt8) : Fingerprint := ⟨Digest.sha256 content⟩

/-- The digits of a fingerprint. -/
def hex (f : Fingerprint) : String := String.ofList (Text.hexText f.bytes)

/-- A fingerprint as messages show it. -/
def display (f : Fingerprint) : String := "CacheKey(" ++ f.hex ++ ")"

end Fingerprint

/-- The canonical document of a question asked of a dataset. -/
def canonicalDocument (dataset : String) (question : Question) : Value :=
  .object [("vds", .text dataset), ("request", question.toValue)]

/-- The fingerprint of a question asked of a dataset. -/
def fingerprint (dataset : String) (question : Question) : Fingerprint :=
  .ofContent (canonicalDocument dataset question).bytes

namespace Inquiry

/-- The dataset that is asked. -/
def dataset (i : Inquiry) : String := i.connection.dataset

/-- The fingerprint of an inquiry. -/
def fingerprint (i : Inquiry) : Fingerprint := SurveyGateway.fingerprint i.dataset i.question

/-- What may be told of an inquiry: all but the credential. -/
def describe (i : Inquiry) : String :=
  String.ofList (Value.object (("vds", .text i.dataset) :: i.question.taggedMembers)).render

end Inquiry

end SurveyGateway
