import SurveyGateway.Http.Form
import SurveyGateway.Http.Target
import SurveyGateway.Request.Reading

/-!
# Requests in queries

A request can be made without a body: its document is then the value of the field `query` in the query of the
target.
-/

namespace SurveyGateway

/-- The request that a target carries. -/
def Request.ofTarget (kind : Kind) (target : Http.Target) : Except Failure Request :=
  match Http.Form.values "query" (target.query.getD []) with
  | [] => .error Refusal.noQuery.toFailure
  | [document] =>
    (Request.read kind (Text.utf8 document.toList)).mapError fun c => (Refusal.unreadableQuery c).toFailure
  | _ => .error Refusal.repeatedQuery.toFailure

end SurveyGateway
