/-!
# ASCII letters
-/

namespace SurveyGateway.Text

/-- The text with its ASCII letters in lowercase; other letters keep their case. -/
def asciiLowercase (s : String) : String := String.ofList (s.toList.map Char.toLower)

end SurveyGateway.Text
