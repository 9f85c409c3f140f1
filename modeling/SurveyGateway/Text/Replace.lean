/-!
# Replacing a text in a text
-/

namespace SurveyGateway.Text

/-- `cs` with `new` in place of every occurrence of `old`, from left to right; occurrences do not overlap.
The first `skip` characters belong to an occurrence already replaced. -/
def replaceFrom (old new : List Char) (skip : Nat) : List Char → List Char
  | [] => []
  | c :: cs =>
    match skip with
    | skip + 1 => replaceFrom old new skip cs
    | 0 =>
      if old.isPrefixOf (c :: cs) then new ++ replaceFrom old new (old.length - 1) cs
      else c :: replaceFrom old new 0 cs

/-- The text with `new` in place of every occurrence of `old`, which must not be empty. -/
def replaceAll (old new s : String) : String :=
  String.ofList (replaceFrom old.toList new.toList 0 s.toList)

end SurveyGateway.Text
