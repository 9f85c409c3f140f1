/-!
# Finding a sequence in a sequence
-/

namespace SurveyGateway.Text

variable {α : Type} [BEq α]

/-- Where `needle` first occurs in `xs`, whose first element is at position `i`. -/
def findFrom (needle : List α) (i : Nat) : List α → Option Nat
  | [] => if needle.isEmpty then some i else none
  | x :: xs => if needle.isPrefixOf (x :: xs) then some i else findFrom needle (i + 1) xs

/-- Where `needle` first occurs in `xs`. -/
def find? (needle xs : List α) : Option Nat := findFrom needle 0 xs

/-- What follows `start` at the start of `xs`. -/
def behind? (start xs : List α) : Option (List α) :=
  if start.isPrefixOf xs then some (xs.drop start.length) else none

end SurveyGateway.Text
