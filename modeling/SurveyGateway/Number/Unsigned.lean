import SurveyGateway.Text.Hex

/-!
# Reading whole numbers

Numbers in settings and addresses: nothing but digits, below a limit.
-/

namespace SurveyGateway.Number

/-- The value of a digit to some base, in either case. -/
def digit? (base : Nat) (c : Char) : Option Nat :=
  if c.toNat < 128 then (Text.hexValue? c.toNat.toUInt8).filter (· < base) else none

/-- The number that some digits spell, most significant first. -/
def ofDigits (base : Nat) (digits : List Nat) : Nat := digits.foldl (fun n d => base * n + d) 0

/-- The digits at the start of a text, and the rest of it. -/
def readDigits (base : Nat) : List Char → List Nat × List Char
  | [] => ([], [])
  | c :: cs =>
    match digit? base c with
    | none => ([], c :: cs)
    | some d =>
      let (digits, rest) := readDigits base cs
      (d :: digits, rest)

/-- The decimal number below `limit` that a text is, with or without a plus ahead of it. -/
def unsigned? (limit : Nat) (s : String) : Option Nat :=
  let cs := s.toList
  match readDigits 10 (if cs.head? = some '+' then cs.tail else cs) with
  | (d :: ds, []) => some (ofDigits 10 (d :: ds)) |>.filter (· < limit)
  | _ => none

end SurveyGateway.Number
