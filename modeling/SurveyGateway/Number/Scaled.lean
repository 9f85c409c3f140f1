import SurveyGateway.Number.Conversion

/-!
# Scaled significands

How a decimal significand and a power of ten become a 64-bit float: the significand is rounded to a float
and then multiplied or divided by the power, once where the power is a float, else in steps of `10 ^ 308`.
Each step rounds, so the result is not always the nearest float.
-/

namespace SurveyGateway.Number

/-- The float nearest to `10 ^ n`, for `n` up to `308`. -/
def powerOfTen (n : Nat) : Float := .ofScientific 1 false n

/-- `x * 10 ^ -n`, divided by `10 ^ 308` as often as `n` calls for it. -/
def scaleDown (x : Float) (n : Nat) : Float :=
  if n ≤ 308 then x / powerOfTen n
  else if x == 0.0 then x
  else scaleDown (x / powerOfTen 308) (n - 308)
termination_by n

/-- `significand * 10 ^ exponent`; none if that is beyond the range of floats. -/
def scaled? (significand : Nat) (exponent : Int) : Option Float :=
  let x := ofNat significand
  match exponent with
  | .ofNat n =>
    if n ≤ 308 then
      let y := x * powerOfTen n
      if y.isInf then none else some y
    else if x == 0.0 then some x else none
  | .negSucc n => some (scaleDown x (n + 1))

end SurveyGateway.Number
