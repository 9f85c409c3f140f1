import SurveyGateway.Number.Conversion

/-!
# Shortest decimals

The decimals that are read back as a given float form an interval around it. `Interval.shortest` is a
decimal of that interval with as few digits as possible: it walks the decimal grids from coarse to fine and
takes the first grid with a point in the interval. On one grid only the two neighbours of the number matter,
since a point of the grid inside the interval has one of them between itself and the number.
-/

namespace SurveyGateway.Number

open Float.Model

/-- The positive number `digits * 10 ^ exponent`. -/
structure Decimal where
  digits : Nat
  exponent : Int
  deriving DecidableEq, Repr

/-- Which of two equally near decimals is taken. -/
inductive Tie where
  /-- The greater one. -/
  | up
  /-- The one with an even last digit. -/
  | toEven
  deriving DecidableEq, Repr

/-- The numbers from `low` to `high`, in units of `2 ^ scale`, that round to the float at `value`. -/
structure Interval where
  low : Nat
  value : Nat
  high : Nat
  scale : Int
  /-- Whether the two ends belong to it. -/
  closed : Bool
  deriving Repr

/-- How `d * 10 ^ k` compares with `x * 2 ^ q`. -/
def compareScaled (d : Nat) (k : Int) (x : Nat) (q : Int) : Ordering :=
  compare ((d * Nat.pow 10 k.toNat) <<< (-q).toNat) ((x * Nat.pow 10 (-k).toNat) <<< q.toNat)

namespace Interval

/-- Whether the decimal is read back as the float of the interval. -/
def contains (i : Interval) (d : Decimal) : Bool :=
  let low := compareScaled d.digits d.exponent i.low i.scale
  let high := compareScaled d.digits d.exponent i.high i.scale
  if i.closed then low != .lt && high != .gt else low == .gt && high == .lt

/-- The greatest point of the grid of step `10 ^ k` that is at most the float. -/
def below (i : Interval) (k : Int) : Nat :=
  ((i.value * Nat.pow 10 (-k).toNat) <<< i.scale.toNat) / (Nat.pow 10 k.toNat <<< (-i.scale).toNat)

/-- Of the neighbours `d` and `d + 1` on the grid of step `10 ^ k`, the one nearer to the float. -/
def nearer (tie : Tie) (i : Interval) (k : Int) (d : Nat) : Nat :=
  match compareScaled (2 * d + 1) k (2 * i.value) i.scale with
  | .gt => d
  | .lt => d + 1
  | .eq =>
    match tie with
    | .up => d + 1
    | .toEven => if d % 2 = 0 then d else d + 1

/-- The point of the grid of step `10 ^ k` that lies in the interval, the nearer one if there are two. -/
def onGrid (tie : Tie) (i : Interval) (k : Int) : Option Decimal :=
  let d := i.below k
  match i.contains ⟨d, k⟩, i.contains ⟨d + 1, k⟩ with
  | true, true => some ⟨i.nearer tie k d, k⟩
  | true, false => some ⟨d, k⟩
  | false, true => some ⟨d + 1, k⟩
  | false, false => none

/-- The float itself, written with as many digits as that takes. -/
def exact (i : Interval) : Decimal :=
  ⟨(i.value * Nat.pow 5 (-i.scale).toNat) <<< i.scale.toNat, min i.scale 0⟩

/-- A power of ten above the float. -/
def magnitude (i : Interval) : Int :=
  (((i.value.log2 : Int) + 1 + i.scale) * 30103) / 100000 + 2

/-- A decimal of the interval with the fewest digits. Seventeen digits tell all floats apart, so the grids
of the first twenty-one powers of ten from `magnitude` down have a point in it. -/
def shortest (tie : Tie) (i : Interval) : Decimal :=
  ((List.range 21).findSome? fun n : Nat => i.onGrid tie (i.magnitude - (n : Int))).getD i.exact

end Interval

/-- The interval of the float `m * 2 ^ e` of format `spec`. The gap below a power of two is half as wide
as the one above it, except where the exponents end. -/
def intervalOf (spec : Format) (m : Nat) (e : Int) : Interval where
  low := if m = 1 <<< spec.mantissaBitsWithoutImplicit ∧ spec.minExponent < e then 4 * m - 1 else 4 * m - 2
  value := 4 * m
  high := 4 * m + 2
  scale := e - 2
  closed := m % 2 = 0

end SurveyGateway.Number
