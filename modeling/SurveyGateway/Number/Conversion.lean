/-!
# Conversion between the two float widths, and whole numbers

Samples travel as 32-bit floats and are computed with as 64-bit floats. `widen` is exact, `narrow` rounds
to the nearest neighbour (a tie goes to the even mantissa), and `floor`, `ceil` and `round` give the whole
number below, above and nearest. All of them are written on the unpacked form of a float (a sign, a mantissa
and an exponent), so that they compute in proofs as well as when run.
-/

namespace SurveyGateway.Number

open Float.Model Float.Model.UnpackedFloat

/-! ### Width -/

/-- The float of format `spec` nearest to `x`; zeros, infinities and NaN stay what they are. -/
def refit (spec : Format) : UnpackedFloat → UnpackedFloat
  | .finite s m e _ => UnpackedFloat.round spec s m e
  | x => x

/-- The same number as a 64-bit float. -/
def widen (x : Float32) : Float :=
  .ofModel (.pack (refit .binary64 x.toModel.unpack))

/-- The nearest 32-bit float; numbers beyond its range become infinities. -/
def narrow (x : Float) : Float32 :=
  .ofModel (.pack (refit .binary32 x.toModel.unpack))

/-! ### Whole numbers -/

/-- The whole number next to `x`. A fractional mantissa is cut to its whole units, and one unit is added
to the magnitude where `outward sign rest unit` says so of the `rest` that was cut off. -/
def toWhole (outward : Sign → Nat → Nat → Bool) : UnpackedFloat → UnpackedFloat
  | .finite s m e h =>
    if 0 ≤ e then .finite s m e h
    else
      let unit := 1 <<< (-e).toNat
      let whole := m / unit + (if outward s (m % unit) unit then 1 else 0)
      if whole = 0 then .zero s else UnpackedFloat.round .binary64 s whole 0
  | x => x

/-- The greatest whole number that is at most `x`. -/
def floor (x : Float) : Float :=
  .ofModel (.pack (toWhole (fun s rest _ => s == .negative && rest != 0) x.toModel.unpack))

/-- The least whole number that is at least `x`. -/
def ceil (x : Float) : Float :=
  .ofModel (.pack (toWhole (fun s rest _ => s == .positive && rest != 0) x.toModel.unpack))

/-- The whole number nearest to `x`; a half goes away from zero. -/
def round (x : Float) : Float :=
  .ofModel (.pack (toWhole (fun _ rest unit => decide (unit ≤ 2 * rest)) x.toModel.unpack))

/-- A count as a 64-bit float. Counts of up to 64 bits are converted as machine words. -/
def ofNat (n : Nat) : Float :=
  if n < 1 <<< 64 then n.toUInt64.toFloat else .ofModel (.ofNat n)

/-- The conversion of words agrees with that of counts. -/
theorem ofNat_eq (n : Nat) : ofNat n = .ofModel (.ofNat n) := by
  unfold ofNat
  split
  · rename_i h
    have hn : n.toUInt64.toNat = n := Nat.mod_eq_of_lt h
    rw [UInt64.toFloat, Float.Model.ofUInt64, UnpackedFloat.ofUInt64, hn]
    rfl
  · rfl

/-- A whole number as a 64-bit float. -/
def ofInt (n : Int) : Float := .ofModel (.ofInt n)

/-- A count as a 32-bit float. -/
def ofNat32 (n : Nat) : Float32 := .ofModel (.ofNat n)

/-- A whole number as a 32-bit float. -/
def ofInt32 (n : Int) : Float32 := .ofModel (.ofInt n)

/-- The whole part of `x` as a count: negative numbers and NaN give `0`, and nothing exceeds 64 bits. -/
def toNat (x : Float) : Nat := x.toUInt64.toNat

/-! ### Comparison -/

/-- The greater of two numbers; a NaN gives way to the other operand. -/
def maximum (a b : Float) : Float :=
  if a.isNaN then b else if a < b then b else a

/-- The lesser of two numbers; a NaN gives way to the other operand. -/
def minimum (a b : Float) : Float :=
  if a.isNaN then b else if b < a then b else a

/-- `x` moved into `[low, high]`; NaN stays NaN. -/
def clamp (x low high : Float) : Float :=
  if x < low then low else if high < x then high else x

/-- Where a float stands in the total order, by its bits: numbers from `-∞` through `-0` and `0` to `∞`, with the NaNs
of either sign at the ends. The bits of a positive float already tell its rank among those. -/
def totalRank (bits : UInt64) : UInt64 :=
  if bits < 0x8000000000000000 then bits ||| 0x8000000000000000 else ~~~bits

end SurveyGateway.Number
