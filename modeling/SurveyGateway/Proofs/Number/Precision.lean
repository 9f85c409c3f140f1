import SurveyGateway.Proofs.Number.Whole

/-!
# How far rounding goes

The floats next to a number of a middling size are within one part in `2 ^ 52` of it, on both sides. So is what it is
rounded to, however the last place is chosen. Small whole numbers, and the differences between them, are not rounded at
all; and a number less than half a unit away from a whole number is rounded to this one.

## The model

`Adjacent x y` extends `RoundsTo x y` to infinite `x`. `nearestWhole` is the whole number nearest to a real number, a
half going away from zero.

## What is proved

* `exists_value` — a representable number is the value of a float, so that `RoundsTo` is about all of them.
* `RoundsTo.abs_sub_le` — the relative error of rounding.
* `roundsTo_sub`, `roundsTo_mul`, `value_ofInt`, `value_round` — differences, products, integers and nearest whole
  numbers.
-/

namespace SurveyGateway

/-- The whole number nearest to a number. A half goes away from zero, while `round` takes it up. -/
noncomputable def nearestWhole (x : ℝ) : ℤ := if 0 ≤ x then round x else -round (-x)

theorem nearestWhole_eq_floor (x : ℝ) : nearestWhole x = if 0 ≤ x then ⌊x + 1 / 2⌋ else -⌊-x + 1 / 2⌋ := by
  rw [nearestWhole, round_eq, round_eq]

end SurveyGateway

namespace SurveyGateway.Number

open Float.Model Float.Model.UnpackedFloat

variable {spec : Format} {u v : UnpackedFloat} {a b y : Float} {x : ℝ}

/-! ### Floats of given values -/

/-- A representable number that is not too great is the value of a float. -/
theorem exists_value (hx : Representable .binary64 x) (hlt : |x| < 2 ^ (1024 : ℤ)) :
    ∃ z : Float, z.isFinite = true ∧ value z = x := by
  obtain ⟨m, e, -, -, rfl⟩ := id hx
  exact ⟨.ofModel (.pack (UnpackedFloat.normalize .binary64 m e .positive)),
    (rounded_normalize .binary64 m e).value_eq rfl hx hlt⟩

theorem realOf_of_value_eq (ha : a.isFinite = true) (h : value a = x) : realOf a.toModel.unpack = x := by
  rw [value_of_isFinite ha] at h
  exact EReal.coe_injective h

/-- No float lies between a number, which may be infinite, and a float. -/
structure Adjacent (x : EReal) (y : Float) : Prop where
  isNaN : y.isNaN = false
  le_value : ∀ z : Float, z.isNaN = false → value z ≤ x → value z ≤ value y
  value_le : ∀ z : Float, z.isNaN = false → x ≤ value z → value y ≤ value z

theorem RoundsTo.adjacent {x : ℝ} (h : RoundsTo x y) : Adjacent x y := ⟨h.isNaN, h.le_value, h.value_le⟩

/-- A result stays on its side of a representable number. -/
theorem Adjacent.le_of_representable {x : EReal} (h : Adjacent x y) {z : ℝ} (hz : Representable .binary64 z)
    (hlt : |z| < 2 ^ (1024 : ℤ)) : ((z : EReal) ≤ x → (z : EReal) ≤ value y) ∧ (x ≤ z → value y ≤ z) := by
  obtain ⟨w, hfinite, hw⟩ := exists_value hz hlt
  rw [← hw]
  exact ⟨h.le_value w (isNaN_of_isFinite hfinite), h.value_le w (isNaN_of_isFinite hfinite)⟩

theorem RoundsTo.le_of_representable (h : RoundsTo x y) {z : ℝ} (hz : Representable .binary64 z)
    (hlt : |z| < 2 ^ (1024 : ℤ)) : (z ≤ x → (z : EReal) ≤ value y) ∧ (x ≤ z → value y ≤ z) := by
  have hside := h.adjacent.le_of_representable hz hlt
  rw [EReal.coe_le_coe_iff, EReal.coe_le_coe_iff] at hside
  exact hside

/-- A number between two representable ones is rounded to a finite one between them. -/
theorem RoundsTo.exists_between (h : RoundsTo x y) {low high : ℝ} (hlow : Representable .binary64 low)
    (hhigh : Representable .binary64 high) (hlow_lt : |low| < 2 ^ (1024 : ℤ)) (hhigh_lt : |high| < 2 ^ (1024 : ℤ))
    (hle : low ≤ x) (hge : x ≤ high) :
    y.isFinite = true ∧ ∃ r : ℝ, value y = r ∧ realOf y.toModel.unpack = r ∧ low ≤ r ∧ r ≤ high := by
  have habove := (h.le_of_representable hlow hlow_lt).1 hle
  have hbelow := (h.le_of_representable hhigh hhigh_lt).2 hge
  have hfinite : y.isFinite = true := by
    rcases isFinite_or_infinity h.isNaN with hfinite | ⟨s, hs⟩
    · exact hfinite
    · unfold value at habove hbelow
      rw [hs] at habove hbelow
      cases s
      · exact (not_le.mpr (EReal.bot_lt_coe _) habove).elim
      · exact (not_le.mpr (EReal.coe_lt_top _) hbelow).elim
  rw [value_of_isFinite hfinite, EReal.coe_le_coe_iff] at habove hbelow
  exact ⟨hfinite, _, value_of_isFinite hfinite, rfl, habove, hbelow⟩

/-- A representable number is rounded to itself. -/
theorem RoundsTo.value_eq (h : RoundsTo x y) (hx : Representable .binary64 x) (hlt : |x| < 2 ^ (1024 : ℤ)) :
    y.isFinite = true ∧ value y = x := by
  obtain ⟨hfinite, r, hvalue, -, hle, hge⟩ := h.exists_between hx hx hlt hlt le_rfl le_rfl
  rw [hvalue, le_antisymm hge hle]
  exact ⟨hfinite, rfl⟩

/-! ### Relative errors -/

/-- There is room for 53 bits in a number that is not too small, and multiples of the last of them are close to it. -/
theorem exists_neighbours (hx : 2 ^ (-1022 : ℤ) ≤ |x|) :
    ∃ low high, Representable .binary64 low ∧ Representable .binary64 high ∧ low ≤ x ∧ x ≤ high ∧
      high - low ≤ |x| * 2 ^ (-52 : ℤ) := by
  have hpos : 0 < |x| := lt_of_lt_of_le (by positivity) hx
  set k := Int.log 2 |x| with hk
  have hle : (2 : ℝ) ^ k ≤ |x| := Int.zpow_log_le_self (by norm_num) hpos
  have hlt : |x| < (2 : ℝ) ^ (k + 1) := Int.lt_zpow_succ_log_self (by norm_num) _
  have hexponent : -1022 ≤ k := by
    have hlog := Int.log_mono_right (b := 2) (by positivity) hx
    have hself : Int.log 2 ((2 : ℝ) ^ (-1022 : ℤ)) = -1022 := Int.log_zpow (by norm_num) _
    rwa [hself] at hlog
  -- the last of 53 bits
  set unit : ℝ := 2 ^ (k - 52) with hunit
  have hunit_pos : 0 < unit := by positivity
  have hfull : (2 : ℝ) ^ (k + 1) = 2 ^ 53 * unit := by
    rw [hunit, ← zpow_natCast, ← zpow_add₀ (by norm_num)]
    congr 1
    push_cast
    ring
  have hsmall : unit ≤ |x| * 2 ^ (-52 : ℤ) := by
    rw [hunit, zpow_sub₀ (by norm_num), div_eq_mul_inv, ← zpow_neg]
    exact mul_le_mul_of_nonneg_right hle (by positivity)
  have hmin : Format.binary64.minExponent ≤ k - 52 := by
    rw [minExponent_eq]
    simp only [Format.exponentBias]
    omega
  obtain ⟨hleast, hmost⟩ : -(2 : ℝ) ^ 53 < x / unit ∧ x / unit < 2 ^ 53 := by
    rw [← abs_lt, abs_div, abs_of_pos hunit_pos, div_lt_iff₀ hunit_pos, ← hfull]
    exact hlt
  have hfloor : -2 ^ 53 ≤ ⌊x / unit⌋ ∧ ⌊x / unit⌋ < 2 ^ 53 := by
    rw [Int.le_floor, Int.floor_lt]
    exact ⟨le_trans (by norm_num) hleast.le, lt_of_lt_of_le hmost (by norm_num)⟩
  have hbelow : ⌊x / unit⌋ * unit ≤ x := (le_div_iff₀ hunit_pos).mp (Int.floor_le _)
  have habove : x < (⌊x / unit⌋ + 1) * unit := (div_lt_iff₀ hunit_pos).mp (Int.lt_floor_add_one _)
  refine ⟨⌊x / unit⌋ * unit, (⌊x / unit⌋ + 1 : ℤ) * unit, ⟨_, _, ?_, hmin, rfl⟩, ⟨_, _, ?_, hmin, rfl⟩, hbelow, ?_, ?_⟩
  · show |⌊x / unit⌋| ≤ 2 ^ 53
    exact abs_le.mpr ⟨hfloor.1, hfloor.2.le⟩
  · show |⌊x / unit⌋ + 1| ≤ 2 ^ 53
    exact abs_le.mpr ⟨by omega, hfloor.2⟩
  · push_cast
    exact habove.le
  · push_cast
    calc (⌊x / unit⌋ + 1) * unit - ⌊x / unit⌋ * unit = unit := by ring
      _ ≤ |x| * 2 ^ (-52 : ℤ) := hsmall

/-- What a number of a middling size is rounded to is within one part in `2 ^ 52` of it. -/
theorem RoundsTo.abs_sub_le (h : RoundsTo x y) (hx : x = 0 ∨ 2 ^ (-1022 : ℤ) ≤ |x|) (hlt : |x| < 2 ^ (1023 : ℤ)) :
    y.isFinite = true ∧ |realOf y.toModel.unpack - x| ≤ |x| * 2 ^ (-52 : ℤ) := by
  rcases hx with rfl | hx
  · have hzero : |(0 : ℝ)| < 2 ^ (1024 : ℤ) := by
      rw [abs_zero]
      positivity
    obtain ⟨hfinite, r, -, hr, hle, hge⟩ :=
      h.exists_between (representable_zero _) (representable_zero _) hzero hzero le_rfl le_rfl
    rw [hr, le_antisymm hge hle]
    exact ⟨hfinite, by simp⟩
  obtain ⟨low, high, hlow, hhigh, hle, hge, hnear⟩ := exists_neighbours hx
  have hbig : |x| + |x| * 2 ^ (-52 : ℤ) < 2 ^ (1024 : ℤ) := by
    have hdouble : (2 : ℝ) ^ (1024 : ℤ) = 2 ^ (1023 : ℤ) * 2 := by rw [← zpow_add_one₀ (by norm_num)]; norm_num
    have hpart : (2 : ℝ) ^ (-52 : ℤ) < 1 := by norm_num
    calc |x| + |x| * 2 ^ (-52 : ℤ) = |x| * (1 + 2 ^ (-52 : ℤ)) := by ring
      _ < 2 ^ (1023 : ℤ) * 2 := by
        refine mul_lt_mul'' hlt ?_ (abs_nonneg x) (by positivity)
        linarith
      _ = 2 ^ (1024 : ℤ) := hdouble.symm
  have hbound {z : ℝ} (hz : low ≤ z) (hz' : z ≤ high) : |z - x| ≤ |x| * 2 ^ (-52 : ℤ) :=
    abs_le.mpr ⟨by linarith, by linarith⟩
  have hsize {z : ℝ} (hz : low ≤ z) (hz' : z ≤ high) : |z| < 2 ^ (1024 : ℤ) := by
    refine lt_of_le_of_lt ?_ hbig
    calc |z| = |x + (z - x)| := by ring_nf
      _ ≤ |x| + |z - x| := abs_add_le _ _
      _ ≤ |x| + |x| * 2 ^ (-52 : ℤ) := by
        have := hbound hz hz'
        linarith
  obtain ⟨hfinite, r, -, hr, hlow_le, hle_high⟩ := h.exists_between hlow hhigh (hsize le_rfl (hle.trans hge))
    (hsize (hle.trans hge) le_rfl) hle hge
  rw [hr]
  exact ⟨hfinite, hbound hlow_le hle_high⟩

/-! ### Differences and products -/

theorem realOf_neg (u : UnpackedFloat) : realOf u.neg = -realOf u := by
  cases u with
  | finite s m e hm => cases s <;> simp [UnpackedFloat.neg, realOf, Sign.apply]
  | _ => simp [UnpackedFloat.neg, realOf]

/-- The difference of finite floats is rounded from the difference of their values. -/
theorem roundsTo_sub (ha : a.isFinite = true) (hb : b.isFinite = true) :
    RoundsTo (realOf a.toModel.unpack - realOf b.toModel.unpack) (a - b) := by
  have hrounded := rounded_add (fits a) (fits_neg (fits b)) ha (isFinite_neg hb)
  rw [realOf_neg, ← sub_eq_add_neg, ← unpacked_sub] at hrounded
  exact hrounded.roundsTo rfl

/-- The product of two mantissas has all bits of the format, or is cut at the smallest exponent. -/
theorem add_exponent_le {m m' : ℕ} {e e' : ℤ} (hc : Canonical spec m e) (hc' : Canonical spec m' e') :
    e + e' ≤ spec.targetExponent (totalExponent (m * m') (e + e')) := by
  show e + e' ≤ max (_ + 1 + (e + e') - (1 + spec.mantissaBitsWithoutImplicit : ℕ)) spec.minExponent
  have hlog {n : ℕ} (hn : 0 < n) (h : 2 ^ spec.mantissaBitsWithoutImplicit ≤ n) :
      spec.mantissaBitsWithoutImplicit ≤ n.log2 := (Nat.le_log2 hn.ne').mpr h
  have hpos := Nat.mul_pos hc.pos hc'.pos
  have hmin : spec.minExponent ≤ 0 := by
    have := spec.hm
    rw [minExponent_eq]
    omega
  rcases hc.full with he | hfull
  · rcases hc'.full with he' | hfull'
    · exact le_max_of_le_right (by omega)
    · have := hlog hpos (hfull'.trans (Nat.le_mul_of_pos_left _ hc.pos))
      exact le_max_of_le_left (by omega)
  · have := hlog hpos (hfull.trans (Nat.le_mul_of_pos_right _ hc'.pos))
    exact le_max_of_le_left (by omega)

theorem signed_mul (s s' : Sign) (x y : ℝ) : signed s x * signed s' y = signed (s * s') (x * y) := by
  cases s <;> cases s'
  · exact neg_mul_neg x y
  · exact neg_mul x y
  · exact mul_neg x y
  · rfl

theorem rounded_mul (hu : Fits spec u) (hv : Fits spec v) (hfu : u.isFinite = true) (hfv : v.isFinite = true) :
    Rounded spec (realOf u * realOf v) (UnpackedFloat.mul spec u v) := by
  cases u with
  | notANumber | infinity s => cases hfu
  | zero s =>
    cases v with
    | notANumber | infinity s' => cases hfv
    | zero s' | finite s' m' e' h' =>
      rw [realOf_zero, zero_mul]
      exact rounded_self (u := .zero (s * s')) trivial rfl
  | finite s m e h =>
    cases v with
    | notANumber | infinity s' => cases hfv
    | zero s' =>
      rw [realOf_zero, mul_zero]
      exact rounded_self (u := .zero (s * s')) trivial rfl
    | finite s' m' e' h' =>
      have hproduct : (m : ℝ) * 2 ^ e * (m' * 2 ^ e') / 2 ^ (e + e') = (m * m' : ℕ) := by
        rw [zpow_add₀ (by norm_num)]
        push_cast
        field_simp
      rw [realOf_finite, realOf_finite, signed_mul]
      refine rounded_roundWithAccuracy _ ?_ (add_exponent_le hu.1 hv.1)
      rw [hproduct]
      exact cut_exact _

/-- The product of finite floats is rounded from the product of their values. -/
theorem roundsTo_mul (ha : a.isFinite = true) (hb : b.isFinite = true) :
    RoundsTo (realOf a.toModel.unpack * realOf b.toModel.unpack) (a * b) :=
  (rounded_mul (fits a) (fits b) ha hb).roundsTo rfl

/-! ### Magnitudes -/

theorem unpack_abs (a : Float) : a.abs.toModel.unpack = a.toModel.unpack.abs := by
  have hfits := fits a
  have hpack : a.abs.toModel.unpack =
      UnpackedFloat.unpack .binary64 (UnpackedFloat.pack .binary64 a.toModel.unpack.abs) := rfl
  rw [hpack]
  cases h : a.toModel.unpack with
  | notANumber => exact unpack_packedNaN
  | infinity s => exact unpack_packedInfinity .binary64 .positive
  | zero s => exact unpack_packedZero
  | finite s m e hm =>
    rw [h] at hfits
    exact (unpack_pack_finite .positive hfits.1).trans (if_pos hfits.2)

theorem realOf_abs (u : UnpackedFloat) : realOf u.abs = |realOf u| := by
  cases u with
  | finite s m e hm =>
    rw [realOf_finite, abs_signed s (by positivity)]
    exact realOf_positive ..
  | _ => simp [UnpackedFloat.abs, realOf]

/-- The magnitudes of finite floats compare as numbers. -/
theorem abs_lt_iff_of_isFinite (ha : a.isFinite = true) (hb : b.isFinite = true) :
    a.abs < b ↔ |realOf a.toModel.unpack| < realOf b.toModel.unpack := by
  have habs : a.abs.isFinite = true := by
    have ha : a.toModel.unpack.isFinite = true := ha
    show a.abs.toModel.unpack.isFinite = true
    rw [unpack_abs]
    cases h : a.toModel.unpack with
    | notANumber | infinity s => rw [h] at ha; cases ha
    | zero s | finite s m e hm => rfl
  rw [lt_iff, value_of_isFinite habs, value_of_isFinite hb, unpack_abs, realOf_abs, EReal.coe_lt_coe_iff]
  exact ⟨fun h => h.2.2, fun h => ⟨isNaN_of_isFinite habs, isNaN_of_isFinite hb, h⟩⟩

/-- A 32-bit float stands for the same real number in 64 bits. -/
theorem realOf_widen {x : Float32} (hx : x.isFinite = true) :
    realOf (widen x).toModel.unpack = realOf x.toModel.unpack := by
  refine realOf_of_value_eq (isFinite_widen hx) ((value_widen x).2.trans ?_)
  exact valueOf_of_isFinite hx

theorem realOf_widen_eq {x : Float32} {n : ℤ} (h : x.isFinite = true ∧ value32 x = ((n : ℝ) : EReal)) :
    realOf (widen x).toModel.unpack = n :=
  realOf_of_value_eq (isFinite_widen h.1) ((value_widen x).2.trans h.2)

theorem value32_of_unpack {x : Float32} {m : ℕ} {e n : ℤ} (hm : 0 < m)
    (hx : x.toModel.unpack = .finite .positive m e hm) (hn : (m : ℝ) * 2 ^ e = n) :
    x.isFinite = true ∧ value32 x = ((n : ℝ) : EReal) := by
  have hfinite : x.toModel.unpack.isFinite = true := by rw [hx]; rfl
  refine ⟨hfinite, ?_⟩
  rw [value32, valueOf_of_isFinite hfinite, hx, realOf_positive, hn]

/-- No 32-bit float but zero is smaller than the last place of the smallest ones. -/
theorem le_abs_realOf_of_fits32 (hu : Fits .binary32 u) (hne : realOf u ≠ 0) : 2 ^ (-149 : ℤ) ≤ |realOf u| := by
  cases u with
  | finite s m e h =>
    have hexponent : -149 ≤ e := hu.1.le
    have hmantissa : (1 : ℝ) ≤ m := by exact_mod_cast h
    rw [realOf_finite, abs_signed s (by positivity)]
    calc (2 : ℝ) ^ (-149 : ℤ) ≤ 2 ^ e := zpow_le_zpow_right₀ (by norm_num) hexponent
      _ ≤ m * 2 ^ e := le_mul_of_one_le_left (by positivity) hmantissa
  | _ => exact absurd rfl hne

/-! ### Integers -/

/-- Multiples of a unit are representable as long as a mantissa has room for them. -/
theorem representable_units {m e : ℤ} (hm : |m| ≤ 2 ^ 53) (hleast : Format.binary64.minExponent ≤ e) (he : e ≤ 0) :
    Representable .binary64 (m * 2 ^ e) ∧ |(m : ℝ) * 2 ^ e| < 2 ^ (1024 : ℤ) := by
  refine ⟨⟨m, e, hm, hleast, rfl⟩, ?_⟩
  have hmantissa : |(m : ℝ)| ≤ 2 ^ (53 : ℤ) := by exact_mod_cast hm
  have hunit : (0 : ℝ) < 2 ^ e := by positivity
  calc |(m : ℝ) * 2 ^ e| = |(m : ℝ)| * 2 ^ e := by rw [abs_mul, abs_of_pos hunit]
    _ ≤ 2 ^ (53 : ℤ) * 1 := mul_le_mul hmantissa (zpow_le_one_of_nonpos₀ (by norm_num) he) hunit.le (by positivity)
    _ < 2 ^ (1024 : ℤ) := by
      rw [mul_one]
      exact zpow_lt_zpow_right₀ (by norm_num) (by norm_num)

theorem representable_intCast {n : ℤ} (hn : |n| ≤ 2 ^ 53) : Representable .binary64 n ∧ |(n : ℝ)| < 2 ^ (1024 : ℤ) := by
  simpa using representable_units hn (e := 0) (by decide) le_rfl

theorem value_ofInt {n : ℤ} (hn : |n| ≤ 2 ^ 53) : (ofInt n).isFinite = true ∧ value (ofInt n) = ((n : ℝ) : EReal) := by
  have hrounded := rounded_normalize .binary64 n 0
  rw [zpow_zero, mul_one] at hrounded
  obtain ⟨hrepresentable, hlt⟩ := representable_intCast hn
  exact hrounded.value_eq rfl hrepresentable hlt

/-! ### Nearest whole numbers -/

theorem nearestWhole_intCast (n : ℤ) : nearestWhole n = n := by
  have hhalf : ⌊(1 / 2 : ℝ)⌋ = 0 := by norm_num
  rw [nearestWhole_eq_floor]
  split
  · rw [Int.floor_intCast_add, hhalf, add_zero]
  · rw [← Int.cast_neg, Int.floor_intCast_add, hhalf, add_zero, neg_neg]

/-- What is less than half a unit away from a whole number is nearest to it. -/
theorem nearestWhole_eq {n : ℤ} (h : |x - n| < 1 / 2) : nearestWhole x = n := by
  obtain ⟨hlow, hhigh⟩ := abs_lt.mp h
  rw [nearestWhole_eq_floor]
  split
  · rw [Int.floor_eq_iff]
    constructor <;> linarith
  · have hfloor : ⌊-x + 1 / 2⌋ = -n := by
      rw [Int.floor_eq_iff]
      push_cast
      constructor <;> linarith
    rw [hfloor, neg_neg]

/-- No number is more than half a unit away from the nearest whole number. -/
theorem abs_sub_nearestWhole_le (x : ℝ) : |x - nearestWhole x| ≤ 1 / 2 := by
  rw [nearestWhole_eq_floor]
  rw [abs_le]
  split
  · have hle := Int.floor_le (x + 1 / 2)
    have hlt := Int.lt_floor_add_one (x + 1 / 2)
    constructor <;> linarith
  · have hle := Int.floor_le (-x + 1 / 2)
    have hlt := Int.lt_floor_add_one (-x + 1 / 2)
    push_cast
    constructor <;> linarith

/-- The magnitude of a number is cut outward if the rest is half a unit or more. -/
def roundOutward (_ : Sign) (rest unit : ℕ) : Bool := decide (unit ≤ 2 * rest)

theorem nearestWhole_signed (s : Sign) (m : ℕ) {e : ℤ} (he : e < 0) :
    (nearestWhole (signed s (m * 2 ^ e)) : ℝ) = signed s (wholeOf roundOutward s m e) := by
  set d := 2 ^ (-e).toNat with hd
  have hpos : 0 < d := Nat.two_pow_pos _
  have hpos' : (0 : ℝ) < d := by exact_mod_cast hpos
  have hvalue : (m : ℝ) * 2 ^ e = (m / d : ℕ) + (m % d : ℕ) / d := by
    rw [mul_zpow_of_nonpos m he.le, ← hd, natCast_div m hpos]
  have hrest : ((m % d : ℕ) : ℝ) / d < 1 := by
    rw [div_lt_one hpos']
    exact_mod_cast Nat.mod_lt m hpos
  have hnonneg : (0 : ℝ) ≤ (m % d : ℕ) / d := by positivity
  have hhalf : (1 : ℝ) / 2 ≤ (m % d : ℕ) / d ↔ d ≤ 2 * (m % d) := by
    rw [div_le_div_iff₀ (by norm_num) hpos', one_mul]
    exact_mod_cast Iff.of_eq (congrArg (d ≤ ·) (Nat.mul_comm _ _))
  have hfloor : ⌊(m : ℝ) * 2 ^ e + 1 / 2⌋ = (wholeOf roundOutward s m e : ℕ) := by
    have hwhole : wholeOf roundOutward s m e = m / d + if d ≤ 2 * (m % d) then 1 else 0 := by
      simp only [wholeOf, roundOutward, ← hd, decide_eq_true_eq]
    rw [hvalue, hwhole, Int.floor_eq_iff]
    generalize m / d = q
    split
    · next h =>
      have := hhalf.mpr h
      push_cast
      constructor <;> linarith
    · next h =>
      have := not_le.mp (mt hhalf.mp h)
      push_cast
      constructor <;> linarith
  rw [nearestWhole_eq_floor]
  cases s with
  | positive =>
    rw [if_pos (by simp only [signed]; positivity)]
    show (⌊(m : ℝ) * 2 ^ e + 1 / 2⌋ : ℝ) = _
    rw [hfloor, Int.cast_natCast]
    rfl
  | negative =>
    rcases Nat.eq_zero_or_pos m with rfl | hm
    · simp [signed, wholeOf, roundOutward]
      norm_num
    · have hneg : ¬ 0 ≤ signed .negative (m * 2 ^ e) := by
        have : (0 : ℝ) < m * 2 ^ e := by positivity
        simp only [signed]
        linarith
      rw [if_neg hneg]
      simp only [signed, neg_neg, hfloor]
      push_cast
      rfl

/-- The whole number nearest to a number is computed exactly. -/
theorem value_round {a : Float} (ha : a.isFinite = true) :
    (round a).isFinite = true ∧ value (round a) = ((nearestWhole (realOf a.toModel.unpack) : ℝ) : EReal) :=
  value_toWhole nearestWhole_intCast (fun s m _ => nearestWhole_signed s m) ha rfl

end SurveyGateway.Number
