import SurveyGateway.Proofs.Number.Precision

/-!
# Beyond the finite floats

Operands may be infinite, and results no numbers. As long as one operand is finite, an infinity is treated as what it
stands for: results are next to the exact ones in the extended real numbers. Zero times infinity is no number, though,
and what is computed from no number is none either.

## The model

`notANumber` is the one float that is no number: all results that are none have the same bits here.

## What is proved

* `adjacent_add`, `adjacent_sub`, `adjacent_mul`, `adjacent_div` — operations with one finite operand.
* `value_sub_le_self`, `le_value_add_self` — going down or up by any distance.
* `zero_mul_infinity`, `add_notANumber` and its like — where numbers end.
-/

namespace SurveyGateway.Number

open Float.Model Float.Model.UnpackedFloat

variable {u v : UnpackedFloat} {a b y : Float} {x : EReal}

/-! ### Infinite operands -/

/-- An exact result is adjacent. -/
theorem adjacent_of_value_eq (hy : y.isNaN = false) (h : value y = x) : Adjacent x y := by
  subst h
  exact ⟨hy, fun _ _ => id, fun _ _ => id⟩

theorem Adjacent.nonneg (h : Adjacent x y) (hx : 0 ≤ x) : 0 ≤ value y := by
  rw [← value_zero] at hx ⊢
  exact h.le_value 0.0 (isNaN_of_isFinite isFinite_zero) hx

/-- An infinity of some sign. -/
noncomputable def infinite (s : Sign) : EReal := valueOf (.infinity s)

theorem value_of_infinity {s : Sign} (hy : y.toModel.unpack = .infinity s) : value y = infinite s :=
  congrArg valueOf hy

/-- A result that is an infinity of parts is that infinity. -/
theorem adjacent_infinity {s : Sign} (hx : x = infinite s)
    (hy : y.toModel.unpack = UnpackedFloat.unpack .binary64 (UnpackedFloat.pack .binary64 (.infinity s))) :
    Adjacent x y :=
  adjacent_of_value_eq (isNaN_of_infinity hy)
    ((value_of_infinity (hy.trans (unpack_packedInfinity .binary64 s))).trans hx.symm)

theorem infinite_add_coe (s : Sign) (r : ℝ) : infinite s + (r : EReal) = infinite s := by
  cases s
  · exact EReal.bot_add _
  · exact EReal.top_add_coe r

theorem adjacent_add (ha : a.isNaN = false) (hb : b.isFinite = true) : Adjacent (value a + value b) (a + b) := by
  rw [value_of_isFinite hb]
  rcases isFinite_or_infinity ha with hfinite | ⟨s, hs⟩
  · rw [value_of_isFinite hfinite, ← EReal.coe_add]
    exact (roundsTo_add hfinite hb).adjacent
  · refine adjacent_infinity (s := s) (by rw [value_of_infinity hs, infinite_add_coe]) ?_
    rw [← unpacked_add_infinity s hb, ← hs]
    rfl

theorem adjacent_sub (ha : a.isNaN = false) (hb : b.isFinite = true) : Adjacent (value a - value b) (a - b) := by
  rw [value_of_isFinite hb]
  rcases isFinite_or_infinity ha with hfinite | ⟨s, hs⟩
  · rw [value_of_isFinite hfinite, ← EReal.coe_sub]
    exact (roundsTo_sub hfinite hb).adjacent
  · refine adjacent_infinity (s := s) ?_ ?_
    · rw [value_of_infinity hs, sub_eq_add_neg, ← EReal.coe_neg, infinite_add_coe]
    · rw [← unpacked_add_infinity s (isFinite_neg hb), ← unpacked_sub, ← hs]
      rfl

/-- The parts of a positive number. -/
theorem exists_finite_of_pos (hfu : u.isFinite = true) (hpos : 0 < realOf u) :
    ∃ m e h, u = .finite .positive m e h := by
  cases u with
  | notANumber | infinity s => cases hfu
  | zero s => exact absurd hpos (lt_irrefl _)
  | finite s m e h =>
    cases s with
    | positive => exact ⟨m, e, h, rfl⟩
    | negative =>
      have : (0 : ℝ) < m * 2 ^ e := by positivity
      rw [realOf_negative] at hpos
      linarith

theorem adjacent_mul (ha : a.isNaN = false) (hb : b.isFinite = true) (hpos : 0 < realOf b.toModel.unpack) :
    Adjacent (value a * value b) (a * b) := by
  rw [value_of_isFinite hb]
  rcases isFinite_or_infinity ha with hfinite | ⟨s, hs⟩
  · rw [value_of_isFinite hfinite, ← EReal.coe_mul]
    exact (roundsTo_mul hfinite hb).adjacent
  · refine adjacent_infinity (s := s) ?_ ?_
    · rw [value_of_infinity hs]
      cases s
      · exact EReal.bot_mul_coe_of_pos hpos
      · exact EReal.top_mul_coe_of_pos hpos
    · obtain ⟨m, e, h, hb⟩ := exists_finite_of_pos hb hpos
      have hmul : UnpackedFloat.mul .binary64 a.toModel.unpack b.toModel.unpack = .infinity s := by
        rw [hs, hb]
        cases s <;> rfl
      rw [← hmul]
      rfl

theorem adjacent_div (ha : a.isNaN = false) (hb : b.isFinite = true) (hpos : 0 < realOf b.toModel.unpack) :
    Adjacent (value a / value b) (a / b) := by
  rw [value_of_isFinite hb]
  rcases isFinite_or_infinity ha with hfinite | ⟨s, hs⟩
  · rw [value_of_isFinite hfinite, ← EReal.coe_div]
    exact (roundsTo_div hfinite hb hpos.ne').adjacent
  · refine adjacent_infinity (s := s) ?_ ?_
    · rw [value_of_infinity hs]
      cases s
      · exact EReal.bot_div_of_pos_ne_top (EReal.coe_pos.mpr hpos) (EReal.coe_ne_top _)
      · exact EReal.top_div_of_pos_ne_top (EReal.coe_pos.mpr hpos) (EReal.coe_ne_top _)
    · obtain ⟨m, e, h, hb⟩ := exists_finite_of_pos hb hpos
      have hdiv : UnpackedFloat.div .binary64 a.toModel.unpack b.toModel.unpack = .infinity s := by
        rw [hs, hb]
        cases s <;> rfl
      rw [← hdiv]
      rfl

/-- Infinity goes into no finite number. -/
theorem div_infinity (ha : a.isFinite = true) (hb : b.toModel.unpack = .infinity .positive) :
    a / b = 0.0 ∨ a / b = -0.0 := by
  have ha : a.toModel.unpack.isFinite = true := ha
  have hdiv : a / b = .ofModel (.pack (UnpackedFloat.div .binary64 a.toModel.unpack b.toModel.unpack)) := rfl
  rw [hdiv, hb]
  cases h : a.toModel.unpack with
  | notANumber | infinity s => rw [h] at ha; cases ha
  | zero s | finite s m e hm =>
    cases s
    · exact Or.inr rfl
    · exact Or.inl rfl

theorem lt32_iff {a b : Float32} : a < b ↔ a.isNaN = false ∧ b.isNaN = false ∧ value32 a < value32 b := by
  show decide (a.toModel < b.toModel) = true ↔ _
  rw [decide_eq_true_iff]
  exact unpacked_lt_iff (fits32 a) (fits32 b)

/-- An infinity stays one in 64 bits. -/
theorem unpack_widen_infinity {x : Float32} {s : Sign} (hx : x.toModel.unpack = .infinity s) :
    (widen x).toModel.unpack = .infinity s := by
  have hunpack : (widen x).toModel.unpack =
      UnpackedFloat.unpack .binary64 (UnpackedFloat.pack .binary64 (refit .binary64 x.toModel.unpack)) := rfl
  rw [hunpack, hx]
  exact unpack_packedInfinity .binary64 s

/-! ### Going down and up -/

theorem eq_positive_of_nonneg {s : Sign} (hb : b.toModel.unpack = .infinity s) (hpos : 0 ≤ value b) :
    s = .positive := by
  rw [value_of_infinity hb] at hpos
  cases s
  · exact absurd hpos (not_le.mpr EReal.bot_lt_zero)
  · rfl

/-- An infinity takes in every number but the opposite infinity. -/
theorem unpacked_add_infinity_of_ne {s t : Sign} (hopposite : t ≠ s) (hu : u.isNaN = false) (hne : u ≠ .infinity t) :
    UnpackedFloat.add .binary64 u (.infinity s) = .infinity s := by
  cases u with
  | notANumber => cases hu
  | zero r | finite r m e h => rfl
  | infinity r =>
    have hsame : r = s := by
      cases r <;> cases s <;> cases t <;> first | rfl | exact absurd rfl hopposite | exact absurd rfl hne
    subst hsame
    cases r <;> rfl

/-- No distance below a number, not even an infinite one, is above it. -/
theorem value_sub_le_self (ha : a.isNaN = false) (hb : b.isNaN = false) (hpos : 0 ≤ value b) (htop : value a ≠ ⊤) :
    (a - b).isNaN = false ∧ value (a - b) ≤ value a := by
  rcases isFinite_or_infinity hb with hfinite | ⟨s, hs⟩
  · have hadjacent := adjacent_sub ha hfinite
    have hle : value a - value b ≤ value a := by
      calc value a - value b ≤ value a - 0 := EReal.sub_le_sub le_rfl hpos
        _ = value a := sub_zero _
    exact ⟨hadjacent.isNaN, hadjacent.value_le a ha hle⟩
  · obtain rfl := eq_positive_of_nonneg hs hpos
    have hne : a.toModel.unpack ≠ .infinity .positive := fun h => htop (value_of_infinity h)
    have hsub : UnpackedFloat.sub .binary64 a.toModel.unpack b.toModel.unpack = .infinity .negative := by
      rw [hs, unpacked_sub]
      exact unpacked_add_infinity_of_ne (s := .negative) (t := .positive) nofun ha hne
    have hadjacent : Adjacent ⊥ (a - b) := by
      refine adjacent_infinity (s := .negative) rfl ?_
      rw [← hsub]
      rfl
    exact ⟨hadjacent.isNaN, hadjacent.value_le a ha bot_le⟩

/-- No distance above a number, not even an infinite one, is below it. -/
theorem le_value_add_self (ha : a.isNaN = false) (hb : b.isNaN = false) (hpos : 0 ≤ value b) (hbot : value a ≠ ⊥) :
    (a + b).isNaN = false ∧ value a ≤ value (a + b) := by
  rcases isFinite_or_infinity hb with hfinite | ⟨s, hs⟩
  · have hadjacent := adjacent_add ha hfinite
    exact ⟨hadjacent.isNaN, hadjacent.le_value a ha (le_add_of_nonneg_right hpos)⟩
  · obtain rfl := eq_positive_of_nonneg hs hpos
    have hne : a.toModel.unpack ≠ .infinity .negative := fun h => hbot (value_of_infinity h)
    have hadd : UnpackedFloat.add .binary64 a.toModel.unpack b.toModel.unpack = .infinity .positive := by
      rw [hs]
      exact unpacked_add_infinity_of_ne (t := .negative) nofun ha hne
    have hadjacent : Adjacent ⊤ (a + b) := by
      refine adjacent_infinity (s := .positive) rfl ?_
      rw [← hadd]
      rfl
    exact ⟨hadjacent.isNaN, hadjacent.le_value a ha le_top⟩

/-! ### No numbers -/

/-- The float that is no number. -/
def notANumber : Float := .ofModel (.pack .notANumber)

theorem unpack_notANumber : notANumber.toModel.unpack = .notANumber := unpack_packedNaN

theorem isNaN_notANumber : notANumber.isNaN = true := congrArg UnpackedFloat.isNaN unpack_notANumber

/-- Zero times infinity is no number. -/
theorem zero_mul_infinity {s : Sign} (hb : b.toModel.unpack = .infinity s) : 0.0 * b = notANumber := by
  show Float.ofModel (.pack (UnpackedFloat.mul .binary64 (.zero .positive) b.toModel.unpack)) = _
  rw [hb]
  rfl

theorem add_notANumber (a : Float) : a + notANumber = notANumber := by
  show Float.ofModel (.pack (UnpackedFloat.add .binary64 a.toModel.unpack notANumber.toModel.unpack)) = _
  rw [unpack_notANumber]
  cases a.toModel.unpack <;> rfl

theorem notANumber_sub (a : Float) : notANumber - a = notANumber := by
  show Float.ofModel (.pack (UnpackedFloat.sub .binary64 notANumber.toModel.unpack a.toModel.unpack)) = _
  rw [unpack_notANumber]
  rfl

theorem sub_notANumber (a : Float) : a - notANumber = notANumber := by
  show Float.ofModel (.pack (UnpackedFloat.sub .binary64 a.toModel.unpack notANumber.toModel.unpack)) = _
  rw [unpack_notANumber]
  cases a.toModel.unpack <;> rfl

theorem mul_notANumber (a : Float) : a * notANumber = notANumber := by
  show Float.ofModel (.pack (UnpackedFloat.mul .binary64 a.toModel.unpack notANumber.toModel.unpack)) = _
  rw [unpack_notANumber]
  cases a.toModel.unpack <;> rfl

theorem notANumber_div (a : Float) : notANumber / a = notANumber := by
  show Float.ofModel (.pack (UnpackedFloat.div .binary64 notANumber.toModel.unpack a.toModel.unpack)) = _
  rw [unpack_notANumber]
  rfl

/-- What is no number is not less than anything. -/
theorem not_notANumber_lt (a : Float) : ¬ notANumber < a := fun h =>
  Bool.false_ne_true ((lt_iff.mp h).1.symm.trans isNaN_notANumber)

/-- What is no number is not greater than anything. -/
theorem not_lt_notANumber (a : Float) : ¬ a < notANumber := fun h =>
  Bool.false_ne_true ((lt_iff.mp h).2.1.symm.trans isNaN_notANumber)

theorem clamp_notANumber (low high : Float) : clamp notANumber low high = notANumber := by
  unfold clamp
  rw [if_neg (not_notANumber_lt _), if_neg (not_lt_notANumber _)]

theorem toNat_notANumber : toNat notANumber = 0 := toNat_eq_zero (value_of_isNaN isNaN_notANumber).le

end SurveyGateway.Number
