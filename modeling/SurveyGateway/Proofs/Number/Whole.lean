import SurveyGateway.Proofs.Number.Arithmetic

/-!
# Whole numbers next to floats

A number is at most a count if the whole number above it is, and a count is at most a number if it is at most the whole
number below. Infinities are included here, so that positions on an axis can be compared with its indices wherever they
come from, as long as they are numbers.

## The model

`IsWhole` says of a value that it is an integer or an infinity.

## What is proved

* `isNaN_add`, `isNaN_sub`, `isNaN_div` — what is a number again, if one operand is finite.
* `value_ceil_le_iff`, `le_value_floor_iff` — rounding up and down does not change the comparison with integers.
* `ofNat_le_ofNat_iff` — counts are compared as their floats are, if the bound is exact.
* `value_maximum`, `value_minimum` — the greater and the lesser of two numbers.
-/

namespace SurveyGateway.Number

open Float.Model Float.Model.UnpackedFloat

variable {spec : Format} {u v : UnpackedFloat} {a b : Float}

/-! ### Results that are numbers -/

theorem isNaN_of_infinity {y : Float} {s : Sign}
    (hy : y.toModel.unpack = UnpackedFloat.unpack .binary64 (UnpackedFloat.pack .binary64 (.infinity s))) :
    y.isNaN = false := by
  show y.toModel.unpack.isNaN = false
  rw [hy]
  exact congrArg UnpackedFloat.isNaN (unpack_packedInfinity .binary64 s)

theorem unpacked_add_infinity (s : Sign) (hv : v.isFinite = true) :
    UnpackedFloat.add spec (.infinity s) v = .infinity s := by
  cases v with
  | notANumber | infinity s' => cases hv
  | zero s' | finite s' m e hm => rfl

/-- A finite number may be added to an infinity. -/
theorem isNaN_unpacked_add (hu : Fits .binary64 u) (hv : Fits .binary64 v) (hnu : u.isNaN = false)
    (hfv : v.isFinite = true) {y : Float}
    (hy : y.toModel.unpack =
      UnpackedFloat.unpack .binary64 (UnpackedFloat.pack .binary64 (UnpackedFloat.add .binary64 u v))) :
    y.isNaN = false := by
  rcases isFinite_or_infinity hnu with hfu | ⟨s, rfl⟩
  · exact ((rounded_add hu hv hfu hfv).roundsTo hy).isNaN
  · rw [unpacked_add_infinity s hfv] at hy
    exact isNaN_of_infinity hy

theorem isNaN_add (ha : a.isNaN = false) (hb : b.isFinite = true) : (a + b).isNaN = false :=
  isNaN_unpacked_add (fits a) (fits b) ha hb rfl

/-- A difference is a sum. -/
theorem unpacked_sub (u v : UnpackedFloat) : UnpackedFloat.sub spec u v = UnpackedFloat.add spec u v.neg := by
  cases u with
  | notANumber => cases v <;> rfl
  | infinity s => cases v <;> rfl
  | zero s => cases v <;> rfl
  | finite s m e hm =>
    cases v with
    | finite s' m' e' hm' =>
      have hsign (n : ℤ) : (-s').apply n = -s'.apply n := by cases s' <;> simp [Sign.apply]
      simp only [UnpackedFloat.sub, UnpackedFloat.neg, UnpackedFloat.add, hsign, Int.sub_eq_add_neg]
    | _ => rfl

theorem fits_neg (hu : Fits spec u) : Fits spec u.neg := by
  cases u with
  | finite s m e hm => exact hu
  | _ => trivial

theorem isFinite_neg (hu : u.isFinite = true) : u.neg.isFinite = true := by
  cases u with
  | notANumber | infinity s => cases hu
  | zero s | finite s m e hm => rfl

theorem isNaN_sub (ha : a.isNaN = false) (hb : b.isFinite = true) : (a - b).isNaN = false := by
  refine isNaN_unpacked_add (fits a) (fits_neg (fits b)) ha (isFinite_neg hb) ?_
  rw [← unpacked_sub]
  rfl

theorem isNaN_div (ha : a.isNaN = false) (hb : b.isFinite = true) (hzero : realOf b.toModel.unpack ≠ 0) :
    (a / b).isNaN = false := by
  rcases isFinite_or_infinity ha with hfinite | ⟨s, hs⟩
  · exact (roundsTo_div hfinite hb hzero).isNaN
  · have hunpack : (a / b).toModel.unpack =
        UnpackedFloat.unpack .binary64 (UnpackedFloat.pack .binary64
          (UnpackedFloat.div .binary64 a.toModel.unpack b.toModel.unpack)) := rfl
    have hb : b.toModel.unpack.isFinite = true := hb
    rw [hs] at hunpack
    cases h : b.toModel.unpack with
    | notANumber | infinity s' => rw [h] at hb; cases hb
    | zero s' =>
      rw [h] at hzero
      exact (hzero rfl).elim
    | finite s' m e hm =>
      rw [h] at hunpack
      exact isNaN_of_infinity hunpack

/-- A 32-bit float that is finite is finite in 64 bits. -/
theorem isFinite_widen {x : Float32} (hx : x.isFinite = true) : (widen x).isFinite = true := by
  have hx : x.toModel.unpack.isFinite = true := hx
  have hnumber : x.isNaN = false := by
    show x.toModel.unpack.isNaN = false
    cases h : x.toModel.unpack with
    | notANumber => rw [h] at hx; cases hx
    | _ => rfl
  have hvalue := (value_widen x).2
  rw [value32, valueOf_of_isFinite hx] at hvalue
  rcases isFinite_or_infinity ((value_widen x).1.trans hnumber) with hfinite | ⟨s, hs⟩
  · exact hfinite
  · unfold value at hvalue
    rw [hs] at hvalue
    cases s
    · exact (EReal.bot_ne_coe _ hvalue).elim
    · exact (EReal.top_ne_coe _ hvalue).elim

/-! ### Whole numbers above -/

/-- Numbers are cut to the next whole number above: the positive ones are cut outward. -/
def ceilOutward (s : Sign) (rest _ : ℕ) : Bool := s == .positive && rest != 0

theorem ceil_signed (s : Sign) (m : ℕ) {e : ℤ} (he : e < 0) :
    (⌈signed s (m * 2 ^ e)⌉ : ℝ) = signed s (wholeOf ceilOutward s m e) := by
  have hneg (s : Sign) (x : ℝ) : signed (-s) x = -signed s x := by cases s <;> simp [signed]
  have hwhole : wholeOf floorOutward (-s) m e = wholeOf ceilOutward s m e := by cases s <;> rfl
  have hfloor := floor_signed (-s) m he
  rw [hneg, hneg, Int.floor_neg, hwhole] at hfloor
  push_cast at hfloor
  exact neg_injective hfloor

/-- The least whole number that is at least a number is computed exactly. -/
theorem value_ceil {a : Float} (ha : a.isFinite = true) :
    (ceil a).isFinite = true ∧ value (ceil a) = ((⌈realOf a.toModel.unpack⌉ : ℝ) : EReal) :=
  value_toWhole Int.ceil_intCast (fun s m _ => ceil_signed s m) ha rfl

/-! ### Infinities -/

/-- An infinity stays what it is. -/
theorem toWhole_infinity {outward : Sign → ℕ → ℕ → Bool} {s : Sign} (ha : a.toModel.unpack = .infinity s) {b : Float}
    (hunpack : b.toModel.unpack =
      UnpackedFloat.unpack .binary64 (UnpackedFloat.pack .binary64 (toWhole outward a.toModel.unpack))) :
    b.isNaN = false ∧ value b = value a := by
  rw [ha] at hunpack
  have hsame : b.toModel.unpack = .infinity s := hunpack.trans (unpack_packedInfinity .binary64 s)
  refine ⟨isNaN_of_infinity hunpack, ?_⟩
  unfold value
  rw [hsame, ha]

/-- A value is an integer or an infinity. -/
def IsWhole (x : EReal) : Prop := x = ⊤ ∨ x = ⊥ ∨ ∃ n : ℤ, x = ((n : ℝ) : EReal)

theorem isWhole_of_infinity {s : Sign} (ha : a.toModel.unpack = .infinity s) : IsWhole (value a) := by
  unfold value
  rw [ha]
  cases s
  · exact Or.inr (Or.inl rfl)
  · exact Or.inl rfl

theorem ceil_spec (ha : a.isNaN = false) : (ceil a).isNaN = false ∧ IsWhole (value (ceil a)) := by
  rcases isFinite_or_infinity ha with hfinite | ⟨s, hs⟩
  · obtain ⟨hceil, hvalue⟩ := value_ceil hfinite
    exact ⟨isNaN_of_isFinite hceil, Or.inr (Or.inr ⟨_, hvalue⟩)⟩
  · obtain ⟨hnumber, hvalue⟩ := toWhole_infinity (b := ceil a) hs rfl
    rw [hvalue]
    exact ⟨hnumber, isWhole_of_infinity hs⟩

theorem floor_spec (ha : a.isNaN = false) : (floor a).isNaN = false ∧ IsWhole (value (floor a)) := by
  rcases isFinite_or_infinity ha with hfinite | ⟨s, hs⟩
  · obtain ⟨hfloor, hvalue⟩ := value_floor hfinite
    exact ⟨isNaN_of_isFinite hfloor, Or.inr (Or.inr ⟨_, hvalue⟩)⟩
  · obtain ⟨hnumber, hvalue⟩ := toWhole_infinity (b := floor a) hs rfl
    rw [hvalue]
    exact ⟨hnumber, isWhole_of_infinity hs⟩

/-- An integer is at least a number if it is at least the whole number above. -/
theorem value_ceil_le_iff (ha : a.isNaN = false) (n : ℤ) :
    value (ceil a) ≤ ((n : ℝ) : EReal) ↔ value a ≤ ((n : ℝ) : EReal) := by
  rcases isFinite_or_infinity ha with hfinite | ⟨s, hs⟩
  · rw [(value_ceil hfinite).2, value_of_isFinite hfinite, EReal.coe_le_coe_iff, EReal.coe_le_coe_iff, Int.cast_le,
      Int.ceil_le]
  · rw [(toWhole_infinity (b := ceil a) hs rfl).2]

/-- An integer is at most a number if it is at most the whole number below. -/
theorem le_value_floor_iff (ha : a.isNaN = false) (n : ℤ) :
    ((n : ℝ) : EReal) ≤ value (floor a) ↔ ((n : ℝ) : EReal) ≤ value a := by
  rcases isFinite_or_infinity ha with hfinite | ⟨s, hs⟩
  · rw [(value_floor hfinite).2, value_of_isFinite hfinite, EReal.coe_le_coe_iff, EReal.coe_le_coe_iff, Int.cast_le,
      Int.le_floor]
  · rw [(toWhole_infinity (b := floor a) hs rfl).2]

theorem le_ofNat_iff (ha : a.isNaN = false) {n : ℕ} (hn : n ≤ 2 ^ 53) : a ≤ ofNat n ↔ value a ≤ ((n : ℝ) : EReal) := by
  obtain ⟨hfinite, hvalue⟩ := value_ofNat hn
  rw [le_iff, hvalue]
  exact ⟨fun h => h.2.2, fun h => ⟨ha, isNaN_of_isFinite hfinite, h⟩⟩

theorem ofNat_le_iff (ha : a.isNaN = false) {n : ℕ} (hn : n ≤ 2 ^ 53) : ofNat n ≤ a ↔ ((n : ℝ) : EReal) ≤ value a := by
  obtain ⟨hfinite, hvalue⟩ := value_ofNat hn
  rw [le_iff, hvalue]
  exact ⟨fun h => h.2.2, fun h => ⟨isNaN_of_isFinite hfinite, ha, h⟩⟩

/-- A count is rounded, but to no other side of a count that is exact. -/
theorem ofNat_le_ofNat_iff {m n : ℕ} (hn : n < 2 ^ 53) : ofNat m ≤ ofNat n ↔ m ≤ n := by
  have hround := roundsTo_ofNat m
  obtain ⟨hfinite, hvalue⟩ := value_ofNat hn.le
  rw [le_ofNat_iff hround.isNaN hn.le]
  constructor
  · intro hle
    by_contra! hlt
    obtain ⟨hsucc, hvalue'⟩ := value_ofNat (Nat.succ_le_of_lt hn)
    have hge := hround.le_value _ (isNaN_of_isFinite hsucc) (by rw [hvalue']; exact_mod_cast hlt)
    rw [hvalue'] at hge
    have hsucc_le : ((n + 1 : ℕ) : ℝ) ≤ n := EReal.coe_le_coe_iff.mp (hge.trans hle)
    exact absurd (Nat.cast_le.mp hsucc_le) (Nat.not_succ_le_self n)
  · intro hle
    rw [← hvalue]
    exact hround.value_le _ (isNaN_of_isFinite hfinite) (by rw [hvalue]; exact_mod_cast hle)

/-! ### The greater and the lesser of two numbers -/

theorem value_maximum (ha : a.isNaN = false) (hb : b.isNaN = false) :
    value (maximum a b) = max (value a) (value b) := by
  unfold maximum
  rw [ha, if_neg Bool.false_ne_true]
  split
  · next h => exact (max_eq_right (lt_iff.mp h).2.2.le).symm
  · next h => exact (max_eq_left (value_le_of_not_lt ha hb h)).symm

theorem value_minimum (ha : a.isNaN = false) (hb : b.isNaN = false) :
    value (minimum a b) = min (value a) (value b) := by
  unfold minimum
  rw [ha, if_neg Bool.false_ne_true]
  split
  · next h => exact (min_eq_right (lt_iff.mp h).2.2.le).symm
  · next h => exact (min_eq_left (value_le_of_not_lt hb ha h)).symm

theorem IsWhole.max {x y : EReal} (hx : IsWhole x) (hy : IsWhole y) : IsWhole (max x y) := by
  rcases max_choice x y with h | h <;> rw [h]
  · exact hx
  · exact hy

theorem IsWhole.min {x y : EReal} (hx : IsWhole x) (hy : IsWhole y) : IsWhole (min x y) := by
  rcases min_choice x y with h | h <;> rw [h]
  · exact hx
  · exact hy

end SurveyGateway.Number
