import Mathlib.Data.List.TakeWhile
import SurveyGateway.Number.Style
import SurveyGateway.Proofs.Number.Unpacked

/-!
# The text of a float tells the float

`readDecimal` reads the number that a text stands for, exactly. Whatever its style, the text of a decimal is read back
as the decimal (`readDecimal_decimalText`). As the shortest decimals of two floats are two numbers, a finite float is
the only one with its text (`documentText32?_inj`).
-/

namespace SurveyGateway.Number

open Float.Model Float.Model.UnpackedFloat

/-! ### Reading a decimal -/

/-- The power of ten at the end of a text. -/
def readPower : List Char → ℤ
  | 'e' :: '-' :: digits => -(Nat.ofDigitChars 10 digits 0 : ℤ)
  | 'e' :: '+' :: digits => Nat.ofDigitChars 10 digits 0
  | _ => 0

/-- The number that a text without a sign stands for. -/
def readDecimal (cs : List Char) : ℚ :=
  let significand := cs.takeWhile (· != 'e')
  let whole := significand.takeWhile (· != '.')
  let fraction := (significand.dropWhile (· != '.')).drop 1
  Nat.ofDigitChars 10 (whole ++ fraction) 0 * 10 ^ (readPower (cs.dropWhile (· != 'e')) - fraction.length)

/-- Nothing but digits. -/
def AllDigits (cs : List Char) : Prop := ∀ c ∈ cs, c.isDigit = true

theorem allDigits_natText (n : ℕ) : AllDigits (natText n) := fun _ hc =>
  Nat.isDigit_of_mem_toDigits (by decide) (by decide) hc

theorem natText_inj {m n : ℕ} (h : natText m = natText n) : m = n := by
  have hread := congrArg (fun cs => Nat.ofDigitChars 10 cs 0) h
  simpa [natText] using hread

theorem AllDigits.append {cs ds : List Char} (hc : AllDigits cs) (hd : AllDigits ds) : AllDigits (cs ++ ds) := by
  intro c h
  rcases List.mem_append.mp h with h | h
  · exact hc c h
  · exact hd c h

theorem allDigits_zeros (n : ℕ) : AllDigits (List.replicate n '0') := by
  intro c hc
  rw [List.eq_of_mem_replicate hc]
  rfl

theorem AllDigits.ne {cs : List Char} (h : AllDigits cs) {c : Char} (hc : c.isDigit = false) :
    ∀ a ∈ cs, (a != c) = true := by
  intro a ha
  have := h a ha
  by_contra hne
  obtain rfl : a = c := by simpa using hne
  rw [hc] at this
  cases this

/-- The tail of a text that starts with its power of ten, if there is one. -/
def PowerOnly (cs : List Char) : Prop := cs = [] ∨ ∃ rest, cs = 'e' :: rest

theorem span_e {cs power : List Char} (h : ∀ a ∈ cs, (a != 'e') = true) (hp : PowerOnly power) :
    (cs ++ power).takeWhile (· != 'e') = cs ∧ (cs ++ power).dropWhile (· != 'e') = power := by
  rw [List.takeWhile_append_of_pos h, List.dropWhile_append_of_pos h]
  rcases hp with rfl | ⟨rest, rfl⟩
  · simp
  · simp

/-- A whole number, perhaps with a power of ten. -/
theorem readDecimal_whole {whole power : List Char} (hw : AllDigits whole) (hp : PowerOnly power) :
    readDecimal (whole ++ power) = Nat.ofDigitChars 10 whole 0 * 10 ^ readPower power := by
  obtain ⟨htake, hdrop⟩ := span_e (hw.ne (by rfl)) hp
  unfold readDecimal
  simp only [htake, hdrop]
  have hpoint := hw.ne (c := '.') (by rfl)
  have htake' : whole.takeWhile (· != '.') = whole := List.takeWhile_eq_self_iff.mpr hpoint
  have hdrop' : whole.dropWhile (· != '.') = [] := List.dropWhile_eq_nil_iff.mpr hpoint
  rw [htake', hdrop']
  simp

/-- A number with a fraction, perhaps with a power of ten. -/
theorem readDecimal_fraction {whole fraction power : List Char} (hw : AllDigits whole) (hf : AllDigits fraction)
    (hp : PowerOnly power) :
    readDecimal (whole ++ '.' :: fraction ++ power) =
      Nat.ofDigitChars 10 (whole ++ fraction) 0 * 10 ^ (readPower power - fraction.length) := by
  have hall : ∀ a ∈ whole ++ '.' :: fraction, (a != 'e') = true := by
    intro a ha
    rcases List.mem_append.mp ha with ha | ha
    · exact hw.ne (by rfl) a ha
    · rcases List.mem_cons.mp ha with rfl | ha
      · rfl
      · exact hf.ne (by rfl) a ha
  obtain ⟨htake, hdrop⟩ := span_e hall hp
  unfold readDecimal
  simp only [htake, hdrop]
  have hpoint := hw.ne (c := '.') (by rfl)
  have htake' : (whole ++ '.' :: fraction).takeWhile (· != '.') = whole := by
    rw [List.takeWhile_append_of_pos hpoint]
    simp
  have hdrop' : (whole ++ '.' :: fraction).dropWhile (· != '.') = '.' :: fraction := by
    rw [List.dropWhile_append_of_pos hpoint]
    simp
  rw [htake', hdrop']
  simp

@[simp] theorem readPower_nil : readPower [] = 0 := rfl

theorem readPower_exponentText (power : ℤ) : readPower (Style.exponentText power) = power := by
  unfold Style.exponentText natText
  split
  · next h =>
    simp only [readPower, Nat.ofDigitChars_ten_toDigits]
    omega
  · next h =>
    simp only [readPower, Nat.ofDigitChars_ten_toDigits]
    omega

theorem powerOnly_exponentText (power : ℤ) : PowerOnly (Style.exponentText power) := Or.inr ⟨_, rfl⟩

/-! ### The text of a decimal -/

section Layouts

variable {digits : List Char} {n : ℕ}

theorem allDigits_zero : AllDigits ['0'] := allDigits_zeros 1

/-- Zeros behind the digits. -/
theorem readDecimal_zeros (fraction : Bool) (hd : AllDigits digits) (hn : Nat.ofDigitChars 10 digits 0 = n) (k : ℕ) :
    readDecimal (digits ++ List.replicate k '0' ++ if fraction then ['.', '0'] else []) = n * 10 ^ (k : ℤ) := by
  have hw : AllDigits (digits ++ List.replicate k '0') := hd.append (allDigits_zeros k)
  have hvalue : Nat.ofDigitChars 10 (digits ++ List.replicate k '0') 0 = 10 ^ k * n := by
    rw [Nat.ofDigitChars_append, hn, Nat.ofDigitChars_replicate_zero]
  cases fraction
  · have hread := readDecimal_whole hw (Or.inl rfl : PowerOnly [])
    rw [if_neg Bool.false_ne_true, hread, hvalue]
    simp only [readPower_nil, zpow_zero, zpow_natCast]
    push_cast
    ring
  · have hread := readDecimal_fraction hw allDigits_zero (Or.inl rfl : PowerOnly [])
    rw [List.append_nil] at hread
    rw [if_pos rfl, hread, Nat.ofDigitChars_append, hvalue]
    simp only [Nat.ofDigitChars_cons, Nat.ofDigitChars_nil, readPower_nil, List.length_singleton, zpow_natCast]
    push_cast
    rw [zpow_neg_one]
    ring

/-- A point among the digits. -/
theorem readDecimal_point (hd : AllDigits digits) (hn : Nat.ofDigitChars 10 digits 0 = n) {k : ℕ}
    (hk : k ≤ digits.length) :
    readDecimal (digits.take k ++ '.' :: digits.drop k) = n * 10 ^ ((k : ℤ) - digits.length) := by
  have htake : AllDigits (digits.take k) := fun c hc => hd c (List.mem_of_mem_take hc)
  have hdrop : AllDigits (digits.drop k) := fun c hc => hd c (List.mem_of_mem_drop hc)
  have hread := readDecimal_fraction htake hdrop (Or.inl rfl : PowerOnly [])
  rw [List.append_nil, List.take_append_drop, hn] at hread
  rw [hread, List.length_drop, readPower_nil]
  congr 2
  omega

/-- Zeros between the point and the digits. -/
theorem readDecimal_small (hd : AllDigits digits) (hn : Nat.ofDigitChars 10 digits 0 = n) (k : ℕ) :
    readDecimal ('0' :: '.' :: (List.replicate k '0' ++ digits)) = n * 10 ^ (-((k : ℤ) + digits.length)) := by
  have hread := readDecimal_fraction allDigits_zero ((allDigits_zeros k).append hd) (Or.inl rfl : PowerOnly [])
  rw [List.append_nil] at hread
  have hvalue : Nat.ofDigitChars 10 (['0'] ++ (List.replicate k '0' ++ digits)) 0 = n := by
    rw [← List.append_assoc, Nat.ofDigitChars_append]
    have hzero : Nat.ofDigitChars 10 (['0'] ++ List.replicate k '0') 0 = 0 := by
      rw [Nat.ofDigitChars_append, Nat.ofDigitChars_replicate_zero]
      exact Nat.mul_zero _
    rw [hzero, hn]
  rw [hvalue] at hread
  have hlen : readPower [] - ((List.replicate k '0' ++ digits).length : ℤ) = -((k : ℤ) + digits.length) := by
    simp
  rw [hlen] at hread
  exact hread

/-- A point behind the first digit and a power of ten. -/
theorem readDecimal_scientific {d d' : Char} {rest : List Char} (hd : AllDigits (d :: d' :: rest))
    (hn : Nat.ofDigitChars 10 (d :: d' :: rest) 0 = n) (power : ℤ) :
    readDecimal (d :: '.' :: d' :: rest ++ Style.exponentText power) =
      n * 10 ^ (power + 1 - (d :: d' :: rest).length) := by
  have hfirst : AllDigits [d] := fun c hc => hd c (by simp [List.mem_singleton.mp hc])
  have hrest : AllDigits (d' :: rest) := fun c hc => hd c (List.mem_cons_of_mem d hc)
  have hread := readDecimal_fraction hfirst hrest (powerOnly_exponentText power)
  have hcons : [d] ++ d' :: rest = d :: d' :: rest := rfl
  rw [hcons, hn, readPower_exponentText] at hread
  have hlen : power + 1 - ((d :: d' :: rest).length : ℤ) = power - ((d' :: rest).length : ℤ) := by
    simp only [List.length_cons]
    push_cast
    ring
  rw [hlen]
  exact hread

end Layouts

/-- However it is laid out, a decimal is read back. -/
theorem readDecimal_decimalText (style : Style) (d : Decimal) : readDecimal (style.decimalText d) = d.value := by
  have hd : AllDigits (natText d.digits) := allDigits_natText d.digits
  have hn : Nat.ofDigitChars 10 (natText d.digits) 0 = d.digits := Nat.ofDigitChars_ten_toDigits
  have hne : natText d.digits ≠ [] := Nat.toDigits_ne_nil
  unfold Style.decimalText Decimal.value
  generalize natText d.digits = digits at hd hn hne
  simp only
  split
  · split
    · next hexp =>
      rw [readDecimal_zeros style.fraction hd hn, Int.toNat_of_nonneg hexp]
    · split
      · next hexp hpoint =>
        rw [readDecimal_point hd hn (by omega)]
        congr 2
        omega
      · next hexp hpoint =>
        rw [readDecimal_small hd hn]
        congr 2
        omega
  · match digits, hne with
    | [c], _ =>
      have hread := readDecimal_whole hd (powerOnly_exponentText ((([c] : List Char).length : ℤ) + d.exponent - 1))
      rw [hn, readPower_exponentText] at hread
      have hpower : (([c] : List Char).length : ℤ) + d.exponent - 1 = d.exponent := by simp
      rw [hpower] at hread ⊢
      exact hread
    | c :: c' :: rest, _ =>
      rw [readDecimal_scientific hd hn]
      congr 2
      omega

/-! ### The text of a float -/

/-- The text starts with a digit, and so with no sign. -/
def StartsWithDigit (cs : List Char) : Prop := ∃ c rest, cs = c :: rest ∧ c.isDigit = true

theorem StartsWithDigit.append {cs : List Char} (h : StartsWithDigit cs) (ds : List Char) :
    StartsWithDigit (cs ++ ds) := by
  obtain ⟨c, rest, rfl, hc⟩ := h
  exact ⟨c, rest ++ ds, rfl, hc⟩

theorem startsWithDigit_zero (cs : List Char) : StartsWithDigit ('0' :: cs) := ⟨'0', cs, rfl, rfl⟩

theorem startsWithDigit_decimalText (style : Style) (d : Decimal) : StartsWithDigit (style.decimalText d) := by
  have hd : AllDigits (natText d.digits) := allDigits_natText d.digits
  have hne : natText d.digits ≠ [] := Nat.toDigits_ne_nil
  unfold Style.decimalText
  generalize natText d.digits = digits at hd hne
  match digits, hne with
  | c :: rest, _ =>
    have hc : StartsWithDigit [c] := ⟨c, [], rfl, hd c List.mem_cons_self⟩
    simp only
    split
    · split
      · exact (hc.append rest).append _ |>.append _
      · split
        · next hexp hpoint =>
          obtain ⟨k, hk⟩ : ∃ k : ℕ, (((c :: rest).length : ℤ) + d.exponent).toNat = k + 1 :=
            ⟨_, (Nat.succ_pred_eq_of_pos (by omega)).symm⟩
          rw [hk, List.take_succ_cons]
          exact (hc.append _).append _
        · exact startsWithDigit_zero _
    · split
      · next h => cases h
      · next h =>
        obtain ⟨rfl, -⟩ := List.cons.inj h
        exact hc.append _
      · next h =>
        obtain ⟨rfl, rfl⟩ := List.cons.inj h
        exact hc.append _

/-- A text is taken apart into a sign and the rest in one way only. -/
theorem signText_append_inj {s s' : Sign} {cs ds : List Char} (hc : StartsWithDigit cs) (hd : StartsWithDigit ds)
    (h : Style.signText s ++ cs = Style.signText s' ++ ds) : s = s' ∧ cs = ds := by
  obtain ⟨c, cs, rfl, hc⟩ := hc
  obtain ⟨d, ds, rfl, hd⟩ := hd
  have hminus : ∀ c : Char, c.isDigit = true → '-' ≠ c := by
    rintro _ hc rfl
    cases hc
  cases s <;> cases s' <;> simp only [Style.signText, List.nil_append, List.singleton_append, List.cons.injEq] at h
  · exact ⟨rfl, List.cons.injEq _ _ _ _ ▸ h.2⟩
  · exact absurd h.1 (hminus d hd)
  · exact absurd h.1.symm (hminus c hc)
  · exact ⟨rfl, List.cons.injEq _ _ _ _ ▸ h⟩

/-- What is written of a number: its sign, and a decimal that rounds to it. -/
theorem finiteText?_cases {style : Style} {spec : Format} {u : UnpackedFloat} {t : List Char}
    (h : style.finiteText? spec u = some t) :
    ∃ s body, t = Style.signText s ++ body ∧ StartsWithDigit body ∧
      (u = .zero s ∧ readDecimal body = 0 ∨
        ∃ m e hm, u = .finite s m e hm ∧ (intervalOf spec m e).Covers (readDecimal body)) := by
  cases u with
  | infinity s => cases h
  | notANumber => cases h
  | zero s =>
    refine ⟨s, _, (Option.some.inj h).symm, startsWithDigit_zero _, Or.inl ⟨rfl, ?_⟩⟩
    have hread := readDecimal_zeros style.fraction allDigits_zero (n := 0) rfl 0
    rw [Nat.cast_zero, zero_mul] at hread
    exact hread
  | finite s m e hm =>
    refine ⟨s, _, (Option.some.inj h).symm, startsWithDigit_decimalText _ _, Or.inr ⟨m, e, hm, rfl, ?_⟩⟩
    rw [readDecimal_decimalText]
    exact shortest_covers_intervalOf _ hm

/-- The text of a number tells its bits. -/
theorem finiteText?_inj {style : Style} {spec : Format} {b c : BitVec spec.numBits} {t : List Char}
    (hspec : 2 ≤ spec.exponentBits) (hvalid : spec.Valid b) (hvalid' : spec.Valid c)
    (hb : style.finiteText? spec (UnpackedFloat.unpack spec b) = some t)
    (hc : style.finiteText? spec (UnpackedFloat.unpack spec c) = some t) : b = c := by
  obtain ⟨s, body, rfl, hstart, hcase⟩ := finiteText?_cases hb
  obtain ⟨s', body', hsplit, hstart', hcase'⟩ := finiteText?_cases hc
  obtain ⟨rfl, rfl⟩ := signText_append_inj hstart hstart' hsplit
  rcases hcase with ⟨hu, hzero⟩ | ⟨m, e, hm, hu, hcovers⟩
  · rcases hcase' with ⟨hu', -⟩ | ⟨m', e', hm', hu', hcovers'⟩
    · exact (unpack_inj_of_valid hvalid hvalid' hspec).mp (hu.trans hu'.symm)
    · exact absurd hzero (pos_of_covers hm' hcovers').ne'
  · rcases hcase' with ⟨hu', hzero⟩ | ⟨m', e', hm', hu', hcovers'⟩
    · exact absurd hzero (pos_of_covers hm hcovers).ne'
    · obtain ⟨rfl, rfl⟩ := covers_unique (canonical_of_unpack hu) (canonical_of_unpack hu') hcovers hcovers'
      exact (unpack_inj_of_valid hvalid hvalid' hspec).mp (hu.trans hu'.symm)

/-- Only numbers have a text. -/
theorem documentText32?_isSome (x : Float32) : (documentText32? x).isSome = x.isFinite := by
  unfold documentText32? Float32.isFinite Float32.Model.isFinite
  cases x.toModel.unpack <;> rfl

/-- The text of a finite 32-bit float tells the float. -/
theorem documentText32?_inj {x y : Float32} (hx : x.isFinite = true) (h : documentText32? x = documentText32? y) :
    x = y := by
  rw [← documentText32?_isSome] at hx
  obtain ⟨t, ht⟩ := Option.isSome_iff_exists.mp hx
  have hbits := finiteText?_inj (by decide) x.toModel.valid y.toModel.valid ht (h.symm.trans ht)
  exact Float32.toBits_inj.mp (UInt32.toBitVec_inj.mp hbits)

/-! ### Floats of one text -/

/-- Two floats are alike: they are equal, or neither is finite. -/
def Alike (x y : Float32) : Prop := x = y ∨ x.isFinite = false ∧ y.isFinite = false

/-- Two numbers that may be missing are alike: they are equal, or there is no finite number in either place. -/
def OptionalAlike (x y : Option Float32) : Prop :=
  x = y ∨ (∀ a ∈ x, a.isFinite = false) ∧ ∀ a ∈ y, a.isFinite = false

theorem Alike.eq {x y : Float32} (h : Alike x y) (hx : x.isFinite = true) : x = y := by
  rcases h with h | ⟨hnot, -⟩
  · exact h
  · rw [hnot] at hx
    cases hx

theorem documentText32?_eq_none_iff (x : Float32) : documentText32? x = none ↔ x.isFinite = false := by
  rw [← documentText32?_isSome, Option.isSome_eq_false_iff, Option.isNone_iff_eq_none]

/-- Floats have one text exactly if they are alike. -/
theorem documentText32?_eq_iff (x y : Float32) : documentText32? x = documentText32? y ↔ Alike x y := by
  constructor
  · intro h
    cases hx : x.isFinite with
    | true => exact Or.inl (documentText32?_inj hx h)
    | false =>
      have hnone := (documentText32?_eq_none_iff x).mpr hx
      exact Or.inr ⟨hx, (documentText32?_eq_none_iff y).mp (h ▸ hnone)⟩
  · rintro (rfl | ⟨hx, hy⟩)
    · rfl
    · rw [(documentText32?_eq_none_iff x).mpr hx, (documentText32?_eq_none_iff y).mpr hy]

theorem bind_documentText32?_eq_none_iff (x : Option Float32) :
    x.bind documentText32? = none ↔ ∀ a ∈ x, a.isFinite = false := by
  cases x with
  | none => simp
  | some a => simp [documentText32?_eq_none_iff]

theorem bind_documentText32?_eq_iff (x y : Option Float32) :
    x.bind documentText32? = y.bind documentText32? ↔ OptionalAlike x y := by
  constructor
  · intro h
    cases hx : x.bind documentText32? with
    | none =>
      rw [hx] at h
      exact Or.inr ⟨(bind_documentText32?_eq_none_iff x).mp hx, (bind_documentText32?_eq_none_iff y).mp h.symm⟩
    | some t =>
      rw [hx] at h
      obtain ⟨a, rfl, ha⟩ := Option.bind_eq_some_iff.mp hx
      obtain ⟨b, rfl, hb⟩ := Option.bind_eq_some_iff.mp h.symm
      have hfinite : a.isFinite = true := by rw [← documentText32?_isSome, ha]; rfl
      rw [documentText32?_inj hfinite (ha.trans hb.symm)]
      exact Or.inl rfl
  · rintro (rfl | ⟨hx, hy⟩)
    · rfl
    · rw [(bind_documentText32?_eq_none_iff x).mpr hx, (bind_documentText32?_eq_none_iff y).mpr hy]

end SurveyGateway.Number
