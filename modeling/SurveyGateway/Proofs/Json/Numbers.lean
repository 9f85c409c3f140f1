import SurveyGateway.Proofs.Json.Passing
import SurveyGateway.Proofs.Results

/-!
# Numbers inside documents

A number has no mark at its end: it goes on as long as its bytes can belong to it. A delimiter never can. So a number that
is read at the end of a document is read in the same way ahead of a delimiter, and at any other place: number readers are
`Steady`. What a float's text is read as need therefore be known for the text alone (`ReadsBack`, `reads_float32`).

A whole number is read from its digits, whatever they are (`reads_int32`).
-/

namespace SurveyGateway.Json

open Reader Number

variable {α β : Type} {bytes rest : List UInt8}

/-! ### Readers that do not mind what follows -/

/-- What the reader makes of `bytes` at the end of a document, it makes of them ahead of a delimiter, and it leaves the same
of them. -/
def Steady (reader : Reader α) (bytes : List UInt8) : Prop :=
  ∀ ⦃place x c⦄, reader ⟨bytes, place⟩ = .ok (x, c) →
    c.rest <:+ bytes ∧ ∀ rest, EndsValue rest → Passes reader (bytes ++ rest) x (c.rest ++ rest)

/-- A reader that always gives the same. -/
theorem steady_of_passes {reader : Reader α} {x : α} {left : List UInt8} (hsuffix : left <:+ bytes)
    (h : ∀ rest, EndsValue rest → Passes reader (bytes ++ rest) x (left ++ rest)) : Steady reader bytes := by
  intro place y c hread
  obtain ⟨place', hread'⟩ := h [] endsValue_nil place
  rw [List.append_nil, List.append_nil, hread] at hread'
  obtain ⟨rfl, rfl⟩ := Prod.mk.inj (Except.ok.inj hread')
  exact ⟨hsuffix, h⟩

theorem steady_pure (x : α) (bytes : List UInt8) : Steady (pure x) bytes :=
  steady_of_passes List.suffix_rfl fun _ _ => passes_pure x _

theorem steady_advance (b : UInt8) (bs : List UInt8) : Steady advance (b :: bs) :=
  steady_of_passes (List.suffix_cons b bs) fun rest _ => passes_advance b (bs ++ rest)

/-- A reader that always fails. -/
theorem steady_of_error {reader : Reader α} (h : ∀ place, ∃ complaint, reader ⟨bytes, place⟩ = .error complaint) :
    Steady reader bytes := by
  intro place x c hread
  obtain ⟨complaint, herror⟩ := h place
  rw [herror] at hread
  cases hread

theorem Steady.bind {reader : Reader α} {f : α → Reader β} (h : Steady reader bytes)
    (hf : ∀ x left, Steady (f x) left) : Steady (reader >>= f) bytes := by
  intro place y c hread
  rw [bind_apply] at hread
  cases hx : reader ⟨bytes, place⟩ with
  | error complaint =>
    rw [hx] at hread
    cases hread
  | ok r =>
    rw [hx] at hread
    obtain ⟨hsuffix, hpass⟩ := h hx
    obtain ⟨hsuffix', hpass'⟩ := hf r.1 r.2.rest hread
    exact ⟨hsuffix'.trans hsuffix, fun rest hrest => (hpass rest hrest).bind (hpass' rest hrest)⟩

/-- A reader that looks at the byte ahead. -/
theorem Steady.cursor_cons {f : Cursor → Reader β} {b : UInt8} {bs : List UInt8}
    (h : ∀ place, Steady (f ⟨b :: bs, place⟩) (b :: bs))
    (hf : ∀ bs' place place', f ⟨b :: bs', place'⟩ = f ⟨b :: bs, place⟩) : Steady (cursor >>= f) (b :: bs) := by
  intro place x c hread
  obtain ⟨hsuffix, hpass⟩ := h place hread
  refine ⟨hsuffix, fun rest hrest => Passes.cursor fun place' => ?_⟩
  rw [List.cons_append, hf _ place place']
  exact hpass rest hrest

theorem Steady.ite {c : Prop} [Decidable c] {reader reader' : Reader α} (h : Steady reader bytes)
    (h' : Steady reader' bytes) : Steady (if c then reader else reader') bytes := by
  split
  · exact h
  · exact h'

/-! ### Delimiters -/

/-- A delimiter is no digit. -/
theorem EndsValue.not_isDigit (h : EndsValue rest) : ∀ b ∈ rest.head?, isDigit b = false := by
  intro b hb
  rcases h b hb with rfl | rfl | rfl <;> decide

theorem EndsValue.cases (h : EndsValue rest) :
    rest = [] ∨ (∃ bs, rest = 44 :: bs) ∨ (∃ bs, rest = 93 :: bs) ∨ ∃ bs, rest = 125 :: bs := by
  cases rest with
  | nil => exact Or.inl rfl
  | cons b bs =>
    rcases h b rfl with rfl | rfl | rfl
    · exact Or.inr (Or.inl ⟨bs, rfl⟩)
    · exact Or.inr (Or.inr (Or.inl ⟨bs, rfl⟩))
    · exact Or.inr (Or.inr (Or.inr ⟨bs, rfl⟩))

/-- At the end of a document, a reader that looks at the byte ahead. -/
theorem Steady.cursor_nil {f : Cursor → Reader β} (h : ∀ place, Steady (f ⟨[], place⟩) [])
    (hcomma : ∀ bs place place', f ⟨44 :: bs, place'⟩ = f ⟨[], place⟩)
    (hlist : ∀ bs place place', f ⟨93 :: bs, place'⟩ = f ⟨[], place⟩)
    (hobject : ∀ bs place place', f ⟨125 :: bs, place'⟩ = f ⟨[], place⟩) : Steady (Reader.cursor >>= f) [] := by
  intro place x c hread
  obtain ⟨hsuffix, hpass⟩ := h place hread
  refine ⟨hsuffix, fun rest hrest => Passes.cursor fun place' => ?_⟩
  have hsame : f ⟨rest, place'⟩ = f ⟨[], place⟩ := by
    rcases hrest.cases with rfl | ⟨bs, rfl⟩ | ⟨bs, rfl⟩ | ⟨bs, rfl⟩
    · rw [← hcomma [] place place', ← hcomma [] place' place']
    · exact hcomma bs place place'
    · exact hlist bs place place'
    · exact hobject bs place place'
  rw [List.nil_append, hsame]
  exact hpass rest hrest

/-! ### Runs of digits -/

theorem span_append {p : UInt8 → Bool} (hrest : ∀ b ∈ rest.head?, p b = false) (bytes : List UInt8) (place : Place) :
    ∃ place', Cursor.span p (bytes ++ rest) place = (bytes.takeWhile p, ⟨bytes.dropWhile p ++ rest, place'⟩) := by
  induction bytes generalizing place with
  | nil =>
    refine ⟨place, ?_⟩
    cases rest with
    | nil => rfl
    | cons b bs => rw [List.nil_append, Cursor.span, hrest b rfl, if_neg Bool.false_ne_true]; rfl
  | cons b bytes ih =>
    obtain ⟨place', hih⟩ := ih (place.after b)
    cases hb : p b with
    | true =>
      refine ⟨place', ?_⟩
      rw [List.cons_append, Cursor.span, hb, if_pos rfl, hih, List.takeWhile_cons_of_pos hb, List.dropWhile_cons_of_pos hb]
    | false =>
      have hneg : ¬ p b = true := by simp [hb]
      refine ⟨place, ?_⟩
      rw [List.cons_append, Cursor.span, hb, if_neg Bool.false_ne_true, List.takeWhile_cons_of_neg hneg,
        List.dropWhile_cons_of_neg hneg, List.cons_append]

theorem passes_digitRun (hrest : EndsValue rest) (bytes : List UInt8) :
    Passes digitRun (bytes ++ rest) (bytes.takeWhile isDigit) (bytes.dropWhile isDigit ++ rest) := by
  intro place
  obtain ⟨place', h⟩ := span_append hrest.not_isDigit bytes place
  exact ⟨place', congrArg Except.ok h⟩

theorem steady_digitRun (bytes : List UInt8) : Steady digitRun bytes :=
  steady_of_passes (List.dropWhile_suffix _) fun _ hrest => passes_digitRun hrest bytes

/-- The digits of an exponent, from the cursor on. -/
def exponentRun : Reader (Option ℕ) := fun c => .ok (exponentDigits 0 c.rest c.place)

theorem exponentDigits_append (hrest : EndsValue rest) (read : ℕ) (bytes : List UInt8) (place place₁ : Place) :
    (exponentDigits read bytes place).2.rest <:+ bytes ∧
      ∃ place', exponentDigits read (bytes ++ rest) place₁ =
        ((exponentDigits read bytes place).1, ⟨(exponentDigits read bytes place).2.rest ++ rest, place'⟩) := by
  induction bytes generalizing read place place₁ with
  | nil =>
    refine ⟨List.suffix_rfl, place₁, ?_⟩
    cases rest with
    | nil => rfl
    | cons b bs =>
      rw [List.nil_append, exponentDigits, exponentDigits, hrest.not_isDigit b rfl, if_neg Bool.false_ne_true]
      rfl
  | cons b bytes ih =>
    rw [exponentDigits, List.cons_append, exponentDigits]
    simp only
    split_ifs with hdigit hfits
    · obtain ⟨hsuffix, hread⟩ := ih (10 * read + (b.toNat - 48)) (place.after b) (place₁.after b)
      exact ⟨hsuffix.trans (List.suffix_cons b bytes), hread⟩
    · exact ⟨List.suffix_cons b bytes, _, rfl⟩
    · exact ⟨List.suffix_rfl, _, rfl⟩

theorem steady_exponentRun (bytes : List UInt8) : Steady exponentRun bytes := by
  intro place n c hread
  have hrun : exponentDigits 0 bytes place = (n, c) := Except.ok.inj hread
  have happend := fun rest (hrest : EndsValue rest) => exponentDigits_append hrest 0 bytes place
  rw [hrun] at happend
  refine ⟨(happend [] endsValue_nil place).1, fun rest hrest place₁ => ?_⟩
  obtain ⟨place', h⟩ := (happend rest hrest place₁).2
  exact ⟨place', congrArg Except.ok h⟩

/-! ### Parts of a number -/

variable (positive : Bool) (significand : ℕ)

theorem steady_floatOf (exponent : ℤ) (bytes : List UInt8) : Steady (floatOf positive significand exponent) bytes := by
  unfold floatOf
  split
  · exact steady_pure _ bytes
  · exact steady_of_error fun _ => ⟨_, rfl⟩

/-- What is made of the digits of an exponent. -/
def exponentValue (shift : ℤ) (sign : Option UInt8) : Option ℕ → Reader Numeral
  | some n => floatOf positive significand (if sign = some 45 then shift - n else shift + n)
  | none =>
    if significand ≠ 0 ∧ sign ≠ some 45 then complainHere .numberOutOfRange
    else do
      let _ ← digitRun
      return .float (if positive then 0.0 else -0.0)

/-- An exponent, from behind its sign. -/
def unsignedExponent (shift : ℤ) (sign : Option UInt8) : Reader Numeral := do
  match (← cursor).peek? with
  | none => complainHere .endInValue
  | some b =>
    if isDigit b then exponentValue positive significand shift sign (← exponentRun)
    else complainAhead .badNumber

theorem exponentPart_eq (shift : ℤ) : exponentPart positive significand shift = (do
    advance
    let sign := (← cursor).peek?
    if sign = some 43 ∨ sign = some 45 then advance
    unsignedExponent positive significand shift sign) := rfl

theorem steady_exponentValue (shift : ℤ) (sign : Option UInt8) (n : Option ℕ) (bytes : List UInt8) :
    Steady (exponentValue positive significand shift sign n) bytes := by
  cases n with
  | some n => exact steady_floatOf _ _ _ bytes
  | none => exact .ite (steady_of_error fun _ => ⟨_, rfl⟩) ((steady_digitRun bytes).bind fun _ left => steady_pure _ left)

theorem steady_unsignedExponent (shift : ℤ) (sign : Option UInt8) (bytes : List UInt8) :
    Steady (unsignedExponent positive significand shift sign) bytes := by
  cases bytes with
  | nil => exact steady_of_error fun _ => ⟨_, rfl⟩
  | cons b bs =>
    refine .cursor_cons (fun _ => .ite ?_ (steady_of_error fun _ => ⟨_, rfl⟩)) fun _ _ _ => rfl
    exact (steady_exponentRun (b :: bs)).bind fun n left => steady_exponentValue _ _ _ _ n left

theorem steady_exponentPart (shift : ℤ) (b : UInt8) (bytes : List UInt8) :
    Steady (exponentPart positive significand shift) (b :: bytes) := by
  rw [exponentPart_eq]
  refine (steady_advance b bytes).bind fun _ left => ?_
  cases left with
  | nil => exact steady_of_error fun _ => ⟨_, rfl⟩
  | cons sign bs =>
    refine .cursor_cons (fun _ => .ite ?_ (steady_unsignedExponent _ _ _ _ _)) fun _ _ _ => rfl
    exact (steady_advance sign bs).bind fun _ left => steady_unsignedExponent _ _ _ _ left

/-- What is made of the digits of a fraction, given what they are. -/
def fractionValue (dropped : ℕ) (digits : List UInt8) : Reader Numeral := do
  let next := (← cursor).peek?
  if digits.isEmpty then
    if next.isSome then complainAhead .badNumber else complainHere .endInValue
  else
    let shift := (dropped : ℤ) - (fractionDigits significand digits).2
    if next = some 101 ∨ next = some 69 then exponentPart positive (fractionDigits significand digits).1 shift
    else floatOf positive (fractionDigits significand digits).1 shift

theorem fractionPart_eq (dropped : ℕ) : fractionPart positive significand dropped = (do
    advance
    fractionValue positive significand dropped (← digitRun)) := rfl

theorem steady_fractionValue (dropped : ℕ) (digits bytes : List UInt8) :
    Steady (fractionValue positive significand dropped digits) bytes := by
  cases digits with
  | nil =>
    refine steady_of_error fun place => ?_
    cases bytes <;> exact ⟨_, rfl⟩
  | cons d ds =>
    cases bytes with
    | nil =>
      exact .cursor_nil (fun _ => steady_floatOf _ _ _ _) (fun _ _ _ => rfl) (fun _ _ _ => rfl) fun _ _ _ => rfl
    | cons b bs =>
      refine .cursor_cons (fun _ => .ite (steady_of_error fun _ => ⟨_, rfl⟩) ?_) fun _ _ _ => rfl
      exact .ite (steady_exponentPart _ _ _ b bs) (steady_floatOf _ _ _ _)

theorem steady_fractionPart (dropped : ℕ) (b : UInt8) (bytes : List UInt8) :
    Steady (fractionPart positive significand dropped) (b :: bytes) := by
  rw [fractionPart_eq]
  exact (steady_advance b bytes).bind fun _ left =>
    (steady_digitRun left).bind fun digits left => steady_fractionValue _ _ _ digits left

/-- What is made of a number from behind its whole part on: the significand so far, and how many digits it has not. -/
def numberValue (whole : ℕ × ℕ) : Reader Numeral := do
  let next := (← cursor).peek?
  if next = some 46 then fractionPart positive whole.1 whole.2
  else if next = some 101 ∨ next = some 69 then exponentPart positive whole.1 whole.2
  else if whole.2 = 0 then return wholeNumber positive whole.1
  else floatOf positive whole.1 whole.2

theorem numberBody_eq : numberBody positive = (do
    match (← cursor).peek? with
    | none => complainHere .endInValue
    | some first =>
      if isDigit first then
        if first = 48 then do
          advance
          if (← cursor).peek?.any isDigit then complainAhead .badNumber else numberValue positive (0, 0)
        else do numberValue positive (wholeDigits 0 (← digitRun))
      else complainAhead .badNumber) := rfl

theorem steady_numberValue (whole : ℕ × ℕ) (bytes : List UInt8) : Steady (numberValue positive whole) bytes := by
  have hrest : Steady (if whole.2 = 0 then pure (wholeNumber positive whole.1) else floatOf positive whole.1 whole.2) bytes :=
    .ite (steady_pure _ bytes) (steady_floatOf _ _ _ bytes)
  cases bytes with
  | nil => exact .cursor_nil (fun _ => hrest) (fun _ _ _ => rfl) (fun _ _ _ => rfl) fun _ _ _ => rfl
  | cons b bs =>
    exact .cursor_cons (fun _ => .ite (steady_fractionPart _ _ _ b bs) (.ite (steady_exponentPart _ _ _ b bs) hrest))
      fun _ _ _ => rfl

theorem steady_numberBody (bytes : List UInt8) : Steady (numberBody positive) bytes := by
  rw [numberBody_eq]
  cases bytes with
  | nil => exact steady_of_error fun _ => ⟨_, rfl⟩
  | cons first bs =>
    refine .cursor_cons (fun _ => .ite (.ite ?_ ?_) (steady_of_error fun _ => ⟨_, rfl⟩)) fun _ _ _ => rfl
    · -- a leading zero
      refine (steady_advance first bs).bind fun _ left => ?_
      cases left with
      | nil => exact .cursor_nil (fun _ => steady_numberValue _ _ _) (fun _ _ _ => rfl) (fun _ _ _ => rfl) fun _ _ _ => rfl
      | cons b bs =>
        exact .cursor_cons (fun _ => .ite (steady_of_error fun _ => ⟨_, rfl⟩) (steady_numberValue _ _ _)) fun _ _ _ => rfl
    · exact (steady_digitRun _).bind fun digits left => steady_numberValue _ _ left

/-- A number does not mind what follows. -/
theorem steady_number (bytes : List UInt8) : Steady number bytes := by
  unfold number
  cases bytes with
  | nil => exact .cursor_nil (fun _ => steady_numberBody _ _) (fun _ _ _ => rfl) (fun _ _ _ => rfl) fun _ _ _ => rfl
  | cons b bs =>
    refine .cursor_cons (fun _ => .ite ?_ (steady_numberBody _ _)) fun _ _ _ => rfl
    exact (steady_advance b bs).bind fun _ left => steady_numberBody _ left

/-! ### Digits -/

/-- A digit is written as one byte. -/
theorem utf8EncodeChar_digit {c : Char} (h : c.isDigit = true) :
    String.utf8EncodeChar c = [UInt8.ofNat c.toNat] ∧ isDigit (UInt8.ofNat c.toNat) = true := by
  have hdigits : ∀ n < 58, 48 ≤ n → isDigit (UInt8.ofNat n) = true := by decide
  obtain ⟨hlow, hhigh⟩ := toNat_of_isDigit h
  exact ⟨Text.utf8EncodeChar_of_lt (by omega), hdigits _ (by omega) hlow⟩

theorem startsWithDigit_natText (n : ℕ) : StartsWithDigit (natText n) := by
  obtain ⟨c, cs, htext⟩ : ∃ c cs, natText n = c :: cs := List.exists_cons_of_ne_nil Nat.toDigits_ne_nil
  exact ⟨c, cs, htext, allDigits_natText n c (htext ▸ List.mem_cons_self)⟩

/-- Whether a number can start with `b`. -/
def startsNumber (b : UInt8) : Bool := b == 45 || isDigit b

theorem utf8_of_startsWithDigit {t : List Char} (h : StartsWithDigit t) :
    ∃ b bs, Text.utf8 t = b :: bs ∧ isDigit b = true := by
  obtain ⟨c, cs, rfl, hc⟩ := h
  obtain ⟨hencode, hdigit⟩ := utf8EncodeChar_digit hc
  exact ⟨_, Text.utf8 cs, by rw [Text.utf8_cons, hencode, List.singleton_append], hdigit⟩

/-- A sign and digits behind it. -/
theorem utf8_of_signed (s : Float.Model.UnpackedFloat.Sign) {t : List Char} (h : StartsWithDigit t) :
    ∃ b bs, Text.utf8 (Style.signText s ++ t) = b :: bs ∧ startsNumber b = true := by
  cases s with
  | negative => exact ⟨45, Text.utf8 t, rfl, rfl⟩
  | positive =>
    obtain ⟨b, bs, hbytes, hb⟩ := utf8_of_startsWithDigit h
    exact ⟨b, bs, hbytes, by simp [startsNumber, hb]⟩

/-! ### The text of a float -/

theorem not_isSpace_of_startsNumber {b : UInt8} (h : startsNumber b = true) : Cursor.isSpace b = false := by
  by_contra hspace
  simp only [Cursor.isSpace, Bool.not_eq_false, Bool.or_eq_true, beq_iff_eq] at hspace
  rcases hspace with ((rfl | rfl) | rfl) | rfl <;> exact absurd h (by decide)

/-- Ahead of a number, nothing else is expected. -/
theorem numeral_eq {b : UInt8} (h : startsNumber b = true) (expected : String) (bs : List UInt8) (place : Place) :
    numeral expected ⟨b :: bs, place⟩ = number ⟨b :: bs, place⟩ := by
  have hpeek : peekToken ⟨b :: bs, place⟩ = .ok (some b, ⟨b :: bs, place⟩) := by
    rw [peekToken, afterBlanks_cons (not_isSpace_of_startsNumber h)]
    rfl
  have hstart : valueStart ⟨b :: bs, place⟩ = .ok (b, ⟨b :: bs, place⟩) := by
    rw [valueStart, bind_apply, hpeek]
    rfl
  have hnumber : b = 45 ∨ isDigit b = true := by
    simpa [startsNumber] using h
  rw [numeral, bind_apply, hstart]
  exact congrFun (if_pos hnumber) _

/-- The 32-bit float that a number is read as. -/
def Numeral.toFloat32 : Numeral → Float32
  | .float x => narrow x
  | .integer n => ofInt32 n

/-- A float is made of the number ahead. -/
theorem float32_eq {b : UInt8} (h : startsNumber b = true) (bs : List UInt8) (place : Place) :
    float32 ⟨b :: bs, place⟩ = (do return (← number).toFloat32 : Reader Float32) ⟨b :: bs, place⟩ := by
  have hfloat : float32 = (do return (← numeral "f32").toFloat32) := by
    unfold float32
    congr 1
    funext n
    cases n <;> rfl
  rw [hfloat, bind_apply, bind_apply, numeral_eq h]

/-- The bytes of a number: the first one tells that it is a number, and none is a blank. -/
theorem bytes_float32 {x : Float32} (hx : x.isFinite = true) : ∃ b bs, (Value.float32 x).bytes = b :: bs ∧
    startsNumber b = true ∧ ∀ b' ∈ b :: bs, Cursor.isSpace b' = false := by
  rw [← documentText32?_isSome] at hx
  obtain ⟨t, ht⟩ := Option.isSome_iff_exists.mp hx
  have hbytes : (Value.float32 x).bytes = Text.utf8 t := by
    rw [Value.bytes, Value.render, ht]
    rfl
  have hspace : ∀ b ∈ Text.utf8 t, Cursor.isSpace b = false := by
    have hchars : ∀ c ∈ numberChars, 43 ≤ c.toNat ∧ c.toNat < 128 := by simp [numberChars]
    have hbytes : ∀ n < 128, 43 ≤ n → Cursor.isSpace (UInt8.ofNat n) = false := by decide
    intro b hb
    obtain ⟨c, hc, hb⟩ := List.mem_flatMap.mp hb
    obtain ⟨hlow, hhigh⟩ := hchars c (finiteText?_subset ht hc)
    rw [Text.utf8EncodeChar_of_lt hhigh, List.mem_singleton] at hb
    rw [hb]
    exact hbytes _ hhigh hlow
  have hstart : ∃ b bs, Text.utf8 t = b :: bs ∧ startsNumber b = true := by
    obtain ⟨s, body, rfl, hbody, -⟩ := finiteText?_cases ht
    exact utf8_of_signed s hbody
  obtain ⟨b, bs, htext, hb⟩ := hstart
  rw [htext] at hbytes hspace
  exact ⟨b, bs, hbytes, hb, hspace⟩

/-- `x` is what a document with its text is read as. -/
def ReadsBack (x : Float32) : Prop := document float32 (Value.float32 x).bytes = .ok x

instance (x : Float32) : Decidable (ReadsBack x) :=
  inferInstanceAs (Decidable (document float32 (Value.float32 x).bytes = .ok x))

/-- A float whose text is read back alone is read back inside a document. -/
theorem reads_float32 {x : Float32} (hx : x.isFinite = true) (h : ReadsBack x) : Reads float32 (.float32 x) x := by
  obtain ⟨b, bs, hbytes, hb, hspace⟩ := bytes_float32 hx
  rw [ReadsBack, hbytes, document, Cursor.start, float32_eq hb, bind_eq_ok_iff] at h
  obtain ⟨⟨y, c⟩, hread, hrest⟩ := h
  have hsteady : Steady (do return (← number).toFloat32) (b :: bs) :=
    (steady_number _).bind fun _ left => steady_pure _ left
  obtain ⟨hsuffix, hpass⟩ := hsteady hread
  simp only at hrest
  split at hrest
  · next hend =>
    obtain rfl : y = x := Except.ok.inj hrest
    -- nothing is left of the text: it has no blank that could be passed over behind the number
    have hnil : c.rest = [] := by
      obtain ⟨left, place⟩ := c
      cases left with
      | nil => rfl
      | cons b' bs' =>
        rw [afterBlanks_cons (hspace b' (hsuffix.subset List.mem_cons_self))] at hend
        cases hend
    intro rest hrest place
    obtain ⟨place', hrun⟩ := hpass rest hrest place
    rw [hnil, List.nil_append] at hrun
    exact ⟨place', by rw [hbytes, List.cons_append, float32_eq hb]; exact hrun⟩
  · cases hrest

/-! ### Whole numbers -/

/-- The digits of a number above zero do not start with zero. -/
theorem head?_natText_ne (n : ℕ) (hn : 0 < n) : (natText n).head? ≠ some '0' := by
  induction n using Nat.strongRecOn with
  | ind n ih =>
    rw [natText, Nat.toDigits_eq_if (by decide)]
    split
    · have hdigits : ∀ n < 10, 0 < n → [n.digitChar].head? ≠ some '0' := by decide
      exact hdigits n ‹_› hn
    · have hne : Nat.toDigits 10 (n / 10) ≠ [] := Nat.toDigits_ne_nil
      rw [List.head?_append_of_ne_nil _ hne]
      exact ih (n / 10) (by omega) (by omega)

theorem le_ofDigitChars (cs : List Char) (n : ℕ) : n ≤ Nat.ofDigitChars 10 cs n := by
  induction cs generalizing n with
  | nil => rw [Nat.ofDigitChars_nil]
  | cons c cs ih =>
    rw [Nat.ofDigitChars_cons]
    exact le_trans (by omega) (ih _)

theorem isDigit_of_mem_utf8 {cs : List Char} (h : AllDigits cs) : ∀ b ∈ Text.utf8 cs, isDigit b = true := by
  intro b hb
  obtain ⟨c, hc, hb⟩ := List.mem_flatMap.mp hb
  obtain ⟨hencode, hdigit⟩ := utf8EncodeChar_digit (h c hc)
  rw [hencode, List.mem_singleton] at hb
  rw [hb]
  exact hdigit

-- a digit is not known here, and computing with it whether it fits would take very long
attribute [local irreducible] pushDigit? in
theorem wholeDigits_cons (significand : ℕ) (d : UInt8) (ds : List UInt8) : wholeDigits significand (d :: ds) =
    match pushDigit? significand d with
    | some n => wholeDigits n ds
    | none => (significand, ds.length + 1) := rfl

/-- No digit is left out of a whole part below 64 bits. -/
theorem wholeDigits_utf8 {cs : List Char} (h : AllDigits cs) (n : ℕ) (hn : Nat.ofDigitChars 10 cs n < 1 <<< 64) :
    wholeDigits n (Text.utf8 cs) = (Nat.ofDigitChars 10 cs n, 0) := by
  induction cs generalizing n with
  | nil => exact congrArg (·, 0) Nat.ofDigitChars_nil.symm
  | cons c cs ih =>
    have hc : c.isDigit = true := h c List.mem_cons_self
    have hcs : AllDigits cs := fun d hd => h d (List.mem_cons_of_mem c hd)
    obtain ⟨hlow, hhigh⟩ := toNat_of_isDigit hc
    have hvalue : 10 * n + ((UInt8.ofNat c.toNat).toNat - 48) = 10 * n + (c.toNat - '0'.toNat) := by
      have hzero : '0'.toNat = 48 := rfl
      rw [UInt8.toNat_ofNat', Nat.mod_eq_of_lt (by omega), hzero]
    rw [Nat.ofDigitChars_cons] at hn ⊢
    have hpush : pushDigit? n (UInt8.ofNat c.toNat) = some (10 * n + (c.toNat - '0'.toNat)) := by
      have hfits : 10 * n + (c.toNat - '0'.toNat) < 1 <<< 64 := lt_of_le_of_lt (le_ofDigitChars cs _) hn
      rw [pushDigit?, hvalue, if_pos hfits]
    rw [Text.utf8_cons, (utf8EncodeChar_digit hc).1, List.singleton_append, wholeDigits_cons, hpush]
    exact ih hcs _ hn

/-- A whole part that fits, with no more behind it. -/
theorem passes_numberValue (hrest : EndsValue rest) : Passes (numberValue positive (significand, 0)) rest
    (wholeNumber positive significand) rest := by
  refine Passes.cursor fun _ => ?_
  rcases hrest.cases with rfl | ⟨bs, rfl⟩ | ⟨bs, rfl⟩ | ⟨bs, rfl⟩ <;> exact passes_pure _ _

/-- A count below 64 bits, behind a minus or not. -/
theorem passes_numberBody (hrest : EndsValue rest) (n : ℕ) (hn : n < 1 <<< 64) :
    Passes (numberBody positive) (Text.utf8 (natText n) ++ rest) (wholeNumber positive n) rest := by
  have hdigits := allDigits_natText n
  have hvalue : wholeDigits 0 (Text.utf8 (natText n)) = (n, 0) := by
    have hread : Nat.ofDigitChars 10 (natText n) 0 = n := Nat.ofDigitChars_ten_toDigits
    rw [wholeDigits_utf8 hdigits 0 (by rwa [hread]), hread]
  have hrun : Passes digitRun (Text.utf8 (natText n) ++ rest) (Text.utf8 (natText n)) rest := by
    have hall := isDigit_of_mem_utf8 hdigits
    have h := passes_digitRun hrest (Text.utf8 (natText n))
    rwa [List.takeWhile_eq_self_iff.mpr hall, List.dropWhile_eq_nil_iff.mpr hall, List.nil_append] at h
  rw [numberBody_eq]
  rcases Nat.eq_zero_or_pos n with rfl | hpos
  · -- zero is the one number that starts with a zero
    refine Passes.cursor fun _ => ?_
    refine Passes.advance (Passes.cursor fun _ => ?_)
    rcases hrest.cases with rfl | ⟨bs, rfl⟩ | ⟨bs, rfl⟩ | ⟨bs, rfl⟩ <;> exact passes_numberValue _ _ hrest
  · obtain ⟨c, cs, htext, hc⟩ := startsWithDigit_natText n
    obtain ⟨hencode, hdigit⟩ := utf8EncodeChar_digit hc
    have hzero : UInt8.ofNat c.toNat ≠ 48 := by
      obtain ⟨-, hhigh⟩ := toNat_of_isDigit hc
      intro heq
      have hnumber : c.toNat = 48 := by
        have hbyte := congrArg UInt8.toNat heq
        rwa [UInt8.toNat_ofNat', Nat.mod_eq_of_lt (by omega)] at hbyte
      have hchar : c = '0' := Char.toNat_inj.mp hnumber
      exact head?_natText_ne n hpos (by rw [htext, hchar]; rfl)
    have hbytes : Text.utf8 (natText n) = UInt8.ofNat c.toNat :: Text.utf8 cs := by
      rw [htext, Text.utf8_cons, hencode, List.singleton_append]
    rw [hbytes] at hrun hvalue
    rw [hbytes]
    refine Passes.cursor fun _ => ?_
    simp only [Cursor.peek?, List.cons_append, List.head?_cons, hdigit, if_true, if_neg hzero]
    refine hrun.bind ?_
    rw [hvalue]
    exact passes_numberValue positive n hrest

/-- An integer between `-2 ^ 63` and `2 ^ 64`. -/
theorem passes_number (hrest : EndsValue rest) {n : ℤ} (hlow : -(1 <<< 63) ≤ n) (hhigh : n < 1 <<< 64) :
    Passes number (Text.utf8 (intText n) ++ rest) (.integer n) rest := by
  unfold number
  cases n with
  | ofNat n =>
    obtain ⟨b, bs, hbytes, hb⟩ := utf8_of_startsWithDigit (startsWithDigit_natText n)
    have hbody := passes_numberBody true hrest n (Int.ofNat_lt.mp hhigh)
    have hminus : ¬ (Text.utf8 (natText n) ++ rest).head? = some 45 := by
      rw [hbytes]
      intro heq
      rw [Option.some.inj heq] at hb
      cases hb
    refine Passes.cursor fun _ => ?_
    rw [Cursor.peek?, intText, if_neg hminus]
    exact hbody
  | negSucc n =>
    have hbody := passes_numberBody false hrest (n + 1) (by omega)
    have hvalue : wholeNumber false (n + 1) = .integer (.negSucc n) := by
      rw [wholeNumber, if_neg Bool.false_ne_true, if_neg (by omega)]
      rfl
    rw [hvalue] at hbody
    exact Passes.cursor fun _ => hbody.advance

/-- An integer of 32 bits is read. -/
theorem reads_int32 {n : ℤ} (hn : -2147483648 ≤ n ∧ n ≤ 2147483647) : Reads int32 (.integer n) n := by
  intro rest hrest
  have hnumber : Passes number (Text.utf8 (intText n) ++ rest) (.integer n) rest :=
    passes_number hrest (by omega) (by omega)
  have hbytes : (Value.integer n).bytes = Text.utf8 (intText n) := by rw [Value.bytes, Value.render]
  obtain ⟨b, bs, htext, hb⟩ : ∃ b bs, Text.utf8 (intText n) = b :: bs ∧ startsNumber b = true := by
    cases n with
    | ofNat n => exact utf8_of_signed .positive (startsWithDigit_natText n)
    | negSucc n => exact utf8_of_signed .negative (startsWithDigit_natText (n + 1))
  rw [hbytes, htext, List.cons_append]
  rw [htext, List.cons_append] at hnumber
  have hnumeral : Passes (numeral "i32") (b :: (bs ++ rest)) (.integer n) rest := fun place => by
    rw [numeral_eq hb]
    exact hnumber place
  refine hnumeral.bind ?_
  simp only [if_pos hn]
  exact passes_pure n rest

end SurveyGateway.Json
