import SurveyGateway.Number.Shortest

/-!
# Number styles

A style lays out the shortest digits of a float as text. Two styles are used: `Style.document` for numbers
inside JSON documents and `Style.plain` for numbers inside messages and metrics.
-/

namespace SurveyGateway.Number

open Float.Model Float.Model.UnpackedFloat

/-! ### Whole numbers -/

/-- The decimal digits of a count. -/
def natText (n : Nat) : List Char := Nat.toDigits 10 n

/-- The decimal digits of a whole number behind its sign. -/
def intText : Int → List Char
  | .ofNat n => natText n
  | .negSucc n => '-' :: natText (n + 1)

/-! ### Floats -/

/-- How the digits of a float are laid out. -/
structure Style where
  tie : Tie
  /-- Whether a number whose first digit stands for `10 ^ power` is written without an exponent. -/
  positional : Int → Bool
  /-- Whether a whole number is written with a fraction of zero. -/
  fraction : Bool

namespace Style

/-- 64-bit floats in documents: positional from `10 ^ -5` to below `10 ^ 16`, and always with a fraction or
an exponent. -/
def document64 : Style := ⟨.toEven, fun power => decide (-5 ≤ power ∧ power ≤ 15), true⟩

/-- 32-bit floats in documents: positional from `10 ^ -6` to below `10 ^ 13`. -/
def document32 : Style := ⟨.toEven, fun power => decide (-6 ≤ power ∧ power ≤ 12), true⟩

/-- Floats in messages: always positional, whole numbers without a fraction. -/
def plain : Style := ⟨.up, fun _ => true, false⟩

/-- The exponent of a number in scientific form, with its sign. -/
def exponentText (power : Int) : List Char :=
  'e' :: (if power < 0 then '-' else '+') :: natText power.natAbs

/-- The text of a decimal without its sign. -/
def decimalText (style : Style) (d : Decimal) : List Char :=
  let digits := natText d.digits
  let point := (digits.length : Int) + d.exponent
  if style.positional (point - 1) then
    if 0 ≤ d.exponent then
      digits ++ List.replicate d.exponent.toNat '0' ++ (if style.fraction then ['.', '0'] else [])
    else if 0 < point then
      digits.take point.toNat ++ '.' :: digits.drop point.toNat
    else
      '0' :: '.' :: (List.replicate (-point).toNat '0' ++ digits)
  else
    (match digits with
      | [] => []
      | [d] => [d]
      | d :: rest => d :: '.' :: rest) ++ exponentText (point - 1)

/-- A minus for negative numbers. -/
def signText : Sign → List Char
  | .negative => ['-']
  | .positive => []

/-- The text of a number of format `spec`; none for infinities and NaN. -/
def finiteText? (style : Style) (spec : Format) : UnpackedFloat → Option (List Char)
  | .zero s => some (signText s ++ '0' :: (if style.fraction then ['.', '0'] else []))
  | .finite s m e _ => some (signText s ++ style.decimalText ((intervalOf spec m e).shortest style.tie))
  | _ => none

/-- The text of a number of format `spec`; infinities and NaN go by name. -/
def text (style : Style) (spec : Format) (x : UnpackedFloat) : List Char :=
  (style.finiteText? spec x).getD (match x with
    | .infinity s => signText s ++ "inf".toList
    | _ => "NaN".toList)

end Style

/-- A 32-bit float in a document; none for infinities and NaN. -/
def documentText32? (x : Float32) : Option (List Char) :=
  Style.document32.finiteText? .binary32 x.toModel.unpack

/-- A 64-bit float in a document; none for infinities and NaN. -/
def documentText64? (x : Float) : Option (List Char) :=
  Style.document64.finiteText? .binary64 x.toModel.unpack

/-- A 32-bit float in a message. -/
def plainText32 (x : Float32) : List Char := Style.plain.text .binary32 x.toModel.unpack

/-- A 64-bit float in a message. -/
def plainText64 (x : Float) : List Char := Style.plain.text .binary64 x.toModel.unpack

end SurveyGateway.Number
