/-!
# UTF-8

Texts are written as bytes, and bytes are taken apart into characters and pieces that are not UTF-8. Such a piece
is as long as it could be the start of a character.
-/

namespace SurveyGateway.Text

/-- The bytes of a text. -/
def utf8 (cs : List Char) : List UInt8 := cs.flatMap String.utf8EncodeChar

/-- A character that has been begun: the bits read, and the ranges of the bytes that have to follow. -/
structure Begun where
  bits : Nat
  ranges : List (UInt8 × UInt8)

/-- The range of most bytes inside a character. -/
def inner : UInt8 × UInt8 := (0x80, 0xbf)

/-- What a first byte begins. The ranges leave out characters that have a shorter form, the halves of
surrogate pairs, and what lies beyond the last character. -/
def begin? (b : UInt8) : Option Begun :=
  if b < 0x80 then some ⟨b.toNat, []⟩
  else if 0xc2 ≤ b ∧ b ≤ 0xdf then some ⟨b.toNat - 0xc0, [inner]⟩
  else if b = 0xe0 then some ⟨0, [(0xa0, 0xbf), inner]⟩
  else if b = 0xed then some ⟨0xd, [(0x80, 0x9f), inner]⟩
  else if 0xe1 ≤ b ∧ b ≤ 0xef then some ⟨b.toNat - 0xe0, [inner, inner]⟩
  else if b = 0xf0 then some ⟨0, [(0x90, 0xbf), inner, inner]⟩
  else if b = 0xf4 then some ⟨4, [(0x80, 0x8f), inner, inner]⟩
  else if 0xf1 ≤ b ∧ b ≤ 0xf3 then some ⟨b.toNat - 0xf0, [inner, inner, inner]⟩
  else none

/-- The pieces of `bytes` behind a character already begun: characters, and `none` for what is not UTF-8. -/
def piecesFrom (begun : Option Begun) : List UInt8 → List (Option Char)
  | [] => if begun.isSome then [none] else []
  | b :: bs =>
    let fresh : List (Option Char) × Option Begun :=
      match begin? b with
      | some ⟨bits, []⟩ => ([some (Char.ofNat bits)], none)
      | some started => ([], some started)
      | none => ([none], none)
    let (read, next) :=
      match begun with
      | some ⟨bits, (low, high) :: ranges⟩ =>
        if low ≤ b ∧ b ≤ high then
          let bits := 64 * bits + (b.toNat - 0x80)
          if ranges.isEmpty then ([some (Char.ofNat bits)], none) else ([], some ⟨bits, ranges⟩)
        else (none :: fresh.1, fresh.2)
      | _ => fresh
    read ++ piecesFrom next bs

/-- The characters of some bytes, and `none` for each piece that is not UTF-8. -/
def pieces (bytes : List UInt8) : List (Option Char) := piecesFrom none bytes

/-- The text of some bytes, with a replacement character for each piece that is not UTF-8. -/
def lossyText (bytes : List UInt8) : String :=
  String.ofList ((pieces bytes).map fun piece => piece.getD '\ufffd')

/-- How many bytes there are ahead of the first piece that is not UTF-8. -/
def validLength (bytes : List UInt8) : Nat :=
  ((pieces bytes).takeWhile Option.isSome).foldl (fun n piece =>
    n + (piece.map fun c => c.utf8Size).getD 0) 0

/-- How many bytes at the start lie in the ranges one by one, `n` more; none if the bytes end first. -/
def followed? (n : Nat) : List (UInt8 × UInt8) → List UInt8 → Option Nat
  | [], _ => some n
  | _ :: _, [] => none
  | (low, high) :: ranges, b :: bs => if low ≤ b ∧ b ≤ high then followed? (n + 1) ranges bs else some n

/-- How many of some bytes that do not start with a character could be the start of one, at least one; none if
the bytes end before that is known. -/
def faultLength? : List UInt8 → Option Nat
  | [] => none
  | b :: bs =>
    match begin? b with
    | none => some 1
    | some begun => followed? 1 begun.ranges bs

end SurveyGateway.Text
