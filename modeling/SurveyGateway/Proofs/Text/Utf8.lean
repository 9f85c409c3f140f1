import Mathlib.Tactic.Common
import SurveyGateway.Text.Utf8

/-!
# Reading UTF-8

The bytes of a text are read as its characters, one by one, with nothing left over and nothing replaced
(`lossyText_utf8`). A character of several bytes begins with a byte that tells how many follow; the ranges of the byte
behind it leave out what no character is written with.
-/

namespace SurveyGateway.Text

/-! ### Bytes of a text -/

theorem utf8_cons (c : Char) (cs : List Char) : utf8 (c :: cs) = String.utf8EncodeChar c ++ utf8 cs := List.flatMap_cons

theorem utf8_append (cs ds : List Char) : utf8 (cs ++ ds) = utf8 cs ++ utf8 ds := List.flatMap_append

/-- A character of ASCII is written as one byte. -/
theorem utf8EncodeChar_of_lt {c : Char} (h : c.toNat < 128) : String.utf8EncodeChar c = [UInt8.ofNat c.toNat] :=
  if_pos (Nat.le_of_lt_succ h)

/-! ### One byte -/

theorem piecesFrom_single {b : UInt8} {bits : ℕ} (h : begin? b = some ⟨bits, []⟩) (bs : List UInt8) :
    piecesFrom none (b :: bs) = some (Char.ofNat bits) :: piecesFrom none bs := by
  simp [piecesFrom, h]

theorem piecesFrom_begin {b : UInt8} {bits : ℕ} {range : UInt8 × UInt8} {ranges : List (UInt8 × UInt8)}
    (h : begin? b = some ⟨bits, range :: ranges⟩) (bs : List UInt8) :
    piecesFrom none (b :: bs) = piecesFrom (some ⟨bits, range :: ranges⟩) bs := by
  simp [piecesFrom, h]

theorem piecesFrom_inner {b low high : UInt8} (h : low ≤ b ∧ b ≤ high) (bits : ℕ) (range : UInt8 × UInt8)
    (ranges : List (UInt8 × UInt8)) (bs : List UInt8) :
    piecesFrom (some ⟨bits, (low, high) :: range :: ranges⟩) (b :: bs) =
      piecesFrom (some ⟨64 * bits + (b.toNat - 0x80), range :: ranges⟩) bs := by
  rw [piecesFrom]
  simp only [if_pos h]
  rfl

theorem piecesFrom_last {b low high : UInt8} (h : low ≤ b ∧ b ≤ high) (bits : ℕ) (bs : List UInt8) :
    piecesFrom (some ⟨bits, [(low, high)]⟩) (b :: bs) =
      some (Char.ofNat (64 * bits + (b.toNat - 0x80))) :: piecesFrom none bs := by
  rw [piecesFrom]
  simp only [if_pos h]
  rfl

/-! ### First bytes -/

theorem toNat_byte {n : ℕ} (h : n < 256) : (UInt8.ofNat n).toNat = n := by
  rw [UInt8.toNat_ofNat', Nat.mod_eq_of_lt h]

theorem byte_mem_range {n : ℕ} (low high : ℕ) (hn : n < 256) (hhigh : high < 256) (h : low ≤ n ∧ n ≤ high) :
    UInt8.ofNat low ≤ UInt8.ofNat n ∧ UInt8.ofNat n ≤ UInt8.ofNat high := by
  rw [UInt8.le_iff_toNat_le, UInt8.le_iff_toNat_le, toNat_byte hn, toNat_byte hhigh, toNat_byte (by omega)]
  exact h

deriving instance DecidableEq for Begun

theorem begin?_one : ∀ n < 0x80, begin? (UInt8.ofNat n) = some ⟨n, []⟩ := by decide

theorem begin?_two : ∀ n < 32, 2 ≤ n → begin? (UInt8.ofNat (n + 192)) = some ⟨n, [inner]⟩ := by decide

/-- The range of the second of three bytes. -/
def secondOfThree (n : ℕ) : UInt8 × UInt8 :=
  (if n = 0 then 0xa0 else 0x80, if n = 0xd then 0x9f else 0xbf)

theorem begin?_three : ∀ n < 16, begin? (UInt8.ofNat (n + 224)) = some ⟨n, [secondOfThree n, inner]⟩ := by
  decide

/-- The range of the second of four bytes. -/
def secondOfFour (n : ℕ) : UInt8 × UInt8 :=
  (if n = 0 then 0x90 else 0x80, if n = 4 then 0x8f else 0xbf)

theorem begin?_four : ∀ n < 5, begin? (UInt8.ofNat (n + 240)) = some ⟨n, [secondOfFour n, inner, inner]⟩ := by
  decide

/-- The six bits that a byte inside a character has. -/
theorem byte_inside {n : ℕ} (h : n < 64) : (UInt8.ofNat (n + 128)).toNat - 0x80 = n := by
  rw [toNat_byte (by omega)]
  omega

/-- A byte inside a character is in its range. -/
theorem inner_mem {n : ℕ} (h : n < 64) : inner.1 ≤ UInt8.ofNat (n + 128) ∧ UInt8.ofNat (n + 128) ≤ inner.2 :=
  byte_mem_range 0x80 0xbf (by omega) (by omega) (by omega)

theorem secondOfThree_mem {n m : ℕ} (hm : m < 64) (hlow : n = 0 → 32 ≤ m) (hhigh : n = 0xd → m < 32) :
    (secondOfThree n).1 ≤ UInt8.ofNat (m + 128) ∧ UInt8.ofNat (m + 128) ≤ (secondOfThree n).2 := by
  unfold secondOfThree
  split_ifs with h₁ h₂ h₂
  · omega
  · exact byte_mem_range 0xa0 0xbf (by omega) (by omega) (by omega)
  · exact byte_mem_range 0x80 0x9f (by omega) (by omega) (by omega)
  · exact inner_mem hm

theorem secondOfFour_mem {n m : ℕ} (hm : m < 64) (hlow : n = 0 → 16 ≤ m) (hhigh : n = 4 → m < 16) :
    (secondOfFour n).1 ≤ UInt8.ofNat (m + 128) ∧ UInt8.ofNat (m + 128) ≤ (secondOfFour n).2 := by
  unfold secondOfFour
  split_ifs with h₁ h₂ h₂
  · omega
  · exact byte_mem_range 0x90 0xbf (by omega) (by omega) (by omega)
  · exact byte_mem_range 0x80 0x8f (by omega) (by omega) (by omega)
  · exact inner_mem hm

/-! ### Characters and texts -/

/-- The bytes of a character are read as the character, whatever follows. -/
theorem piecesFrom_utf8EncodeChar (c : Char) (bs : List UInt8) :
    piecesFrom none (String.utf8EncodeChar c ++ bs) = some c :: piecesFrom none bs := by
  have hc : Char.ofNat c.val.toNat = c := Char.ofNat_toNat c
  have hvalid : c.val.toNat < 0xd800 ∨ 0xdfff < c.val.toNat ∧ c.val.toNat < 0x110000 := c.valid
  unfold String.utf8EncodeChar
  generalize c.val.toNat = v at hc hvalid
  simp only
  -- in each case the bits that are read are put together to the number of the character
  split_ifs with h₁ h₂ h₃
  · rw [List.singleton_append, piecesFrom_single (begin?_one v (by omega)), hc]
  · have hnumber : 64 * (v / 64 % 32) + v % 64 = v := by omega
    rw [List.cons_append, List.singleton_append, piecesFrom_begin (begin?_two (v / 64 % 32) (by omega) (by omega)),
      piecesFrom_last (inner_mem (by omega)), byte_inside (by omega), hnumber, hc]
  · have hnumber : 64 * (64 * (v / 4096 % 16) + v / 64 % 64) + v % 64 = v := by omega
    rw [List.cons_append, List.cons_append, List.singleton_append,
      piecesFrom_begin (begin?_three (v / 4096 % 16) (by omega)),
      piecesFrom_inner (secondOfThree_mem (by omega) (by omega) (by omega)), byte_inside (by omega),
      piecesFrom_last (inner_mem (by omega)), byte_inside (by omega), hnumber, hc]
  · have hnumber : 64 * (64 * (64 * (v / 262144 % 8) + v / 4096 % 64) + v / 64 % 64) + v % 64 = v := by omega
    rw [List.cons_append, List.cons_append, List.cons_append, List.singleton_append,
      piecesFrom_begin (begin?_four (v / 262144 % 8) (by omega)),
      piecesFrom_inner (secondOfFour_mem (by omega) (by omega) (by omega)), byte_inside (by omega),
      piecesFrom_inner (inner_mem (by omega)), byte_inside (by omega),
      piecesFrom_last (inner_mem (by omega)), byte_inside (by omega), hnumber, hc]

theorem pieces_utf8 (cs : List Char) : pieces (utf8 cs) = cs.map some := by
  induction cs with
  | nil => rfl
  | cons c cs ih =>
    rw [pieces, utf8_cons, piecesFrom_utf8EncodeChar, List.map_cons]
    exact congrArg (some c :: ·) ih

/-- The bytes of a text are read as the text. -/
theorem lossyText_utf8 (cs : List Char) : lossyText (utf8 cs) = String.ofList cs := by
  rw [lossyText, pieces_utf8, List.map_map]
  congr 1
  exact List.map_id cs

end SurveyGateway.Text
