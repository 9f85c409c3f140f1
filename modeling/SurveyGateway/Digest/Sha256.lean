import SurveyGateway.Text.Hex

/-!
# SHA-256

The 256-bit digest of a list of bytes. The message is padded to whole blocks of 64 bytes; each block is
expanded to 64 words and mixed into the eight words of the state.
-/

namespace SurveyGateway.Digest

/-! ### Constants -/

/-- The round constants: the first 32 bits of the fractions of the cube roots of the first 64 primes. -/
def roundConstants : List UInt32 := [
  0x428a2f98, 0x71374491, 0xb5c0fbcf, 0xe9b5dba5, 0x3956c25b, 0x59f111f1, 0x923f82a4, 0xab1c5ed5,
  0xd807aa98, 0x12835b01, 0x243185be, 0x550c7dc3, 0x72be5d74, 0x80deb1fe, 0x9bdc06a7, 0xc19bf174,
  0xe49b69c1, 0xefbe4786, 0x0fc19dc6, 0x240ca1cc, 0x2de92c6f, 0x4a7484aa, 0x5cb0a9dc, 0x76f988da,
  0x983e5152, 0xa831c66d, 0xb00327c8, 0xbf597fc7, 0xc6e00bf3, 0xd5a79147, 0x06ca6351, 0x14292967,
  0x27b70a85, 0x2e1b2138, 0x4d2c6dfc, 0x53380d13, 0x650a7354, 0x766a0abb, 0x81c2c92e, 0x92722c85,
  0xa2bfe8a1, 0xa81a664b, 0xc24b8b70, 0xc76c51a3, 0xd192e819, 0xd6990624, 0xf40e3585, 0x106aa070,
  0x19a4c116, 0x1e376c08, 0x2748774c, 0x34b0bcb5, 0x391c0cb3, 0x4ed8aa4a, 0x5b9cca4f, 0x682e6ff3,
  0x748f82ee, 0x78a5636f, 0x84c87814, 0x8cc70208, 0x90befffa, 0xa4506ceb, 0xbef9a3f7, 0xc67178f2]

/-- The eight words of a digest. -/
structure State where
  a : UInt32
  b : UInt32
  c : UInt32
  d : UInt32
  e : UInt32
  f : UInt32
  g : UInt32
  h : UInt32
  deriving DecidableEq

namespace State

/-- The state before the first block: the first 32 bits of the fractions of the square roots of the first
eight primes. -/
def initial : State :=
  ⟨0x6a09e667, 0xbb67ae85, 0x3c6ef372, 0xa54ff53a, 0x510e527f, 0x9b05688c, 0x1f83d9ab, 0x5be0cd19⟩

/-- Word by word sum. -/
def add (s t : State) : State :=
  ⟨s.a + t.a, s.b + t.b, s.c + t.c, s.d + t.d, s.e + t.e, s.f + t.f, s.g + t.g, s.h + t.h⟩

/-- The words in order. -/
def words (s : State) : List UInt32 := [s.a, s.b, s.c, s.d, s.e, s.f, s.g, s.h]

end State

/-! ### Words -/

/-- `x` rotated to the right. -/
def rotate (x n : UInt32) : UInt32 := (x >>> n) ||| (x <<< (32 - n))

/-- The big-endian word of four bytes. -/
def wordOf (a b c d : UInt8) : UInt32 :=
  (a.toUInt32 <<< 24) ||| (b.toUInt32 <<< 16) ||| (c.toUInt32 <<< 8) ||| d.toUInt32

/-- The bytes of a word, greatest first. -/
def wordBytes (w : UInt32) : List UInt8 :=
  [(w >>> 24).toUInt8, (w >>> 16).toUInt8, (w >>> 8).toUInt8, w.toUInt8]

/-- The words of a list of bytes; bytes that do not fill a word are left out. -/
def wordsOf : List UInt8 → List UInt32
  | a :: b :: c :: d :: rest => wordOf a b c d :: wordsOf rest
  | _ => []

/-! ### Compression -/

/-- The words of a block continued by `count` words. The argument holds the words so far, last one first. -/
def expand (count : Nat) (words : List UInt32) : List UInt32 :=
  match count with
  | 0 => words
  | count + 1 =>
    match words.drop 1, words.drop 6, words.drop 14, words.drop 15 with
    | w2 :: _, w7 :: _, w15 :: _, w16 :: _ =>
      let s0 := rotate w15 7 ^^^ rotate w15 18 ^^^ (w15 >>> 3)
      let s1 := rotate w2 17 ^^^ rotate w2 19 ^^^ (w2 >>> 10)
      expand count ((w16 + s0 + w7 + s1) :: words)
    | _, _, _, _ => words

/-- One round, with its constant and its word. -/
def roundStep (s : State) (kw : UInt32 × UInt32) : State :=
  let s1 := rotate s.e 6 ^^^ rotate s.e 11 ^^^ rotate s.e 25
  let choice := (s.e &&& s.f) ^^^ ((~~~s.e) &&& s.g)
  let t1 := s.h + s1 + choice + kw.1 + kw.2
  let s0 := rotate s.a 2 ^^^ rotate s.a 13 ^^^ rotate s.a 22
  let majority := (s.a &&& s.b) ^^^ (s.a &&& s.c) ^^^ (s.b &&& s.c)
  ⟨t1 + (s0 + majority), s.a, s.b, s.c, s.d + t1, s.e, s.f, s.g⟩

/-- The state behind one block of sixteen words. -/
def compress (s : State) (block : List UInt32) : State :=
  let words := (expand 48 block.reverse).reverse
  s.add ((roundConstants.zip words).foldl roundStep s)

/-- The state behind `count` blocks of 64 bytes. -/
def compressBlocks (s : State) (count : Nat) (bytes : List UInt8) : State :=
  match count with
  | 0 => s
  | count + 1 => compressBlocks (compress s (wordsOf (bytes.take 64))) count (bytes.drop 64)

/-! ### Messages -/

/-- A number in eight bytes, the most significant first. -/
def bytesOfNat (n : Nat) : List UInt8 := (List.range 8).map fun i => UInt8.ofNat (n >>> (56 - 8 * i))

/-- How many zeros follow the one bit of a message, so that its length ends a block. -/
def padding (length : Nat) : Nat := (119 - length % 64) % 64

/-- The message behind which a one bit, zeros and its length in bits fill whole blocks. -/
def padded (message : List UInt8) : List UInt8 :=
  message ++ 0x80 :: (List.replicate (padding message.length) 0 ++ bytesOfNat (8 * message.length))

/-- The SHA-256 digest of a message: 32 bytes. -/
def sha256 (message : List UInt8) : List UInt8 :=
  let bytes := padded message
  (compressBlocks .initial (bytes.length / 64) bytes).words.flatMap wordBytes

end SurveyGateway.Digest
