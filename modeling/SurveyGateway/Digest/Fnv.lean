/-!
# FNV-1a

A quick digest of 64 bits: every byte is mixed into the lowest bits, which a multiplication then spreads. It is no
protection against inputs that are made to collide.
-/

namespace SurveyGateway.Digest

/-- The digest with one more byte. -/
def fnvStep (digest : UInt64) (byte : UInt8) : UInt64 := (digest ^^^ byte.toUInt64) * 0x100000001b3

/-- The FNV-1a digest of some bytes. -/
def fnv (bytes : List UInt8) : UInt64 := bytes.foldl fnvStep 0xcbf29ce484222325

end SurveyGateway.Digest
