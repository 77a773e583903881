/-
A short digest of a list of bytes, for showing data that is too long to write out.

Main definition:
* `Digest.fnv1a64` — the 64-bit Fowler-Noll-Vo hash, variant 1a.
-/

namespace ProfiledSocket.Digest

/-- The digest of no bytes. -/
def offsetBasis : UInt64 := 0xcbf29ce484222325

/-- Takes one more byte into a digest. -/
def absorb (digest : UInt64) (byte : UInt8) : UInt64 :=
  (digest ^^^ byte.toUInt64) * 0x100000001b3

/-- The digest of `bytes`. -/
def fnv1a64 (bytes : List UInt8) : UInt64 :=
  bytes.foldl absorb offsetBasis

end ProfiledSocket.Digest
