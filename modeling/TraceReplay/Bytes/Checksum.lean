/-!
# Checksums of byte strings

The 64-bit FNV-1a hash: each byte is mixed into the low end of the hash, which is then multiplied
by a fixed prime, all modulo `2 ^ 64`.
-/

namespace TraceReplay.Checksum

/-- Hash of the empty string. -/
def offsetBasis : UInt64 := 0xcbf29ce484222325

def prime : UInt64 := 0x100000001b3

/-- The hash after one more byte. -/
@[inline] def mix (hash : UInt64) (b : UInt8) : UInt64 := (hash ^^^ b.toUInt64) * prime

/-- FNV-1a hash of a byte string. -/
def fnv1a (bytes : List UInt8) : UInt64 := bytes.foldl mix offsetBasis

end TraceReplay.Checksum
