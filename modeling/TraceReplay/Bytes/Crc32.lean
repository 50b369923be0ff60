/-!
# Cyclic redundancy checks

The 32-bit check of PNG chunks, with the reversed polynomial and a table of what one byte does, and
the Adler-32 check at the end of a zlib stream.
-/

namespace TraceReplay.Crc32

/-- Divide the register by the polynomial for so many bits. -/
def shift (register : UInt32) : (bits : Nat) → UInt32
  | 0 => register
  | n + 1 =>
    shift (if register &&& 1 == 1 then (register >>> 1) ^^^ 0xedb88320 else register >>> 1) n

/-- What a low byte of the register does when it is shifted out. -/
def table : Array UInt32 := Array.ofFn fun b : Fin 256 => shift (UInt32.ofNat b.val) 8

/-- The register after one more byte. -/
def mix (register : UInt32) (b : UInt8) : UInt32 :=
  table[((register ^^^ b.toUInt32) &&& 0xff).toNat]?.getD 0 ^^^ (register >>> 8)

/-- The check of a byte string. -/
def ofBytes (bytes : ByteArray) : UInt32 := ~~~ (bytes.foldl mix 0xffffffff)

end TraceReplay.Crc32

namespace TraceReplay.Adler32

/-- Both sums after one more byte. -/
def mix (sums : UInt32 × UInt32) (b : UInt8) : UInt32 × UInt32 :=
  let low := (sums.1 + b.toUInt32) % 65521
  (low, (sums.2 + low) % 65521)

/-- The check of a byte string. -/
def ofBytes (bytes : ByteArray) : Nat :=
  let sums := bytes.foldl mix (1, 0)
  sums.2.toNat * 65536 + sums.1.toNat

end TraceReplay.Adler32
