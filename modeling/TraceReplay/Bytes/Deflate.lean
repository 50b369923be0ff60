import TraceReplay.Bytes.Crc32

/-!
# Deflating without compression

Data as a zlib stream of stored blocks, each of them full but the last.
-/

namespace TraceReplay.Deflate

/-- The largest stored block. -/
def storedSize : Nat := 65535

/-- A number in two bytes, the low one first. -/
def short (n : Nat) : ByteArray := ⟨#[UInt8.ofNat n, UInt8.ofNat (n / 256)]⟩

/-- Data as stored blocks, from an offset on. -/
def storeFrom (data : ByteArray) : (fuel : Nat) → (offset : Nat) → ByteArray
  | 0, _ => ByteArray.empty
  | fuel + 1, offset =>
    let size := min storedSize (data.size - offset)
    let isLast := data.size ≤ offset + size
    let block := ByteArray.empty.push (if isLast then 1 else 0) ++ short size
      ++ short (65535 - size) ++ data.extract offset (offset + size)
    if isLast then block else block ++ storeFrom data fuel (offset + size)

/-- Data as stored blocks. -/
def store (data : ByteArray) : ByteArray := storeFrom data (data.size / storedSize + 1) 0

/-- Data as a zlib stream. -/
def zlib (data : ByteArray) : ByteArray :=
  let check := Adler32.ofBytes data
  ByteArray.mk #[0x78, 0x01] ++ store data
    ++ ⟨#[UInt8.ofNat (check / 16777216), UInt8.ofNat (check / 65536), UInt8.ofNat (check / 256),
      UInt8.ofNat check]⟩

end TraceReplay.Deflate
