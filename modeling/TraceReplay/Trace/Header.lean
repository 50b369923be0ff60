import TraceReplay.Bytes.LittleEndian
import TraceReplay.Trace.Error

/-!
# Trace headers

A trace starts with sixteen bytes: the magic word, the format version (both of 32 bits) and the
number of records (64 bits), all little-endian. The record count is informational; zero means that
the writer did not know it.
-/

namespace TraceReplay

/-- The header of a trace whose magic word is right. -/
structure Header where
  version : UInt32
  recordCount : UInt64
deriving DecidableEq, Repr

namespace Header

/-- The header that a writer of this version puts in front of `count` records. -/
def ofCount (count : UInt64) : Header := ⟨traceVersion, count⟩

/-- The sixteen bytes of a header. -/
def encode (h : Header) : List UInt8 :=
  LittleEndian.encode 4 traceMagic.toNat ++ LittleEndian.encode 4 h.version.toNat
    ++ LittleEndian.encode 8 h.recordCount.toNat

/-- Read the header at the start of a byte string. The size is judged first, then the magic word,
then the version. -/
def decode (bytes : List UInt8) : Except TraceError Header :=
  let head := bytes.take headerSize
  let magic := UInt32.ofNat (LittleEndian.decode (head.take 4))
  let version := UInt32.ofNat (LittleEndian.decode ((head.drop 4).take 4))
  let count := UInt64.ofNat (LittleEndian.decode (head.drop 8))
  if head.length < headerSize then .error (.tooSmall bytes.length)
  else if magic ≠ traceMagic then .error (.badMagic magic)
  else if version = 0 ∨ traceVersion < version then .error (.unsupportedVersion version)
  else .ok ⟨version, count⟩

@[simp] theorem length_encode (h : Header) : h.encode.length = headerSize := by
  simp [encode, headerSize]

end Header

end TraceReplay
