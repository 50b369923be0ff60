import TraceReplay.Storage.Fault
import TraceReplay.Text.Padded

/-!
# What can be wrong with a trace

One constructor per cause, and the wording of each in `TraceError.message`.
-/

namespace TraceReplay

/-- The first four bytes of a trace, `RLAY`, as a little-endian word. -/
def traceMagic : UInt32 := 0x59414c52

/-- The format version that is written, and the newest one that is read. -/
def traceVersion : UInt32 := 1

/-- Size of the header, and of the fixed part of a record. -/
def headerSize : Nat := 16

/-- Why a trace cannot be opened, read or written. -/
inductive TraceError
  /-- Fewer bytes than a header has. -/
  | tooSmall (size : Nat)
  | badMagic (found : UInt32)
  | unsupportedVersion (found : UInt32)
  /-- The record at `offset` needs more bytes than are left. -/
  | truncated (offset needed available : Nat)
  /-- A record's number is not above the number before it. -/
  | outOfOrder (previous found : UInt32)
  | openFailed (path : String) (cause : StorageFault)
  | writeFailed (cause : StorageFault)
deriving DecidableEq, Repr

/-- The text of a trace error. -/
def TraceError.message : TraceError → String
  | tooSmall size => s!"Trace file too small: {size} bytes, minimum {headerSize} bytes"
  | badMagic found =>
    s!"Invalid trace magic: expected 0x{Padded.hexWord traceMagic}, got 0x{Padded.hexWord found}"
  | unsupportedVersion found => s!"Unsupported trace version: {found.toNat}"
  | truncated offset needed available =>
    s!"Truncated record at offset {offset}: need {needed} bytes, {available} available"
  | outOfOrder previous found =>
    s!"Call {found.toNat} follows call {previous.toNat}, call numbers must increase"
  | openFailed path _ => s!"Failed to open trace {path}"
  | writeFailed cause => s!"Failed to write trace: {cause.message}"

end TraceReplay
