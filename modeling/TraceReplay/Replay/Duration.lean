/-!
# Durations

Whole seconds and nanoseconds, with the count of microseconds in a 64-bit word and the number of
seconds as a double.
-/

namespace TraceReplay

/-- A span of time. -/
structure Duration where
  seconds : Nat := 0
  nanos : Nat := 0
deriving DecidableEq, Repr

namespace Duration

def zero : Duration := {}

/-- A span given in nanoseconds. -/
def ofNanos (n : Nat) : Duration := ⟨n / 1000000000, n % 1000000000⟩

/-- A span of seconds and nanoseconds, which may be more than a second. Nothing if a word of 64 bits
does not count its seconds. -/
def ofParts? (seconds nanos : Nat) : Option Duration :=
  let seconds := seconds + nanos / 1000000000
  if seconds < UInt64.size then some ⟨seconds, nanos % 1000000000⟩ else none

/-- Whole microseconds, in a word of 64 bits. -/
def micros (d : Duration) : Nat := (d.seconds * 1000000 + d.nanos / 1000) % UInt64.size

/-- Seconds as a double: the whole seconds plus the quotient of the nanoseconds. -/
def toFloat (d : Duration) : Float :=
  (UInt64.ofNat d.seconds).toFloat + (UInt64.ofNat d.nanos).toFloat / 1000000000

end Duration

end TraceReplay
