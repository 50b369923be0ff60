import TraceReplay.Text.Terminal

/-!
# The options of the command line

Every option with its letter, its word and what it takes, and the ways in which a command line can
be wrong.
-/

namespace TraceReplay

/-- An option of the command line. -/
inductive Opt
  | benchmark
  | cpu
  | gpu
  | pixels
  | compare
  | compareCalls
  | snapshot
  | snapshotCalls
  | width
  | height
  | verbose
  | dumpState
  | wait
  | help
  | version
deriving DecidableEq, Repr

/-- What follows an option. -/
inductive Taking
  /-- Nothing, and the option may be given once. -/
  | nothing
  /-- Nothing, and the option counts how often it is given. -/
  | count
  /-- A text. A text that starts with a hyphen has to be attached, unless `hyphens` allows it. -/
  | text (placeholder : String) (hyphens : Bool)
  /-- A call number or size. -/
  | word (placeholder : String)
deriving DecidableEq, Repr

namespace Opt

/-- All options. -/
def all : List Opt :=
  [benchmark, cpu, gpu, pixels, compare, compareCalls, snapshot, snapshotCalls, width, height,
    verbose, dumpState, wait, help, version]

/-- The word of an option. -/
def long : Opt → String
  | benchmark => "benchmark"
  | cpu => "pcpu"
  | gpu => "pgpu"
  | pixels => "ppd"
  | compare => "compare"
  | compareCalls => "compare-calls"
  | snapshot => "snapshot"
  | snapshotCalls => "snapshot-calls"
  | width => "width"
  | height => "height"
  | verbose => "verbose"
  | dumpState => "dump-state"
  | wait => "wait"
  | help => "help"
  | version => "version"

/-- The letter of an option. -/
def letter? : Opt → Option Char
  | benchmark => some 'b'
  | compare => some 'c'
  | compareCalls => some 'C'
  | snapshot => some 's'
  | snapshotCalls => some 'S'
  | verbose => some 'v'
  | dumpState => some 'D'
  | wait => some 'w'
  | help => some 'h'
  | version => some 'V'
  | cpu | gpu | pixels | width | height => none

/-- What an option takes. -/
def taking : Opt → Taking
  | compare => .text "PREFIX" false
  | compareCalls => .text "CALLSET" false
  | snapshot => .text "PREFIX" true
  | snapshotCalls => .text "CALLSET" false
  | width => .word "WIDTH"
  | height => .word "HEIGHT"
  | dumpState => .word "CALLNO"
  | verbose => .count
  | benchmark | cpu | gpu | pixels | wait | help | version => .nothing

/-- The option takes a value. -/
def takesValue (o : Opt) : Bool :=
  match o.taking with
  | .text .. | .word _ => true
  | .nothing | .count => false

/-- The value of the option may start with a hyphen. -/
def allowsHyphens (o : Opt) : Bool :=
  match o.taking with
  | .text _ hyphens => hyphens
  | _ => false

/-- The option as messages name it: with dots behind it if it counts. -/
def shown (o : Opt) : String :=
  match o.taking with
  | .text placeholder _ | .word placeholder => "--" ++ o.long ++ " <" ++ placeholder ++ ">"
  | .nothing => "--" ++ o.long
  | .count => "--" ++ o.long ++ "..."

/-- The option with a word. -/
def ofLong? (name : List Char) : Option Opt := all.find? fun o => o.long.toList == name

/-- The option with a letter. -/
def ofLetter? (c : Char) : Option Opt := all.find? fun o => o.letter? == some c

end Opt

/-- Why a command line is not taken. -/
inductive UsageError
  | unknownArgument (shown : String)
  /-- A value is missing. -/
  | missingValue (shown : String)
  | invalidValue (value shown reason : String)
  /-- An option is given twice. -/
  | repeated (shown : String)
  /-- A value is attached to an option that takes none. -/
  | unexpectedValue (value shown : String)
  /-- The user asks for help, which is no error. -/
  | help
  /-- The user asks for the version, which is no error. -/
  | version
deriving DecidableEq, Repr

namespace UsageError

/-- A text between apostrophes, without control sequences. -/
def named (s : String) : String := s!"'{Text.withoutSequences s}'"

/-- The first line that is shown. -/
def message : UsageError → String
  | unknownArgument shown => s!"error: unexpected argument {named shown} found"
  | missingValue shown => s!"error: a value is required for {named shown} but none was supplied"
  | invalidValue value shown reason =>
    s!"error: invalid value {named value} for {named shown}: {reason}"
  | repeated shown => s!"error: the argument {named shown} cannot be used multiple times"
  | unexpectedValue value shown =>
    s!"error: unexpected value {named value} for {named shown} found; no more were expected"
  | help => "Replay TRACE."
  | version => "retrace 0.1.0"

/-- The command line was a question that is answered. -/
def isQuestion : UsageError → Bool
  | help | version => true
  | _ => false

end UsageError

end TraceReplay
