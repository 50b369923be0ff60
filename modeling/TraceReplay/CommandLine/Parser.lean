import TraceReplay.CommandLine.Usage
import TraceReplay.Text.Blank
import TraceReplay.Text.Numeral

/-!
# Reading the command line

Arguments are read from left to right. An option is a word after two hyphens or a letter after one,
several letters may share a hyphen, and a value is the next argument or attached to the option.
From the first argument that is neither on, and after two hyphens alone, all arguments are traces.
A value that is an argument of its own is judged when the next known option or trace turns up, or at
the end; an unknown option is reported at once.
-/

namespace TraceReplay

/-- What a command line says. -/
structure Arguments where
  benchmark : Bool := false
  cpu : Bool := false
  gpu : Bool := false
  pixels : Bool := false
  compare? : Option String := none
  compareCalls? : Option String := none
  snapshot? : Option String := none
  snapshotCalls? : Option String := none
  width : UInt32 := 256
  height : UInt32 := 256
  /-- How often more output was asked for, at most 255. -/
  verbose : Nat := 0
  dumpState? : Option UInt32 := none
  wait : Bool := false
  traces : List String := []
deriving DecidableEq, Repr

namespace CommandLine

/-- The greatest count of a counting option. -/
def greatestCount : Nat := 255

/-- The first number above the signed words of 64 bits. -/
def signedEnd : Nat := 1 <<< 63

/-- Read a word of 32 bits as an option's value. It is read as a signed word of 64 bits first. -/
def parseWord (o : Opt) (value : String) : Except UsageError UInt32 :=
  match Numeral.parseInt signedEnd (signedEnd - 1) value.toList with
  | .error e => .error (.invalidValue value o.shown e.message)
  | .ok n =>
    if 0 ≤ n ∧ n < UInt32.size then .ok (UInt32.ofNat n.toNat)
    else .error (.invalidValue value o.shown (toString n ++ " is not in 0..=4294967295"))

/-- An option whose value is the next argument, and that argument once it is there. -/
structure Pending where
  option : Opt
  value? : Option String := none
deriving DecidableEq, Repr

/-- The value may start with a hyphen, and is not there yet. -/
def Pending.takesAnything (p : Pending) : Bool := p.value?.isNone && p.option.allowsHyphens

/-- What was read so far. -/
structure State where
  arguments : Arguments := {}
  /-- Options that may not be given again. -/
  given : List Opt := []
  /-- An option that waits for its value, or whose value is not yet judged. -/
  pending? : Option Pending := none
  /-- Only traces are left. -/
  onlyTraces : Bool := false

/-- Record an option that takes no value. -/
def setFlag (a : Arguments) : Opt → Arguments
  | .benchmark => { a with benchmark := true }
  | .cpu => { a with cpu := true }
  | .gpu => { a with gpu := true }
  | .pixels => { a with pixels := true }
  | .wait => { a with wait := true }
  | .verbose => { a with verbose := min greatestCount (a.verbose + 1) }
  | _ => a

/-- Record the value of an option. -/
def setValue (a : Arguments) (o : Opt) (value : String) : Except UsageError Arguments :=
  match o with
  | .compare => .ok { a with compare? := some value }
  | .compareCalls => .ok { a with compareCalls? := some value }
  | .snapshot => .ok { a with snapshot? := some value }
  | .snapshotCalls => .ok { a with snapshotCalls? := some value }
  | .width => (parseWord .width value).map fun width => { a with width }
  | .height => (parseWord .height value).map fun height => { a with height }
  | .dumpState => (parseWord .dumpState value).map fun n => { a with dumpState? := some n }
  | _ => .ok a

namespace State

/-- Note that an option was given; most may be given once. -/
def note (s : State) (o : Opt) : Except UsageError State :=
  if o.taking = .count then .ok s
  else if o ∈ s.given then .error (.repeated o.shown)
  else .ok { s with given := o :: s.given }

/-- An option with its value. -/
def takeValue (s : State) (o : Opt) (value : String) : Except UsageError State := do
  let s ← s.note o
  let arguments ← setValue s.arguments o value
  return { s with arguments }

/-- Judge the value of the option before, which may be missing. -/
def settle (s : State) : Except UsageError State :=
  match s.pending? with
  | some ⟨o, some value⟩ => { s with pending? := none }.takeValue o value
  | some ⟨o, none⟩ => .error (.missingValue o.shown)
  | none => .ok s

/-- An option without value. -/
def takeFlag (s : State) (o : Opt) : Except UsageError State := do
  let s ← s.settle
  match o with
  | .help => .error .help
  | .version => .error .version
  | _ =>
    let s ← s.note o
    return { s with arguments := setFlag s.arguments o }

/-- An option that takes a value, with what is attached to it. -/
def takeOption (s : State) (o : Opt) (attached? : Option (List Char)) :
    Except UsageError State := do
  let s ← s.settle
  match attached? with
  | some value => s.takeValue o (String.ofList value)
  | none => return { s with pending? := some { option := o } }

/-- Letters that share a hyphen. -/
def takeLetters (s : State) : List Char → Except UsageError State
  | [] => .ok s
  | c :: rest =>
    match Opt.ofLetter? c with
    | none => .error (.unknownArgument (String.ofList ['-', c]))
    | some o =>
      if o.takesValue then
        s.takeOption o (match rest with
          | [] => none
          | '=' :: value => some value
          | value => some value)
      else do
        let s ← s.takeFlag o
        s.takeLetters rest

/-- A word after two hyphens, with the value after an equals sign. -/
def takeLong (s : State) (text : List Char) : Except UsageError State :=
  let (name, attached?) := match Text.cut? '=' text with
    | some (name, value) => (name, some value)
    | none => (text, none)
  match Opt.ofLong? name with
  | none => .error (.unknownArgument ("--" ++ String.ofList name))
  | some o =>
    if o.takesValue then s.takeOption o attached?
    else match attached? with
      | some value => .error (.unexpectedValue (String.ofList value) o.shown)
      | none => s.takeFlag o

/-- A trace. -/
def takeTrace (s : State) (text : String) : Except UsageError State := do
  let s ← s.settle
  return { s with
    onlyTraces := true
    arguments := { s.arguments with traces := s.arguments.traces ++ [text] } }

/-- An argument that starts with no hyphen, or that may be a value although it does. -/
def takePlain (s : State) (text : String) : Except UsageError State :=
  match s.pending? with
  | some ⟨o, none⟩ => .ok { s with pending? := some ⟨o, some text⟩ }
  | _ => s.takeTrace text

/-- One argument. -/
def take (s : State) (argument : String) : Except UsageError State :=
  if s.onlyTraces then s.takeTrace argument
  else if s.pending?.any Pending.takesAnything then s.takePlain argument
  else match argument.toList with
    | ['-', '-'] => .ok { s with onlyTraces := true }
    | '-' :: '-' :: text => s.takeLong text
    | '-' :: c :: text => s.takeLetters (c :: text)
    | _ => s.takePlain argument

end State

/-- Judge the traces: none may be empty. -/
def checkTraces (a : Arguments) : Except UsageError Arguments :=
  if a.traces.any String.isEmpty then .error (.missingValue "[TRACE]...") else .ok a

/-- Read the arguments behind the program's name. -/
def parse (arguments : List String) : Except UsageError Arguments := do
  let s ← arguments.foldlM State.take {}
  let s ← s.settle
  checkTraces s.arguments

end CommandLine

end TraceReplay
