import TraceReplay.Draw.Command
import TraceReplay.Text.Quoted
import TraceReplay.Tool.Outcome

/-!
# The listing program

Prints the calls of a trace, one line each, between a line about the header and a line with their
number. A payload that is no draw command is told in angle brackets.
-/

namespace TraceReplay.ListingProgram

/-- The structured text of a trace error, as the diagnostic tools print it. -/
def detail : TraceError → String
  | .tooSmall size =>
    "FileTooSmall \x7b size: " ++ toString size ++ ", minimum: " ++ toString headerSize ++ " \x7d"
  | .badMagic found =>
    "InvalidMagic \x7b expected: " ++ toString traceMagic.toNat ++ ", actual: "
      ++ toString found.toNat ++ " \x7d"
  | .unsupportedVersion found => "UnsupportedVersion(" ++ toString found.toNat ++ ")"
  | .truncated offset needed available =>
    "Truncated \x7b offset: " ++ toString offset ++ ", needed: " ++ toString needed
      ++ ", available: " ++ toString available ++ " \x7d"
  | .outOfOrder previous found =>
    "OutOfOrder \x7b previous: " ++ toString previous.toNat ++ ", actual: "
      ++ toString found.toNat ++ " \x7d"
  | .openFailed path cause =>
    "OpenFailed \x7b path: " ++ Text.quote path ++ ", source: " ++ cause.detail ++ " \x7d"
  | .writeFailed cause => "WriteFailed(" ++ cause.detail ++ ")"

/-- The command in a payload, or why it is none. -/
def commandText (payload : List UInt8) : String :=
  match DrawCommand.decode payload with
  | .ok command => command.render
  | .error e => "<" ++ e.message ++ ">"

/-- The line of a call. -/
def callLine (c : Call) : String :=
  toString c.no.toNat ++ " " ++ toString c.leg.toNat ++ " " ++ c.flags.render ++ " "
    ++ toString c.payload.length ++ " " ++ commandText c.payload

/-- The line about a header. -/
def headerLine (h : Header) : String :=
  s!"# version {h.version.toNat} with {h.recordCount.toNat} calls recorded"

/-- The lines of a trace, the last one only if the trace has an end. -/
def lines (header : Header) (source : Source) : List String :=
  headerLine header :: source.calls.map callLine
    ++ (match source.fault? with
      | none => ["# " ++ toString source.calls.length ++ " calls"]
      | some _ => [])

/-- Lines as a text. -/
def unlines (ls : List String) : String := String.join (ls.map (· ++ "\n"))

/-- Run the program with its name and its arguments. -/
def run (name : String) (arguments : List String) (files : Files) : ProgramEnd :=
  match arguments with
  | [] => .failed files ("Usage: " ++ name ++ " <trace>")
  | path :: _ =>
    match Session.openTrace files path with
    | .error e => .failed files ("Error: " ++ detail e)
    | .ok reader =>
      let source := reader.toSource
      let text := unlines (lines reader.header source)
      match source.fault? with
      | none => .printed files text
      | some e => .failed files ("Error: " ++ detail e) text.toUTF8

end TraceReplay.ListingProgram
