import TraceReplay.Session.Basic

/-!
# What a program leaves behind
-/

namespace TraceReplay

/-- The exit code of a program, what it wrote, and the files it left. -/
structure ProgramEnd where
  exitCode : Nat
  stdout : ByteArray
  stderr : Array String
  files : Files

namespace ProgramEnd

/-- A program that failed with a line on standard error, having written `stdout`. -/
def failed (files : Files) (line : String) (stdout : ByteArray := ByteArray.empty) : ProgramEnd :=
  ⟨1, stdout, #[line], files⟩

/-- A program that broke off, with a report of that on standard error. -/
def brokenOff (files : Files) (report : Array String) : ProgramEnd := ⟨101, ByteArray.empty, report, files⟩

/-- A program that succeeded with one text on standard output. -/
def printed (files : Files) (text : String) : ProgramEnd := ⟨0, text.toUTF8, #[], files⟩

end ProgramEnd

end TraceReplay
