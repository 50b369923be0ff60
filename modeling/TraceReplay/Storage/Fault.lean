/-!
# Faults of storage and output

Why a file or an output stream refused an operation. Every cause has its system text; causes that
the operating system reports also carry its error number and the class of the error.
-/

namespace TraceReplay

/-- Why storage refused an operation. -/
inductive StorageFault
  /-- No such file or directory. -/
  | notFound
  /-- A component of the path is a file. -/
  | notADirectory
  /-- The path is a directory. -/
  | isADirectory
  /-- The file cannot be mapped into memory, as a directory cannot. -/
  | notMappable
  /-- A component of the path is longer than 255 bytes. -/
  | nameTooLong
  /-- The path holds a zero byte. -/
  | zeroByte
  /-- The write does not fit. -/
  | full
  /-- The stream does not flush. -/
  | flushRefused
deriving DecidableEq, Repr

namespace StorageFault

/-- Plain text of the cause, without an error number. -/
def text : StorageFault → String
  | notFound => "No such file or directory"
  | notADirectory => "Not a directory"
  | isADirectory => "Is a directory"
  | notMappable => "No such device"
  | nameTooLong => "File name too long"
  | zeroByte => "file name contained an unexpected NUL byte"
  | full => "disk full"
  | flushRefused => "flush refused"

/-- The system's error number, if the system reported the fault. -/
def code? : StorageFault → Option Nat
  | notFound => some 2
  | notADirectory => some 20
  | isADirectory => some 21
  | notMappable => some 19
  | nameTooLong => some 36
  | zeroByte | full | flushRefused => none

/-- Class of the fault. -/
def kind : StorageFault → String
  | notFound => "NotFound"
  | notADirectory => "NotADirectory"
  | isADirectory => "IsADirectory"
  | notMappable => "Uncategorized"
  | nameTooLong => "InvalidFilename"
  | zeroByte => "InvalidInput"
  | full => "StorageFull"
  | flushRefused => "Other"

/-- The text shown to a user: system faults also give their number. -/
def message (f : StorageFault) : String :=
  match f.code? with
  | some code => s!"{f.text} (os error {code})"
  | none => f.text

/-- The structured text of a fault, as the diagnostic tools print it. -/
def detail (f : StorageFault) : String :=
  match f.code? with
  | some code => "Os \x7b code: " ++ toString code ++ ", kind: " ++ f.kind ++ ", message: \""
      ++ f.text ++ "\" \x7d"
  | none => "Error \x7b kind: " ++ f.kind ++ ", message: \"" ++ f.text ++ "\" \x7d"

end StorageFault

end TraceReplay
