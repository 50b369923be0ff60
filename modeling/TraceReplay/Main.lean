import TraceReplay.Tool.Demo
import TraceReplay.Tool.Listing
import TraceReplay.Tool.Replay

/-!
# The command line

Three programs in one: the first argument names the program, the others are its arguments. Files
that a program may read are loaded before it runs, and files that it wrote are stored afterwards.
-/

namespace TraceReplay.Main

/-- The number under which the system reports that a path is a directory. -/
def directoryCode : UInt32 := 21

/-- There is a directory at the path. -/
def isDirectory (path : String) : IO Bool := do
  match ← (IO.FS.readBinFile (path ++ "/.")).toBaseIO with
  | .error (.inappropriateType _ code _) => return code == directoryCode
  | _ => return false

/-- Learn of the directory that holds a path. -/
def learnParent (files : Files) (path : String) : IO Files := do
  let parent := Files.parent path
  if parent.isEmpty then return files
  if ← isDirectory parent then return files.makeDirectory parent else return files

/-- Learn what is at a path. -/
def learn (files : Files) (path : String) : IO Files := do
  let files ← learnParent files path
  match ← (IO.FS.readBinFile path).toBaseIO with
  | .ok content => return (files.write path content).toOption.getD files
  | .error _ => if ← isDirectory path then return files.makeDirectory path else return files

/-- The reference images that a replay may load for a source. -/
def references (policy : SnapshotPolicy) (source : Source) : List String :=
  match policy.compareWith? with
  | none => []
  | some start =>
    (source.calls.filter policy.selects).map fun c =>
      snapshotPath start (if c.swapsTarget then Player.numberBefore c else c.no)

/-- Learn of all files that a replay may read, and of the directory that it writes to. -/
def learnReplay (config : Config) : IO Files := do
  let files ← config.traces.foldlM learn {}
  let files ← (config.policy.writeTo?.toList).foldlM learnParent files
  let sources := config.traces.filterMap fun path =>
    (Session.openTrace files path).toOption.map Reader.toSource
  (sources.flatMap (references config.policy)).foldlM learn files

/-- Show what was written so far. A reader that has closed standard output just misses the rest. -/
def present (stdout : ByteArray) (stderr : Array String) : IO Unit := do
  let out ← IO.getStdout
  let _ ← EIO.toBaseIO do
    out.write stdout
    out.flush
  stderr.forM IO.eprintln

/-- A real clock and a real user. -/
def surroundings : Surroundings IO where
  now := IO.monoNanosNow
  pause := fun studio => do
    present studio.stdout.content studio.stderr
    let _ ← (← IO.getStdin).getLine
    return { studio with stdout := studio.stdout.drain, stderr := #[] }

/-- Store the files that a program wrote, and show what it wrote to its outputs. -/
def conclude (before : Files) (e : ProgramEnd) : IO UInt32 := do
  for (path, content) in e.files.toList do
    if (before.read path).toOption.map ByteArray.toList != some content.toList then
      IO.FS.writeBinFile path content
  present e.stdout e.stderr
  return UInt32.ofNat e.exitCode

/-- Run the replay program. -/
def replay (arguments : List String) : IO UInt32 := do
  let files ← match (CommandLine.parse arguments).toOption.bind fun a =>
      (Config.ofArguments a).toOption with
    | some config => learnReplay config
    | none => pure {}
  conclude files (← ReplayProgram.run surroundings Png.codec arguments files)

end TraceReplay.Main

open TraceReplay TraceReplay.Main in
/-- Run the program that the first argument names. -/
def main (arguments : List String) : IO UInt32 := do
  match arguments with
  | "retrace" :: rest => replay rest
  | "trace_dump" :: rest =>
    let files ← (rest.take 1).foldlM learn {}
    conclude files (ListingProgram.run "trace_dump" rest files)
  | "demo_trace" :: rest =>
    let files ← (rest.take 1).foldlM learn {}
    conclude files (DemoProgram.run .checked Operation.report "demo_trace" rest files)
  | _ =>
    IO.eprintln "Usage: retrace|trace_dump|demo_trace ARGUMENTS"
    return 1
