import TraceReplay.Storage.Fault
import TraceReplay.Text.Blank

/-!
# Files

The files and directories that a program knows of. A place is a list of names that lead there from
the working directory, or from the root if the first name is a slash; two dots at the start lead
above the working directory. In a path, empty components do not count, a single dot stays where it
is, which has to be a directory, and two dots go up.
-/

namespace TraceReplay

/-- Directories and files by their places. The working directory itself is always there. -/
structure Files where
  directories : List (List String) := []
  contents : List (List String × ByteArray) := []

namespace Files

/-- The components of a path that count. -/
def components (path : String) : List String := (Text.parts '/' path).filter (· != "")

/-- The path ends in a slash, so it must lead to a directory. -/
def endsInSlash (path : String) : Bool := path.toList.getLast? == some '/'

/-- The longest component of a path, in bytes. -/
def longestName : Nat := 255

/-- The longest path, in bytes. -/
def longestPath : Nat := 4095

/-- There is a directory at a place. The working directory, those above it and the root always
are. -/
def isDirectory (f : Files) (place : List String) : Bool :=
  place.all (fun c => c == ".." || c == "/") || f.directories.contains place

def content? (f : Files) (place : List String) : Option ByteArray :=
  (f.contents.find? (·.1 == place)).map Prod.snd

/-- The place above a place. -/
def above (place : List String) : List String :=
  match place.getLast? with
  | none | some ".." => place ++ [".."]
  | some "/" => place
  | some _ => place.dropLast

/-- Where one component of a path leads from a place. -/
def step (place : List String) (c : String) : List String :=
  if c = ".." then above place else if c = "." then place else place ++ [c]

/-- Where one component of a path leads if its length can be that of a name. -/
def step? (place : List String) (c : String) : Except StorageFault (List String) :=
  if longestName < c.utf8ByteSize then .error .nameTooLong else .ok (step place c)

/-- Follow components of a path from a place, all of them through directories. -/
def walk (f : Files) (place : List String) : List String → Except StorageFault (List String)
  | [] => .ok place
  | c :: rest => do
    let next ← step? place c
    if f.isDirectory next then walk f next rest
    else if (f.content? next).isSome then .error .notADirectory
    else .error .notFound

/-- The path leads from the root. -/
def isAbsolute (path : String) : Bool := path.toList.head? == some '/'

/-- Where a path starts. -/
def origin (path : String) : List String := if isAbsolute path then ["/"] else []

/-- The directory in which a path looks its last component up. -/
def lastDirectory (f : Files) (path : String) : Except StorageFault (List String) :=
  if path.toList.contains (Char.ofNat 0) then .error .zeroByte
  else if longestPath < path.utf8ByteSize then .error .nameTooLong
  else if path.isEmpty then .error .notFound
  else f.walk (origin path) (components path).dropLast

/-- Where a path leads. The last component need not exist. -/
def place (f : Files) (path : String) : Except StorageFault (List String) := do
  let dir ← f.lastDirectory path
  match (components path).getLast? with
  | none => return dir
  | some c => step? dir c

/-- Read a file. A directory can be opened but has no content to map. -/
def read (f : Files) (path : String) : Except StorageFault ByteArray := do
  let place ← f.place path
  if f.isDirectory place then .error .isADirectory
  else match f.content? place with
    | none => .error .notFound
    | some content =>
      if endsInSlash path then .error .notADirectory else .ok content

/-- A file or directory is there. -/
def hasEntry (f : Files) (path : String) : Bool :=
  match f.read path with
  | .ok _ | .error .isADirectory => true
  | .error _ => false

/-- Put content into an existing or new file of an existing directory. A slash at the end of the
path makes its last component a directory, which is not even looked up. -/
def write (f : Files) (path : String) (content : ByteArray) : Except StorageFault Files := do
  let _ ← f.lastDirectory path
  if endsInSlash path then .error .isADirectory
  else
    let place ← f.place path
    if f.isDirectory place then .error .isADirectory
    else .ok { f with contents := (place, content) :: f.contents.filter (·.1 != place) }

/-- Add a directory at a place. -/
def addDirectory (f : Files) (place : List String) : Files :=
  if f.isDirectory place then f else { f with directories := f.directories ++ [place] }

/-- Make the directories that components of a path lead to from a place, one after the other. -/
def makeWay (f : Files) (place : List String) : List String → Files
  | [] => f
  | c :: rest => (f.addDirectory (step place c)).makeWay (step place c) rest

/-- Make a directory and those on the way to it. -/
def makeDirectory (f : Files) (path : String) : Files := f.makeWay (origin path) (components path)

/-- The directory part of a path. -/
def parent (path : String) : String :=
  let dir := "/".intercalate (Text.parts '/' path).dropLast
  if dir.isEmpty && isAbsolute path then "/" else dir

/-- The path of a place. -/
def render (place : List String) : String :=
  match place with
  | "/" :: names => "/" ++ "/".intercalate names
  | names => "/".intercalate names

/-- All files, each with its path. -/
def toList (f : Files) : List (String × ByteArray) :=
  f.contents.map fun (place, content) => (render place, content)

end Files

/-- The part of a file name behind its last dot. A name that starts with its only dot has none. -/
def fileExtension? (path : String) : Option String :=
  match ((Text.parts '/' path).filter fun c => c != "" && c != ".").getLast? with
  | none => none
  | some name =>
    match Text.parts '.' name with
    | [] | [_] => none
    | ["", _] => none
    | parts => if name = ".." then none else parts.getLast?

end TraceReplay
