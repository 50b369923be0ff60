import TraceReplay.Text.Quoted

/-!
# Texts for terminals

Two ways to keep the control sequences in a text from a terminal: spelling the characters out that
start them (`spelled`), and taking whole sequences out (`withoutSequences`).
-/

namespace TraceReplay.Text

/-- Two hexadecimal digits of a small code. -/
def hexByte (n : Nat) : String :=
  (if n < 16 then "0" else "") ++ smallHex n

/-- A character, spelled out if a terminal may take it for the start or end of a sequence, the bell,
a move of the cursor or a deletion. Blanks and other controls stay as they are. -/
def spellControl (c : Char) : String :=
  let n := c.toNat
  if n = 0x1b || n = 7 || n = 8 || n = 0x0c || n = 0x7f then "\\x" ++ hexByte n
  else if 0x80 ≤ n && n ≤ 0x9f then escapeCode c
  else String.singleton c

/-- A text with such characters spelled out. -/
def spelled (s : String) : String := String.join (s.toList.map spellControl)

/-- Where in a control sequence a text is. -/
inductive SequencePart
  /-- In none. -/
  | outside
  /-- Behind the escape character. -/
  | escape
  /-- Behind it and further characters that only a last one can end. -/
  | intermediate
  /-- Among the parameters of a control sequence. -/
  | parameters
  /-- In a command for the operating system. -/
  | command
  /-- At the start of a command for a device. -/
  | device
  /-- Among the parameters of such a command. -/
  | deviceParameters
  /-- Behind the characters that follow them. -/
  | deviceIntermediate
  /-- In a string, that of a command for a device or any other. -/
  | string
deriving DecidableEq, Repr

/-- A control character that moves on in the text. -/
def isLayout (c : Char) : Bool := c = '\t' || c = '\n' || c = Char.ofNat 0x0c || c = '\r'

/-- The character is shown outside sequences. -/
def isShown (c : Char) : Bool := (0x20 ≤ c.toNat && c.toNat ≠ 0x7f) || isLayout c

namespace SequencePart

/-- Where a sequence goes on after the character behind its escape character. -/
def afterEscape (n : Nat) : SequencePart :=
  if n < 0x30 then intermediate
  else if n = 0x5b then parameters
  else if n = 0x5d then command
  else if n = 0x50 then device
  else if n = 0x58 || n = 0x5e || n = 0x5f then string
  else outside

/-- Where a command for a device goes on after a printable character. -/
def inDevice (p : SequencePart) (n : Nat) : SequencePart :=
  if n < 0x30 then deviceIntermediate
  else if 0x40 ≤ n || p = deviceIntermediate then string
  else if 0x3c ≤ n && p = deviceParameters then string
  else deviceParameters

/-- One of the bytes that encode the character ends strings: the one that is the terminator where a
character is a byte. -/
def endsString (c : Char) : Bool := (String.singleton c).toUTF8.toList.contains 0x9c

/-- Where a text is after a character that is not shown. An escape character starts a sequence
everywhere, and two characters cancel one everywhere; other controls do not count in a sequence, and
characters beyond ASCII only in strings. -/
def next (p : SequencePart) (c : Char) : SequencePart :=
  let n := c.toNat
  if n = 0x1b then escape
  else if n = 0x18 || n = 0x1a then outside
  else match p with
    | outside => outside
    | command => if n = 7 then outside else command
    | string => if endsString c then outside else string
    | device | deviceParameters | deviceIntermediate =>
      if n < 0x20 || 0x7f ≤ n then p else p.inDevice n
    | escape => if n < 0x20 || 0x7f ≤ n then escape else afterEscape n
    | intermediate => if 0x30 ≤ n && n < 0x7f then outside else intermediate
    | parameters => if 0x40 ≤ n && n < 0x7f then outside else parameters

/-- The character is shown although a sequence has begun: layout is, but not in strings and commands
for a device. -/
def shows (p : SequencePart) (c : Char) : Bool :=
  match p with
  | outside => isShown c
  | command | device | deviceParameters | deviceIntermediate | string => false
  | escape | intermediate | parameters => isLayout c

end SequencePart

/-- Take sequences out. `isOpen` says that the text is shown for the time being, even if a sequence
has begun: layout in it opens the text up to the next character that is not shown. -/
def takeOut (p : SequencePart) (isOpen : Bool) : List Char → List Char
  | [] => []
  | c :: cs =>
    if isOpen && isShown c then c :: takeOut (if 0x80 ≤ c.toNat then .outside else p) true cs
    else if p.shows c then c :: takeOut p true cs
    else takeOut (p.next c) false cs

/-- A text without control sequences and controls other than layout. -/
def withoutSequences (s : String) : String := String.ofList (takeOut .outside true s.toList)

end TraceReplay.Text
