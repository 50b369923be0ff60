import TraceReplay.Bytes.Bits

/-!
# Huffman codes

Canonical codes: the lengths of the code words determine them. Shorter words come first, and words
of one length stand in the order of their symbols. A code word is found by looking at longer and
longer strings of bits.
-/

namespace TraceReplay.Huffman

/-- How many code words there are of each length from one up, and the symbols in the order of their
code words. -/
structure Code where
  counts : List Nat
  symbols : Array Nat

/-- The longest code word, in bits. -/
def longestWord : Nat := 15

namespace Code

/-- The code in which symbol `n` has the `n`-th length; length zero means that it is not used. -/
def ofLengths (lengths : List Nat) : Code :=
  let words := (List.range longestWord).map (· + 1)
  { counts := words.map fun length => lengths.count length
    symbols := (words.flatMap fun length =>
      (lengths.zipIdx.filter (·.1 == length)).map Prod.snd).toArray }

/-- What is left of the code space after all code words, or nothing if they take too much. -/
def roomLeft (c : Code) : Option Nat :=
  c.counts.foldl (fun room? count => room?.bind fun room =>
    if 2 * room < count then none else some (2 * room - count)) (some 1)

/-- Every bit string starts with a code word. -/
def isComplete (c : Code) : Bool := c.roomLeft == some 0

/-- Complete, or with at most one code word of one bit. -/
def isSparse (c : Code) : Bool :=
  c.isComplete || c.symbols.isEmpty || (c.symbols.size == 1 && c.counts.head? == some 1)

/-- Look for a code word from an offset on that has more than `length` bits. `word` is twice what
those bits spell, `first` the first code word of the next length, `index` the number of shorter
code words. -/
def lookFrom (c : Code) (r : Bits) (offset length word first index : Nat) :
    List Nat → Option (Nat × Nat)
  | [] => none
  | count :: counts =>
    let word := word + r.ahead (offset + length)
    if word < first + count then
      (c.symbols[index + (word - first)]?).map fun symbol => (symbol, length + 1)
    else c.lookFrom r offset (length + 1) (2 * word) (2 * (first + count)) (index + count) counts

/-- The symbol at an offset and how many bits it takes. They may be more than are there. -/
def look (c : Code) (r : Bits) (offset : Nat) : Option (Nat × Nat) :=
  c.lookFrom r offset 0 0 0 0 c.counts

end Code

end TraceReplay.Huffman
