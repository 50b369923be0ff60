import TraceReplay.Bytes.Crc32
import TraceReplay.Bytes.Huffman

/-!
# Inflating compressed data

A zlib stream: a header of two bytes, blocks of stored bytes or of literals and back references
written with Huffman codes, and a check of four bytes. The codes are fixed or sent along.

The data may come in pieces and is inflated in turns. An inflater holds what has been inflated so
far, what has been read and did not fit any more, and the bits that do not yet tell what comes next.
It inflates no more than it is asked for, and in a turn no more than a `portion`
(`Inflater.size_advance_le`). Where no byte fits any more, the stream is read on as long as it tells
of none: a block may still end and another one begin. A turn gets some bits to hand before it looks
at them; when it is over, `hasMore` says whether there are others, for which another turn is due.

A stream that breaks off is only not `done`, and whoever knows that no piece follows makes that a
fault. The check has to be there for the stream to be done, and what follows it is ignored.
`inflate?` reads a stream that is there as a whole, and for it the check has to be right.
-/

namespace TraceReplay.Inflate

/-- What is wrong with a stream. -/
inductive Fault
  | badHeader
  | badBlockKind
  /-- A stored block does not repeat its size inverted. -/
  | badStoredSize
  | tooManyLiterals
  | tooManyDistances
  /-- A length of a code word is repeated before there is one, or too often. -/
  | badRepeat
  /-- The code for lengths or for literals is not complete. -/
  | badCode
  /-- No code word ends the block. -/
  | noBlockEnd
  | badDistances
  | unknownLiteral
  | unknownDistance
  | tooFarBack
  /-- The stream ends before it is done. -/
  | brokenOff
deriving DecidableEq, Repr

/-- The name of a fault. -/
def Fault.name : Fault → String
  | badHeader => "BadZlibHeader"
  | badBlockKind => "InvalidBlockType"
  | badStoredSize => "InvalidUncompressedBlockLength"
  | tooManyLiterals => "InvalidHlit"
  | tooManyDistances => "InvalidHdist"
  | badRepeat => "InvalidCodeLengthRepeat"
  | badCode => "BadCodeLengthHuffmanTree"
  | noBlockEnd => "BadLiteralLengthHuffmanTree"
  | badDistances => "BadDistanceHuffmanTree"
  | unknownLiteral => "InvalidLiteralLengthCode"
  | unknownDistance => "InvalidDistanceCode"
  | tooFarBack => "DistanceTooFarBack"
  | brokenOff => "InsufficientInput"

/-- The shortest match and the extra bits of each length symbol from 257 on. -/
def lengthTable : Array (Nat × Nat) :=
  #[(3, 0), (4, 0), (5, 0), (6, 0), (7, 0), (8, 0), (9, 0), (10, 0), (11, 1), (13, 1), (15, 1),
    (17, 1), (19, 2), (23, 2), (27, 2), (31, 2), (35, 3), (43, 3), (51, 3), (59, 3), (67, 4),
    (83, 4), (99, 4), (115, 4), (131, 5), (163, 5), (195, 5), (227, 5), (258, 0)]

/-- The shortest distance and the extra bits of each distance symbol. -/
def distanceTable : Array (Nat × Nat) :=
  #[(1, 0), (2, 0), (3, 0), (4, 0), (5, 1), (7, 1), (9, 2), (13, 2), (17, 3), (25, 3), (33, 4),
    (49, 4), (65, 5), (97, 5), (129, 6), (193, 6), (257, 7), (385, 7), (513, 8), (769, 8),
    (1025, 9), (1537, 9), (2049, 10), (3073, 10), (4097, 11), (6145, 11), (8193, 12), (12289, 12),
    (16385, 13), (24577, 13)]

/-- The order in which the lengths of the length code are sent. -/
def lengthOrder : List Nat := [16, 17, 18, 0, 8, 7, 9, 6, 10, 5, 11, 4, 12, 3, 13, 2, 14, 1, 15]

/-- The code of blocks that send none along. -/
def fixedLiterals : Huffman.Code :=
  .ofLengths (List.replicate 144 8 ++ List.replicate 112 9 ++ List.replicate 24 7
    ++ List.replicate 8 8)

/-- The distance code of blocks that send none along. -/
def fixedDistances : Huffman.Code := .ofLengths (List.replicate 32 5)

/-- Which symbol ends a block; smaller ones are literals. -/
def blockEnd : Nat := 256

/-- The last symbol for a length. Those behind it, which only the fixed code has, end a block. -/
def lastLength : Nat := 285

/-- Literals are read two at a time where their code words are together this short, in bits. -/
def pairWindow : Nat := 12

/-- The fewest bits with which a block header is judged: any block has as many. -/
def shortestBlock : Nat := 10

/-- How many bits a turn has at hand at most. If no more are left, none is left for another turn. -/
def bitsAtHand : Nat := 63

/-- How many bytes are inflated in a turn at most. -/
def portion : Nat := 8192

/-- What comes next in a stream. -/
inductive Phase
  | header
  | block
  /-- So many bytes of a stored block, at least one. -/
  | stored (isFinal : Bool) (size : Nat)
  /-- So many lengths of the length code, in their order. -/
  | order (isFinal : Bool) (literals distances sent : Nat)
  /-- The lengths of a literal code and a distance code, `reversed` being those before. -/
  | lengths (isFinal : Bool) (literals distances : Nat) (code : Huffman.Code) (reversed : List Nat)
  | symbols (isFinal : Bool) (literals distances : Huffman.Code)
  | check
  /-- Nothing, behind the check that the stream has. -/
  | done (check : Nat)
  | broken (fault : Fault)

/-- What follows a block. -/
def Phase.behind (isFinal : Bool) : Phase := if isFinal then .check else .block

/-- What a step adds to the inflated data. -/
inductive Output
  | literals (bytes : List UInt8)
  /-- So many bytes that lie so far back. -/
  | copy (distance length : Nat)
  /-- So many bytes of the stream itself. -/
  | stored (size : Nat)
deriving DecidableEq, Repr

/-- Append bytes that lie `distance` back, one by one. -/
def copyBack (out : ByteArray) (distance : Nat) : (count : Nat) → ByteArray
  | 0 => out
  | n + 1 => copyBack (out.push (out[out.size - distance]?.getD 0)) distance n

theorem size_copyBack (out : ByteArray) (distance count : Nat) :
    (copyBack out distance count).size = out.size + count := by
  induction count generalizing out with
  | zero => rfl
  | succ n ih =>
    rw [copyBack, ih, ByteArray.size_push]
    omega

/-- Append bytes. -/
def pushAll (out : ByteArray) : List UInt8 → ByteArray
  | [] => out
  | b :: bs => pushAll (out.push b) bs

theorem size_pushAll (out : ByteArray) (bytes : List UInt8) :
    (pushAll out bytes).size = out.size + bytes.length := by
  induction bytes generalizing out with
  | nil => rfl
  | cons b bs ih =>
    rw [pushAll, ih, ByteArray.size_push, List.length_cons]
    omega

namespace Output

/-- Nothing is added. -/
def nothing : Output := .literals []

/-- How many bytes are added. -/
def size : Output → Nat
  | literals bytes => bytes.length
  | copy _ length => length
  | stored size => size

/-- Add as much of the output of a step that starts at the next bit as there is room for. -/
def write (output : Output) (room : Nat) (bits : Bits) (out : ByteArray) : ByteArray :=
  match output with
  | literals bytes => pushAll out (bytes.take room)
  | copy distance length => copyBack out distance (min length room)
  | stored size =>
    let start := bits.position / 8
    out ++ bits.data.extract start (start + min size room)

/-- What there is no room for. -/
def rest (output : Output) (room : Nat) : Output :=
  match output with
  | literals bytes => literals (bytes.drop room)
  | copy distance length => copy distance (length - room)
  | stored size => stored (size - room)

/-- No more is written than there is room for. -/
theorem size_write_le (output : Output) (room : Nat) (bits : Bits) (out : ByteArray) :
    (output.write room bits out).size ≤ out.size + room := by
  cases output with
  | literals bytes =>
    simp only [write, size_pushAll, List.length_take]
    omega
  | copy distance length =>
    simp only [write, size_copyBack]
    omega
  | stored size =>
    simp only [write, ByteArray.size_append, ByteArray.size_extract]
    omega

end Output

/-- A step: what comes next behind how many bits, and what is added. -/
structure Move where
  phase : Phase
  used : Nat
  output : Output := .nothing

/-- The next step, or nothing if it takes more bits than are there. -/
abbrev Next := Except Fault (Option Move)

/-- More bits are needed. -/
def wait : Next := .ok none

/-- Go on behind so many bits. -/
def go (phase : Phase) (used : Nat) (output : Output := .nothing) : Next :=
  .ok (some ⟨phase, used, output⟩)

/-- Of the bits before a phase some are not at hand. A stored block is copied from behind those at
hand when they are used up; for everything else as many as possible are got to hand. -/
def Phase.hasMore (phase : Phase) (hadMore : Bool) (bits : Bits) : Bool :=
  match phase with
  | stored _ _ => hadMore && 0 < bits.left
  | _ => bitsAtHand < bits.left

/-- Of the bits behind a move some are not at hand. A single literal that takes the last room gets
none to hand. -/
def Move.hasMore (move : Move) (room : Nat) (hadMore : Bool) (bits : Bits) : Bool :=
  match move.output with
  | .literals [_] => if room = 1 then hadMore else bitsAtHand < bits.left
  | _ => move.phase.hasMore hadMore bits

/-- Read the header of the stream. -/
def readHeader (bits : Bits) : Next :=
  if bits.left < 16 then wait
  else
    let method := bits.peek 0 8
    let flags := bits.peek 8 8
    if method % 16 ≠ 8 || 7 < method / 16 || (method * 256 + flags) % 31 ≠ 0
        || flags / 32 % 2 = 1 then .error .badHeader
    else go .block 16

/-- Read the header of a block. -/
def readBlock (bits : Bits) : Next :=
  if bits.left < shortestBlock then wait
  else
    let isFinal := bits.peek 0 1 == 1
    match bits.peek 1 2 with
    | 0 =>
      let start := 3 + (bits.skip 3).slack
      if bits.left < start + 32 then wait
      else
        let size := bits.peek start 16
        if size + bits.peek (start + 16) 16 ≠ 65535 then .error .badStoredSize
        else go (if size = 0 then .behind isFinal else .stored isFinal size) (start + 32)
    | 1 => go (.symbols isFinal fixedLiterals fixedDistances) 3
    | 2 =>
      if bits.left < 17 then wait
      else
        let literals := bits.peek 3 5 + 257
        let distances := bits.peek 8 5 + 1
        if 286 < literals then .error .tooManyLiterals
        else if 30 < distances then .error .tooManyDistances
        else go (.order isFinal literals distances (bits.peek 13 4 + 4)) 17
    | _ => .error .badBlockKind

/-- Copy what there is of a stored block and there is room for. -/
def readStored (isFinal : Bool) (size : Nat) (bits : Bits) (room : Nat) : Next :=
  let taken := min (min size room) (bits.left / 8)
  if taken = 0 then wait
  else go (if taken = size then .behind isFinal else .stored isFinal (size - taken)) (8 * taken)
    (.stored taken)

/-- Read the length code. -/
def readOrder (isFinal : Bool) (literals distances sent : Nat) (bits : Bits) : Next :=
  if bits.left < 3 * sent then wait
  else
    let ordered := (List.range sent).map fun i => bits.peek (3 * i) 3
    let lengthOf := fun symbol => ((lengthOrder.zip ordered).lookup symbol).getD 0
    let code := Huffman.Code.ofLengths ((List.range 19).map lengthOf)
    if code.isComplete then go (.lengths isFinal literals distances code []) (3 * sent)
    else .error .badCode

/-- Take notice of lengths, and make codes of them once there are enough. -/
def settle (isFinal : Bool) (literals distances : Nat) (code : Huffman.Code) (reversed : List Nat)
    (used : Nat) : Next :=
  if reversed.length < literals + distances then
    go (.lengths isFinal literals distances code reversed) used
  else
    let all := reversed.reverse
    let literalCode := Huffman.Code.ofLengths (all.take literals)
    let distanceCode := Huffman.Code.ofLengths (all.drop literals)
    if all.getD blockEnd 0 = 0 then .error .noBlockEnd
    else if !literalCode.isComplete then .error .badCode
    else if !distanceCode.isSparse then .error .badDistances
    else go (.symbols isFinal literalCode distanceCode) used

/-- The shortest run that a symbol of the length code stands for, and its extra bits. -/
def runOf (symbol : Nat) : Nat × Nat :=
  match symbol with
  | 16 => (3, 2)
  | 17 => (3, 3)
  | _ => (11, 7)

/-- Read a length or a run of lengths. -/
def readLengths (isFinal : Bool) (literals distances : Nat) (code : Huffman.Code)
    (reversed : List Nat) (bits : Bits) : Next :=
  if bits.left < 7 then wait
  else match code.look bits 0 with
    | none => .error .badCode
    | some (symbol, used) =>
      if symbol < 16 then settle isFinal literals distances code (symbol :: reversed) used
      else
        let (least, extra) := runOf symbol
        if bits.left < used + extra then wait
        else match if symbol = 16 then reversed.head? else some 0 with
          | none => .error .badRepeat
          | some length =>
            let count := least + bits.peek used extra
            if literals + distances < reversed.length + count then .error .badRepeat
            else settle isFinal literals distances code (List.replicate count length ++ reversed)
              (used + extra)

/-- The literal that is read together with one that takes `used` bits, and the bits of both. -/
def secondLiteral? (literals : Huffman.Code) (bits : Bits) (used : Nat) : Option (Nat × Nat) :=
  match literals.look bits used with
  | some (symbol, more) =>
    if symbol < blockEnd && 2 ≤ more && used + more ≤ pairWindow then some (symbol, used + more)
    else none
  | none => none

/-- Read a literal that takes `used` bits, with the one behind it where two are read at a time. Then
both have to be there, even if there is room for one only. -/
def readLiteral (isFinal : Bool) (literals distances : Huffman.Code) (symbol used : Nat)
    (bits : Bits) : Next :=
  let (symbols, used) := match secondLiteral? literals bits used with
    | none => ([symbol], used)
    | some (second, used) => ([symbol, second], used)
  if bits.left < used then wait
  else go (.symbols isFinal literals distances) used (.literals (symbols.map UInt8.ofNat))

/-- Read the distance of a back reference into `size` bytes whose length takes `used` bits. An
unknown code word is only told from one that is cut off when there are ten bits. -/
def readReference (isFinal : Bool) (literals distances : Huffman.Code) (length used : Nat)
    (bits : Bits) (size : Nat) : Next :=
  match (distances.look bits used).bind fun (symbol, more) =>
      (distanceTable[symbol]?).map fun (least, extra) => (least, extra, used + more) with
  | none => if used + 9 < bits.left then .error .unknownDistance else wait
  | some (least, extra, used) =>
    if bits.left < used + extra then wait
    else
      let distance := least + bits.peek used extra
      if size < distance then .error .tooFarBack
      else go (.symbols isFinal literals distances) (used + extra) (.copy distance length)

/-- Read the end of a block, and nothing else. There have to be as many bits as any code word has. -/
def readBlockEnd (isFinal : Bool) (literals : Huffman.Code) (bits : Bits) : Next :=
  match literals.look bits 0 with
  | some (symbol, used) =>
    if symbol = blockEnd && Huffman.longestWord ≤ bits.left then go (.behind isFinal) used
    else wait
  | none => wait

/-- Read a literal, a back reference into `size` bytes or the end of a block; only the end if there
is no room for a byte. -/
def readSymbol (isFinal : Bool) (literals distances : Huffman.Code) (bits : Bits)
    (size room : Nat) : Next :=
  if room = 0 then readBlockEnd isFinal literals bits
  else match literals.look bits 0 with
    | none => .error .unknownLiteral
    | some (symbol, used) =>
      if symbol < blockEnd then readLiteral isFinal literals distances symbol used bits
      else if bits.left < used then wait
      else if symbol = blockEnd || lastLength < symbol then go (.behind isFinal) used
      else
        let (least, extra) := (lengthTable[symbol - 257]?).getD (0, 0)
        readReference isFinal literals distances (least + bits.peek used extra) (used + extra) bits
          size

/-- Read the check, which starts with a byte and has its high byte first. -/
def readCheck (bits : Bits) : Next :=
  let start := bits.slack
  if bits.left < start + 32 then wait
  else
    let byte := fun (index : Nat) => bits.peek (start + 8 * index) 8
    go (.done (((byte 0 * 256 + byte 1) * 256 + byte 2) * 256 + byte 3)) (start + 32)

/-- The next step when `size` bytes have been inflated and there is room for `room` more. -/
def Phase.next (phase : Phase) (bits : Bits) (size room : Nat) : Next :=
  match phase with
  | header => readHeader bits
  | block => readBlock bits
  | stored isFinal count => readStored isFinal count bits room
  | order isFinal literals distances sent => readOrder isFinal literals distances sent bits
  | lengths isFinal literals distances code reversed =>
    readLengths isFinal literals distances code reversed bits
  | symbols isFinal literals distances => readSymbol isFinal literals distances bits size room
  | check => readCheck bits
  | done _ | broken _ => wait

/-- A stream that is read up to some point: the most bytes that are wanted of it, what comes next,
the bits that are left, whether some of them were not at hand at the end of the last turn, what
there was no room for, and the inflated data. -/
structure Inflater where
  limit : Nat
  phase : Phase := .header
  bits : Bits := .empty
  hasMore : Bool := false
  rest : Output := .nothing
  out : ByteArray := ByteArray.empty

namespace Inflater

/-- The whole stream has been read. -/
def isDone (z : Inflater) : Bool :=
  match z.phase with
  | .done _ => true
  | _ => false

/-- As many bytes have been inflated as are wanted. -/
def isFull (z : Inflater) : Bool := z.limit ≤ z.out.size

/-- What has been found wrong with the stream. -/
def fault? (z : Inflater) : Option Fault :=
  match z.phase with
  | .broken fault => some fault
  | _ => none

/-- Take steps until one has to wait, finds a fault or has output beyond the first `goal` bytes. -/
def run (limit goal : Nat) : (fuel : Nat) → Phase → Bits → Bool → ByteArray → Inflater
  | 0, phase, bits, hasMore, out => ⟨limit, phase, bits, hasMore, .nothing, out⟩
  | fuel + 1, phase, bits, hasMore, out =>
    let room := goal - out.size
    match phase.next bits out.size room with
    | .error fault => ⟨limit, .broken fault, bits, hasMore, .nothing, out⟩
    | .ok none => ⟨limit, phase, bits, hasMore, .nothing, out⟩
    | .ok (some move) =>
      let out := move.output.write room bits out
      let bits := bits.skip move.used
      if room < move.output.size then
        ⟨limit, move.phase, bits, hasMore, move.output.rest room, out⟩
      else run limit goal fuel move.phase bits (move.hasMore room hasMore bits) out

/-- Go on until `goal` bytes are inflated or no more can be. Each step takes at least one bit. -/
def runTo (z : Inflater) (goal : Nat) : Inflater :=
  let room := goal - z.out.size
  if room < z.rest.size then
    { z with rest := z.rest.rest room, out := z.rest.write room z.bits z.out }
  else
    run z.limit goal (z.bits.left + 1) z.phase z.bits (z.phase.hasMore true z.bits)
      (z.rest.write room z.bits z.out)

/-- The end of a turn, in inflated bytes. -/
def goal (z : Inflater) : Nat := min z.limit (z.out.size + portion)

/-- Take a turn. -/
def advance (z : Inflater) : Inflater := z.runTo z.goal

/-- Take a turn with a further piece of the stream. -/
def feed (z : Inflater) (more : ByteArray) : Inflater :=
  { z with bits := z.bits.append more }.advance

theorem size_run_le (limit goal fuel : Nat) (phase : Phase) (bits : Bits) (hadMore : Bool)
    (out : ByteArray) : (run limit goal fuel phase bits hadMore out).out.size
      ≤ out.size + (goal - out.size) := by
  induction fuel generalizing phase bits hadMore out with
  | zero => exact Nat.le_add_right _ _
  | succ fuel ih =>
    rw [run]
    split
    · exact Nat.le_add_right _ _
    · exact Nat.le_add_right _ _
    · rename_i move _
      have hw := move.output.size_write_le (goal - out.size) bits out
      dsimp only
      split
      · exact hw
      · refine Nat.le_trans (ih _ _ _ _) ?_
        omega

/-- A turn inflates at most a portion. -/
theorem size_advance_le (z : Inflater) : z.advance.out.size ≤ z.out.size + portion := by
  have hw := z.rest.size_write_le (z.goal - z.out.size) z.bits z.out
  have hg : z.goal ≤ z.out.size + portion := Nat.min_le_right _ _
  unfold advance runTo
  dsimp only
  split
  · exact Nat.le_trans hw (by omega)
  · refine Nat.le_trans (size_run_le _ _ _ _ _ _ _) ?_
    omega

end Inflater

/-- Inflate a whole stream to at most `limit` bytes, or to nothing if it is faulty or longer. -/
def inflate? (limit : Nat) (data : ByteArray) : Option ByteArray :=
  let z := Inflater.runTo { limit, bits := Bits.empty.append data } limit
  match z.phase with
  | .done check => if check = Adler32.ofBytes z.out then some z.out else none
  | _ => none

end TraceReplay.Inflate
