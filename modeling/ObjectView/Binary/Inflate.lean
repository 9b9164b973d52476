/-!
# Inflating compressed blocks

A zlib block is a two-byte header, deflated data and a checksum of the inflated bytes.  Deflated
data is a row of blocks of bits: stored bytes, or symbols of two Huffman codes that stand for
literal bytes and for copies of bytes already written.

The room for the inflated bytes is fixed beforehand.  Data that would outgrow it is cut there,
and what follows is not looked at.  Data that is itself cut short yields the bytes up to there,
be it in the middle of a block or in front of the checksum.  Data that breaks the format yields
nothing.
-/

namespace ObjectView.Binary.Inflate

/-- How far inflating has come: the next bit to read, and the bytes written so far. -/
structure Progress where
  bit : Nat
  written : ByteArray

/-- Why a step of inflating stops before its end. -/
inductive Stop
  /-- The data breaks the format. -/
  | damaged
  /-- The data or the room is used up: these are the bytes so far. -/
  | cut (written : ByteArray)

/-- What is inflated: the deflated data and the room for the result. -/
structure Source where
  data : ByteArray
  room : Nat

abbrev Inflating := ReaderT Source (StateT Progress (Except Stop))

def damaged {α : Type} : Inflating α :=
  throw .damaged

def cut {α : Type} : Inflating α := do
  throw (.cut (← get).written)

def ensure (condition : Bool) : Inflating Unit :=
  if condition then pure () else damaged

/-- The next bit; bits are taken from the low end of each byte. -/
def readBit : Inflating Nat := do
  let bit := (← get).bit
  match (← read).data[bit / 8]? with
  | none => cut
  | some b =>
      modify fun p => { p with bit := bit + 1 }
      return (b.toNat >>> (bit % 8)) % 2

/-- A number of `count` bits, lowest first. -/
def readBits : Nat → Inflating Nat
  | 0 => return 0
  | count + 1 => do
      let low ← readBit
      return low + 2 * (← readBits count)

/-- Passes the bits up to the next whole byte. -/
def alignToByte : Inflating Unit :=
  modify fun p => { p with bit := (p.bit + 7) / 8 * 8 }

def readByte : Inflating UInt8 := do
  return (← readBits 8).toUInt8

def write (b : UInt8) : Inflating Unit := do
  if (← get).written.size < (← read).room then
    modify fun p => { p with written := p.written.push b }
  else
    cut

/-- A Huffman code: how many words there are of each length from 1 on, and the symbols in the
order of their words. -/
structure Code where
  counts : List Nat
  symbols : Array Nat

/-- The code in which symbol `i` has a word of `lengths[i]` bits, none if that is 0. -/
def Code.ofLengths (lengths : List Nat) : Code where
  counts := (List.range 15).map fun i => lengths.count (i + 1)
  symbols := ((List.range 15).flatMap fun i =>
    lengths.zipIdx.filterMap fun (length, symbol) =>
      if length = i + 1 then some symbol else none).toArray

/-- The words fill the code's tree exactly. -/
def Code.isComplete (code : Code) : Bool :=
  code.counts.foldl (fun total count => 2 * (total + count)) 0 = 65536

/-- The code has at most one word, and that of one bit. -/
def Code.isTrivial (code : Code) : Bool :=
  code.symbols.size ≤ 1 && code.counts.head? = some code.symbols.size

/-- Reads one word bit by bit.  Among the words of a length, `first` is the lowest, and `index`
is the number of shorter ones. -/
def Code.readSymbol (code : Code) : Inflating Nat :=
  go code.counts 0 0 0
where
  go : List Nat → Nat → Nat → Nat → Inflating Nat
    | [], _, _, _ => damaged
    | count :: longer, word, first, index => do
        let word := 2 * word + (← readBit)
        if word < first + count then
          match code.symbols[index + (word - first)]? with
          | some symbol => return symbol
          | none => damaged
        else
          ensure (longer.any (0 < ·))
          go longer word (2 * (first + count)) (index + count)

/-- What a length symbol from 257 on stands for: the least length, and the extra bits. -/
def lengthBases : Array (Nat × Nat) :=
  #[(3, 0), (4, 0), (5, 0), (6, 0), (7, 0), (8, 0), (9, 0), (10, 0), (11, 1), (13, 1),
    (15, 1), (17, 1), (19, 2), (23, 2), (27, 2), (31, 2), (35, 3), (43, 3), (51, 3), (59, 3),
    (67, 4), (83, 4), (99, 4), (115, 4), (131, 5), (163, 5), (195, 5), (227, 5), (258, 0)]

/-- What a distance symbol stands for: the least distance, and the extra bits. -/
def distanceBases : Array (Nat × Nat) :=
  #[(1, 0), (2, 0), (3, 0), (4, 0), (5, 1), (7, 1), (9, 2), (13, 2), (17, 3), (25, 3),
    (33, 4), (49, 4), (65, 5), (97, 5), (129, 6), (193, 6), (257, 7), (385, 7), (513, 8),
    (769, 8), (1025, 9), (1537, 9), (2049, 10), (3073, 10), (4097, 11), (6145, 11),
    (8193, 12), (12289, 12), (16385, 13), (24577, 13)]

def readExtended (bases : Array (Nat × Nat)) (symbol : Nat) : Inflating Nat :=
  match bases[symbol]? with
  | some (base, extra) => return base + (← readBits extra)
  | none => damaged

/-- Repeats the bytes from `distance` back, one at a time, so that a copy may overlap itself. -/
def copy (distance : Nat) : Nat → Inflating Unit
  | 0 => return
  | count + 1 => do
      let written := (← get).written
      write (written.get! (written.size - distance))
      copy distance count

/-- Literals and copies up to the end symbol.  Each symbol takes at least one bit, so `fuel` is
the number of bits ahead. -/
def inflateSymbols (literals distances : Code) : Nat → Inflating Unit
  | 0 => damaged
  | fuel + 1 => do
      let symbol ← literals.readSymbol
      if symbol < 256 then
        write symbol.toUInt8
        inflateSymbols literals distances fuel
      else if symbol = 256 then
        return
      else
        let length ← readExtended lengthBases (symbol - 257)
        let distance ← readExtended distanceBases (← distances.readSymbol)
        ensure (distance ≤ (← get).written.size)
        copy distance length
        inflateSymbols literals distances fuel

/-- Stored bytes: their number, its complement, and the bytes themselves. -/
def inflateStored : Inflating Unit := do
  alignToByte
  let length ← readBits 16
  let complement ← readBits 16
  ensure (length + complement = 65535)
  go length
where
  go : Nat → Inflating Unit
    | 0 => return
    | count + 1 => do
        -- A full room is noticed before the next byte is asked for.
        if (← get).written.size < (← read).room then
          write (← readByte)
          go count
        else
          cut

/-- The order in which the lengths of the code-length code are sent. -/
def lengthOrder : List Nat :=
  [16, 17, 18, 0, 8, 7, 9, 6, 10, 5, 11, 4, 12, 3, 13, 2, 14, 1, 15]

/-- The word lengths of both codes, in one row: a symbol up to 15 is a length, 16 repeats the
last one, 17 and 18 are runs of zeros.  `lengths` is reversed. -/
def readLengths (code : Code) (total : Nat) : Nat → List Nat → Inflating (List Nat)
  | 0, _ => damaged
  | fuel + 1, lengths => do
      if lengths.length = total then return lengths.reverse
      ensure (lengths.length < total)
      let symbol ← code.readSymbol
      if symbol < 16 then
        readLengths code total fuel (symbol :: lengths)
      else if symbol = 16 then
        match lengths with
        | [] => damaged
        | last :: _ =>
            let count := 3 + (← readBits 2)
            readLengths code total fuel (List.replicate count last ++ lengths)
      else
        let count ← if symbol = 17 then (3 + ·) <$> readBits 3 else (11 + ·) <$> readBits 7
        readLengths code total fuel (List.replicate count 0 ++ lengths)

def fixedLiterals : Code :=
  .ofLengths (List.replicate 144 8 ++ List.replicate 112 9 ++ List.replicate 24 7 ++
    List.replicate 8 8)

def fixedDistances : Code :=
  .ofLengths (List.replicate 32 5)

/-- The codes that a dynamic block brings along. -/
def readCodes : Inflating (Code × Code) := do
  let literalCount := 257 + (← readBits 5)
  let distanceCount := 1 + (← readBits 5)
  let lengthCount := 4 + (← readBits 4)
  ensure (literalCount ≤ 286 && distanceCount ≤ 30)
  let sent ← (lengthOrder.take lengthCount).mapM fun symbol => do
    return (symbol, ← readBits 3)
  let code := Code.ofLengths ((List.range 19).map fun symbol => (sent.lookup symbol).getD 0)
  ensure code.isComplete
  let total := literalCount + distanceCount
  let lengths ← readLengths code total (total + 1) []
  let literals := Code.ofLengths (lengths.take literalCount)
  let distances := Code.ofLengths (lengths.drop literalCount)
  ensure (distances.isComplete || distances.isTrivial)
  ensure (literals.isComplete || literals.isTrivial)
  return (literals, distances)

/-- Blocks up to the one that is marked as the last.  Each takes at least three bits. -/
def inflateBlocks : Nat → Inflating Unit
  | 0 => damaged
  | fuel + 1 => do
      let isLast := (← readBits 1) = 1
      let kind ← readBits 2
      let bitsAhead := 8 * (← read).data.size - (← get).bit
      if kind = 0 then
        inflateStored
      else if kind = 1 then
        inflateSymbols fixedLiterals fixedDistances (bitsAhead + 1)
      else if kind = 2 then
        let (literals, distances) ← readCodes
        inflateSymbols literals distances (bitsAhead + 1)
      else
        damaged
      if isLast then return
      inflateBlocks fuel

/-- Two sums modulo 65521 over the bytes, in one 32-bit number. -/
def checksum (bytes : ByteArray) : Nat :=
  let (low, high) := bytes.foldl
    (fun (low, high) b => let low := (low + b.toNat) % 65521; (low, (high + low) % 65521)) (1, 0)
  high * 65536 + low

/-- The header names deflate, no dictionary and a window of at most 32 KiB, and is divisible by
31 as a number. -/
def readHeader : Inflating Unit := do
  let method := (← readByte).toNat
  let flags := (← readByte).toNat
  ensure ((method * 256 + flags) % 31 = 0 && flags &&& 32 = 0 && method % 16 = 8)
  ensure (method / 16 ≤ 7)

def inflateAll : Inflating Unit := do
  readHeader
  inflateBlocks (8 * (← read).data.size)
  alignToByte
  let sum ← [24, 16, 8, 0].foldlM (fun sum shift => do
    return sum + ((← readByte).toNat <<< shift)) 0
  ensure (sum = checksum (← get).written)

end Inflate

/-- The bytes that a zlib block stands for, cut at `room` and where the block ends early; `none`
if it is damaged. -/
def inflate? (data : ByteArray) (room : Nat) : Option ByteArray :=
  match (Inflate.inflateAll.run ⟨data, room⟩).run ⟨0, .empty⟩ with
  | .ok (_, progress) => some progress.written
  | .error (.cut written) => some written
  | .error .damaged => none

end ObjectView.Binary
