import ObjectView.Image.Basic

/-!
# Mach-O images

A file header is followed by load commands; the segment commands among them carry the headers of
their sections.  Both word sizes and both byte orders are read, and one architecture to a file.
A command that cannot be told apart ends the row; a segment or symbol table that is cut short
makes the image unusable.
-/

namespace ObjectView.Image.MachO

open Binary

structure Layout where
  isWide : Bool
  bigEndian : Bool

namespace Layout

def word (l : Layout) : Nat :=
  if l.isWide then 8 else 4

def headerSize (l : Layout) : Nat :=
  if l.isWide then 32 else 28

/-- The number of the command that describes a segment. -/
def segmentCommand (l : Layout) : Nat :=
  if l.isWide then 0x19 else 1

def symbolSize (l : Layout) : Nat :=
  if l.isWide then 16 else 12

end Layout

/-- The number of the command that describes the symbol table. -/
def symbolsCommand := 2

structure Command where
  kind : Nat
  bytes : ByteArray

def layout? (file : ByteArray) : Option Layout := do
  match (← slice? file 0 4).toList with
  | [0xfe, 0xed, 0xfa, 0xce] => return ⟨false, true⟩
  | [0xce, 0xfa, 0xed, 0xfe] => return ⟨false, false⟩
  | [0xfe, 0xed, 0xfa, 0xcf] => return ⟨true, true⟩
  | [0xcf, 0xfa, 0xed, 0xfe] => return ⟨true, false⟩
  | _ => none

/-- A command begins with its kind and its size. -/
def commandStart := 8

/-- Up to `count` commands, as far as they are complete. -/
def commands (layout : Layout) (bytes : ByteArray) (position : Nat) : Nat → List Command
  | 0 => []
  | count + 1 =>
      let number (offset : Nat) :=
        (Read.unsigned 4).at? bytes layout.bigEndian (position + offset)
      let found? : Option (Command × Nat) := do
        let kind ← number 0
        let size ← number 4
        guard (commandStart ≤ size)
        return (⟨kind, ← slice? bytes position size⟩, size)
      match found? with
      | some (command, size) => command :: commands layout bytes (position + size) count
      | none => []

/-- The commands behind the file header; none if they are not all in the file. -/
def commandsOf? (file : ByteArray) (layout : Layout) : Option (List Command) := do
  discard (slice? file 0 layout.headerSize)
  let number (offset : Nat) := (Read.unsigned 4).at? file layout.bigEndian offset
  let count ← number 16
  let size ← number 20
  match slice? file layout.headerSize size with
  | some bytes => return commands layout bytes 0 (min count size)
  | none => return []

/-- A name that fills its sixteen bytes has no zero byte behind it. -/
def readName : Read ByteArray := do
  let field ← Read.block 16
  return ⟨(field.toList.takeWhile (· ≠ 0)).toArray⟩

def hasNoBits (flags : Nat) : Bool :=
  [0x1, 0xc, 0x12].contains (flags % 256)

/-- The start of the name of a section in the older compressed form. -/
def markedStart : List UInt8 :=
  "__zdebug_".toUTF8.toList

def readSection (file : ByteArray) (layout : Layout) : Read Section := do
  let name ← readName
  Read.skip (16 + layout.word)
  let size ← Read.unsigned layout.word
  let offset ← Read.unsigned 4
  Read.skip 12
  let flags ← Read.unsigned 4
  Read.skip (if layout.isWide then 12 else 8)
  let isMarked := markedStart.isPrefixOf name.toList
  return {
    name := some name
    contents :=
      if hasNoBits flags then if isMarked then .malformed else .absent
      else if isMarked then Contents.ofMarked file offset size
      else .stored offset size }

def readSections (file : ByteArray) (layout : Layout) : Nat → Read (List Section)
  | 0 => return []
  | count + 1 => do
      let first ← readSection file layout
      return first :: (← readSections file layout count)

def readSegment (file : ByteArray) (layout : Layout) : Read (List Section) := do
  Read.skip (24 + 4 * layout.word + 8)
  let count ← Read.unsigned 4
  Read.skip 4
  guard (count ≤ (← Read.remaining))
  readSections file layout count

/-- The symbol table and its texts are described in full, and the symbols are in the file. -/
def checkSymbols (file : ByteArray) (layout : Layout) : Read Unit := do
  Read.skip 8
  let offset ← Read.unsigned 4
  let count ← Read.unsigned 4
  Read.skip 8
  guard (range? file offset (count * layout.symbolSize)).isSome

def Command.sections? (file : ByteArray) (layout : Layout) (c : Command) :
    Option (List Section) :=
  if c.kind = layout.segmentCommand then
    (readSegment file layout).at? c.bytes layout.bigEndian 0
  else if c.kind = symbolsCommand then do
    (checkSymbols file layout).at? c.bytes layout.bigEndian 0
    return []
  else
    some []

/-- The byte order and the sections of a Mach-O image, `none` if it is none. -/
def sections? (file : ByteArray) : Option (Bool × List Section) := do
  let layout ← layout? file
  let commands ← commandsOf? file layout
  let sections ← commands.mapM (·.sections? file layout)
  return (layout.bigEndian, sections.flatten)

end ObjectView.Image.MachO
