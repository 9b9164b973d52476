import ObjectView.Image.Basic

/-!
# ELF images

A file header leads to a table of section headers, one of which holds the names.  Both word
sizes and both byte orders are read.  The first section header stands for no section by custom,
but it is taken as it is.  The tables for programs, symbols and relocations are not used, but an
image in which they are malformed is refused.
-/

namespace ObjectView.Image.Elf

open Binary

/-- How numbers are laid out: addresses and offsets take `word` bytes, 4 or 8. -/
structure Layout where
  word : Nat
  bigEndian : Bool

namespace Layout

def isWide (l : Layout) : Bool :=
  l.word = 8

def programHeaderSize (l : Layout) : Nat :=
  if l.isWide then 56 else 32

def sectionHeaderSize (l : Layout) : Nat :=
  if l.isWide then 64 else 40

def symbolSize (l : Layout) : Nat :=
  if l.isWide then 24 else 16

end Layout

structure Header where
  layout : Layout
  programs : Nat
  sections : Nat
  programSize : Nat
  programCount : Nat
  sectionSize : Nat
  sectionCount : Nat
  nameSection : Nat

structure SectionHeader where
  name : Nat
  kind : Nat
  flags : Nat
  offset : Nat
  size : Nat
  link : Nat
  info : Nat

/-- The kinds of sections that matter here. -/
def symbolTable := 2
def stringTable := 3
def relocationsWithAddends := 4
def noBits := 8
def relocations := 9
def dynamicSymbols := 11
def extendedIndices := 18
def compactRelocations := 0x40000014

/-- The flag of a section whose contents start with a compression header. -/
def compressedFlag := 0x800

def readLayout : Read Layout := do
  let magic ← Read.block 4
  guard (magic.toList = [0x7f, 0x45, 0x4c, 0x46])
  let wordClass ← Read.byte
  guard (wordClass = 1 ∨ wordClass = 2)
  let byteOrder ← Read.byte
  guard (byteOrder = 1 ∨ byteOrder = 2)
  guard ((← Read.byte) = 1)
  return ⟨if wordClass = 2 then 8 else 4, byteOrder = 2⟩

def readHeader (layout : Layout) : Read Header := do
  Read.skip 24
  Read.skip layout.word
  let programs ← Read.unsigned layout.word
  let sections ← Read.unsigned layout.word
  Read.skip 6
  let programSize ← Read.unsigned 2
  let programCount ← Read.unsigned 2
  let sectionSize ← Read.unsigned 2
  let sectionCount ← Read.unsigned 2
  let nameSection ← Read.unsigned 2
  return { layout, programs, sections, programSize, programCount, sectionSize, sectionCount,
           nameSection }

def readSectionHeader (layout : Layout) : Read SectionHeader := do
  let name ← Read.unsigned 4
  let kind ← Read.unsigned 4
  let flags ← Read.unsigned layout.word
  Read.skip layout.word
  let offset ← Read.unsigned layout.word
  let size ← Read.unsigned layout.word
  let link ← Read.unsigned 4
  let info ← Read.unsigned 4
  Read.skip (2 * layout.word)
  return { name, kind, flags, offset, size, link, info }

/-- The first section header, where a count that does not fit the file header is kept.  There is
none if there is no table. -/
def firstSection? (file : ByteArray) (h : Header) : Option (Option SectionHeader) :=
  if h.sections = 0 then some none
  else do
    guard (h.sectionSize = h.layout.sectionHeaderSize)
    return some (← (readSectionHeader h.layout).at? file h.layout.bigEndian h.sections)

def programCount? (file : ByteArray) (h : Header) : Option Nat :=
  if h.programCount < 0xffff then some h.programCount
  else do return (← (← firstSection? file h)).info

def sectionCount? (file : ByteArray) (h : Header) : Option Nat :=
  if 0 < h.sectionCount then some h.sectionCount
  else do return ((← firstSection? file h).map SectionHeader.size).getD 0

/-- The number of the section that holds the names; 0 stands for none. -/
def nameSection? (file : ByteArray) (h : Header) : Option Nat := do
  let index ← if h.nameSection ≠ 0xffff then some h.nameSection
    else (firstSection? file h).bind fun first? => first?.map SectionHeader.link
  guard (index ≠ 0)
  return index

/-- The program headers are in the file, and of the right size. -/
def checkPrograms (file : ByteArray) (h : Header) : Option Unit :=
  if h.programs = 0 then some ()
  else do
    let count ← programCount? file h
    if count = 0 then return
    guard (h.programSize = h.layout.programHeaderSize)
    guard (h.programs + count * h.programSize ≤ file.size)

def readSectionHeaders (layout : Layout) : Nat → Read (List SectionHeader)
  | 0 => return []
  | count + 1 => do
      let first ← readSectionHeader layout
      return first :: (← readSectionHeaders layout count)

def sectionHeaders? (file : ByteArray) (h : Header) : Option (List SectionHeader) :=
  if h.sections = 0 then some []
  else do
    let count ← sectionCount? file h
    if count = 0 then return []
    guard (h.sectionSize = h.layout.sectionHeaderSize)
    guard (h.sections + count * h.sectionSize ≤ file.size)
    (readSectionHeaders h.layout count).at? file h.layout.bigEndian h.sections

/-- Where the contents of a section lie in the file, if they do. -/
def SectionHeader.range? (s : SectionHeader) : Option (Nat × Nat) :=
  if s.kind = noBits then none else some (s.offset, s.size)

/-- A range of the file that holds zero-terminated texts. -/
structure Strings where
  start : Nat
  stop : Nat

def SectionHeader.strings? (s : SectionHeader) : Option Strings := do
  let stop := s.offset + s.size
  guard (stop < UInt64.size)
  return ⟨s.offset, stop⟩

/-- The text at `offset`, which has to end inside the range. -/
def Strings.text? (file : ByteArray) (strings : Strings) (offset : Nat) : Option ByteArray := do
  let start := strings.start + offset
  let block ← if start ≤ strings.stop then slice? file start (strings.stop - start) else none
  Read.terminated.at? block false 0

/-- The texts that name the sections; none if there are no sections, or they take no room. -/
def sectionNames? (file : ByteArray) (h : Header) (sections : List SectionHeader) :
    Option (Option Strings) :=
  if sections.isEmpty then some none
  else do
    let names ← sections[← nameSection? file h]?
    if names.kind = noBits then return none
    return some (← names.strings?)

/-- The section is in the file, and is a row of items of the size. -/
def isRowOf (file : ByteArray) (itemSize : Nat) (s : SectionHeader) : Bool :=
  s.size % itemSize = 0 && (range? file s.offset s.size).isSome

/-- The first table of the kind, with its texts and its extended indices, is in order. -/
def checkSymbols (file : ByteArray) (layout : Layout) (sections : List SectionHeader)
    (kind : Nat) : Option Unit := do
  let some (table, index) := sections.zipIdx.find? fun (s, _) => s.kind = kind | return
  guard (isRowOf file layout.symbolSize table)
  if table.link ≠ 0 then
    let texts ← sections[table.link]?
    guard (texts.kind = stringTable)
    discard texts.strings?
  guard (sections.all fun s =>
    !(s.kind = extendedIndices && s.link = index) || isRowOf file 4 s)

def SectionHeader.isRelocations (s : SectionHeader) : Bool :=
  [relocations, relocationsWithAddends, compactRelocations].contains s.kind

/-- Relocations that go with the symbol table apply to a section that exists, and that does not
hold relocations itself. -/
def checkRelocations (sections : List SectionHeader) : Option Unit := do
  let symbols := (sections.findIdx? fun s => s.kind = symbolTable).getD 0
  guard (sections.all fun s =>
    if s.isRelocations && s.link = symbols && s.info ≠ 0 then
      match sections[s.info]? with
      | some target => !target.isRelocations
      | none => false
    else true)

/-- The form that a compression header asks for by number. -/
def compression? : Nat → Option Compression
  | 1 => some .zlib
  | 2 => some .zstandard
  | _ => none

/-- The contents of a section with a compression header. -/
def compressedContents (file : ByteArray) (layout : Layout) (s : SectionHeader) : Contents :=
  let found? : Option Contents := do
    let (offset, size) ← s.range?
    let header : Read (Nat × Nat) := do
      let kind ← Read.unsigned 4
      if layout.isWide then Read.skip 4
      let room ← Read.unsigned layout.word
      Read.skip layout.word
      return (kind, room)
    let (kind, room) ← header.at? file layout.bigEndian offset
    let headerSize := if layout.isWide then 24 else 12
    guard (headerSize ≤ size)
    return .compressed (← compression? kind) (offset + headerSize) (size - headerSize) room
  found?.getD .malformed

/-- The start of the name of a section in the older compressed form. -/
def markedStart : List UInt8 :=
  ".zdebug_".toUTF8.toList

def SectionHeader.toSection (file : ByteArray) (layout : Layout) (names : Option Strings)
    (s : SectionHeader) : Section :=
  let name := names.bind fun names => names.text? file s.name
  let isMarked := (name.map fun name => markedStart.isPrefixOf name.toList).getD false
  { name
    contents :=
      if s.flags &&& compressedFlag ≠ 0 then compressedContents file layout s
      else
        match s.range? with
        | none => if isMarked then .malformed else .absent
        | some (offset, size) =>
            if isMarked then Contents.ofMarked file offset size else .stored offset size }

/-- The byte order and the sections of an ELF image, `none` if it is none. -/
def sections? (file : ByteArray) : Option (Bool × List Section) := do
  let layout ← readLayout.at? file false 0
  let header ← (readHeader layout).at? file layout.bigEndian 0
  checkPrograms file header
  let headers ← sectionHeaders? file header
  let names ← sectionNames? file header headers
  checkSymbols file layout headers symbolTable
  checkSymbols file layout headers dynamicSymbols
  checkRelocations headers
  return (layout.bigEndian, headers.map (·.toSection file layout names))

end ObjectView.Image.Elf
