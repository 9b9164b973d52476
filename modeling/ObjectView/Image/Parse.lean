import ObjectView.Image.Elf
import ObjectView.Image.MachO

/-!
# Images and their sections by name

Debug information sits in sections whose names have one canonical spelling, `.debug_info` and the
like.  Each format has its own way to spell and to compress them, so a section is asked for by a
canonical name, and every spelling of the format is tried.

ELF and Mach-O images are read here.  The ways to read the others, and what is compressed by
Zstandard, are taken as given.
-/

namespace ObjectView

inductive ImageFormat
  | elf
  | machO
  | other

structure Image where
  format : ImageFormat
  bigEndian : Bool
  file : ByteArray
  sections : List Image.Section

namespace Image

structure Readers where
  /-- Reads images of other formats. -/
  other? : ByteArray → Option Image
  unzstd? : ByteArray → Option ByteArray

/-- The image in a file, `none` if it has no format that can be read. -/
def parse? (readers : Readers) (file : ByteArray) : Option Image :=
  match Elf.sections? file, MachO.sections? file with
  | some (bigEndian, sections), _ => some ⟨.elf, bigEndian, file, sections⟩
  | none, some (bigEndian, sections) => some ⟨.machO, bigEndian, file, sections⟩
  | none, none => readers.other? file

def Section.isNamed (s : Section) (name : List UInt8) : Bool :=
  match s.name with
  | some found => found.toList = name
  | none => false

/-- `name` with `old` at its start replaced, if it is there. -/
def respell? (name old new : String) : Option (List UInt8) :=
  if old.toUTF8.toList.isPrefixOf name.toUTF8.toList then
    some (new.toUTF8.toList ++ name.toUTF8.toList.drop old.utf8ByteSize)
  else none

/-- Names in Mach-O have sixteen bytes at most. -/
def maxMachONameLength : Nat :=
  16

/-- The spellings of a name, in groups: all sections are tried for a group before the next. -/
def spellings (format : ImageFormat) (name : String) : List (List (List UInt8)) :=
  let exact := name.toUTF8.toList
  match format with
  | .elf => [[exact], (respell? name ".debug_" ".zdebug_").toList]
  | .machO =>
      let respelled :=
        (respell? name "." "__").toList ++ (respell? name ".debug_" "__zdebug_").toList
      [exact :: respelled.map (List.take maxMachONameLength)]
  | .other => [[exact]]

/-- The first section in the file with a spelling of `name`. -/
def section? (image : Image) (name : String) : Option Section :=
  (spellings image.format name).findSome? fun names =>
    image.sections.find? fun s => names.any s.isNamed

/-- What comes of asking for a section under several names. -/
inductive Lookup
  | missing
  | unreadable (name : String)
  | found (bytes : ByteArray)

/-- The contents of the first section that has one of the names, the earlier name first. -/
def lookup (readers : Readers) (image : Image) : List String → Lookup
  | [] => .missing
  | name :: others =>
      match image.section? name with
      | none => lookup readers image others
      | some s =>
          match s.contents.read? readers.unzstd? image.file with
          | some bytes => .found bytes
          | none => .unreadable name

end Image

end ObjectView
