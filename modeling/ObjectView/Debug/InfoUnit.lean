import ObjectView.Debug.Abbreviation
import ObjectView.Debug.LineTable
import ObjectView.Debug.Sections

/-!
# Units

Debugging information comes in units.  A unit has a header, a table of abbreviations, and a tree
of entries.  Attributes of the root entry say where the unit's own parts of other sections begin,
and which address its ranges are relative to.
-/

namespace ObjectView.Debug

open Binary

/-- A unit that describes one type is found by a signature, and the type by its offset. -/
structure TypeSignature where
  signature : Nat
  offset : Nat

structure UnitHeader where
  encoding : Encoding
  /-- The unit is in the section of type units, and not among all others. -/
  inTypes : Bool
  offset : Nat
  size : Nat
  abbreviations : Nat
  typeSignature : Option TypeSignature
  entries : ByteArray

namespace UnitHeader

def readTypeSignature (offsetSize : Nat) : Read TypeSignature := do
  let signature ← Read.unsigned 8
  let offset ← Read.unsigned offsetSize
  return ⟨signature, offset⟩

/-- What a header of version 5 holds behind its fixed part depends on the kind of the unit. -/
def readKind (kind offsetSize : Nat) : Read (Option TypeSignature) :=
  match kind with
  | 1 | 3 => return none
  | 2 | 6 => some <$> readTypeSignature offsetSize
  | 4 | 5 => do
      Read.skip 8
      return none
  | _ => failure

/-- The kind of a unit, the size of its addresses and the place of its abbreviations.  Up to
version 4 the section decides the kind. -/
def readFixedPart (inTypes : Bool) (version offsetSize : Nat) : Read (Nat × Nat × Nat) := do
  if version = 5 then
    let kind ← Read.unsigned 1
    let addressSize ← readAddressSize
    let abbreviations ← Read.unsigned offsetSize
    return (kind, addressSize, abbreviations)
  else
    let abbreviations ← Read.unsigned offsetSize
    let addressSize ← readAddressSize
    return (if inTypes then 2 else 1, addressSize, abbreviations)

/-- What stands behind the length, which took `lengthSize` bytes. -/
def readBody (inTypes isWide : Bool) (offset lengthSize : Nat) : Read UnitHeader := do
  let version ← Read.unsigned 2
  guard (2 ≤ version ∧ version ≤ 5)
  let offsetSize := if isWide then 8 else 4
  let (kind, addressSize, abbreviations) ← readFixedPart inTypes version offsetSize
  let typeSignature ← readKind kind offsetSize
  let c ← get
  return { encoding := { version, isWide, addressSize }
           inTypes, offset, abbreviations, typeSignature
           size := lengthSize + c.position
           entries := c.tail }

/-- The next unit of a section. -/
def read (inTypes : Bool) : Read UnitHeader := do
  let offset := (← get).position
  let (length, isWide) ← readLength
  let body ← Read.block length
  let bigEndian := (← get).bigEndian
  (readBody inTypes isWide offset (if isWide then 12 else 4)).at? body bigEndian 0

/-- The place among the unit's entries of an offset in the unit. -/
def place? (h : UnitHeader) (offset : Nat) : Option Nat :=
  if h.size ≤ offset ∧ offset - h.size < h.entries.size then some (offset - h.size) else none

end UnitHeader

structure InfoUnit extends UnitHeader where
  sections : Sections
  table : List Abbreviation
  lowAddress : UInt64 := 0
  textOffsetsBase : Nat := 0
  addressesBase : Nat := 0
  rangeListsBase : Nat := 0

namespace InfoUnit

def abbreviation? (u : InfoUnit) (code : Nat) : Option Abbreviation :=
  u.table.find? fun a => a.code = code

/-- A number in a table of numbers of `size` bytes; positions are 64-bit words. -/
def tableNumber? (bytes : ByteArray) (bigEndian : Bool) (base size index : Nat) : Option Nat :=
  (Read.unsigned size).at? bytes bigEndian (base + index * size % UInt64.size)

/-- The address that an attribute holds or leads to: `some none` if it is no address at all. -/
def address? (u : InfoUnit) : AttributeValue → Option (Option UInt64)
  | .address a => some (some a)
  | .addressIndex index => do
      let a ← tableNumber? u.sections.addresses u.sections.bigEndian u.addressesBase
        u.encoding.addressSize index
      return some a.toUInt64
  | _ => some none

/-- The text that an attribute holds or leads to. -/
def text? (u : InfoUnit) : AttributeValue → Option ByteArray
  | .text bytes => some bytes
  | .textOffset offset => Read.terminated.at? u.sections.texts false offset
  | .lineTextOffset offset => Read.terminated.at? u.sections.lineTexts false offset
  | .textIndex index => do
      let offset ← tableNumber? u.sections.textOffsets u.sections.bigEndian u.textOffsetsBase
        u.encoding.offsetSize index
      Read.terminated.at? u.sections.texts false offset
  | _ => none

/-- The attributes of the first entry, behind any ends of lists of children. -/
def readRoot (u : InfoUnit) : Nat → Read (List (AttributeName × AttributeValue))
  | 0 => failure
  | fuel + 1 => do
      let code ← Read.uleb
      if code = 0 then
        readRoot u fuel
      else
        match u.abbreviation? code with
        | some a => readAttributes u.encoding a.attributes
        | none => failure

/-- Takes over what an attribute of the root says about the unit. -/
def withBase (u : InfoUnit) : AttributeName × AttributeValue → InfoUnit
  | (name, .sectionOffset base) =>
      if name = AttributeName.textOffsetsBase then { u with textOffsetsBase := base }
      else if name = AttributeName.addressBase ∨ name = AttributeName.addressBaseExtension then
        { u with addressesBase := base }
      else if name = AttributeName.rangeListsBase ∨ name = AttributeName.rangesBaseExtension then
        { u with rangeListsBase := base }
      else u
  | _ => u

/-- The last of the attributes with the name. -/
def lastNamed? (attributes : List (AttributeName × AttributeValue)) (name : AttributeName) :
    Option AttributeValue :=
  attributes.reverse.lookup name

/-- The unit behind a header: its abbreviations and the attributes of its root. -/
def ofHeader? (sections : Sections) (h : UnitHeader) : Option InfoUnit := do
  let table ← Abbreviation.table? sections.abbreviations h.abbreviations
  let u : InfoUnit := { h with sections, table }
  let attributes ← (readRoot u h.entries.size).at? h.entries sections.bigEndian 0
  let u := attributes.foldl withBase u
  let lineTables := attributes.filterMap fun
    | (name, .sectionOffset offset) => if name = AttributeName.lineTable then some offset else none
    | _ => none
  if let some offset := lineTables.getLast? then
    guard (LineTable.isReadable sections.lines sections.bigEndian offset h.encoding.addressSize)
  match lastNamed? attributes AttributeName.lowAddress with
  | none => return u
  | some value => return { u with lowAddress := (← u.address? value).getD 0 }

end InfoUnit

end ObjectView.Debug
