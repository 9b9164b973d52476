import ObjectView.Memory.Reading

/-!
# Objects in memory

An object begins with a word that counts references, and a word that points to its type.  A type
is an object too; its second word points to a type again, and its fourth to its name.

    object   count | type
    type     count | type of the type | size | name

Memory holds anything, so what is found at an address is taken for an object only if all of this
is in order.
-/

namespace ObjectView

/-- Where the words of an object lie, for pointers of `width` bytes. -/
structure ObjectLayout where
  width : Nat
  deriving DecidableEq

namespace ObjectLayout

def ofProcess (p : Debuggee) : ObjectLayout :=
  ⟨p.pointerSize⟩

def countOffset (_ : ObjectLayout) : Nat := 0
def typeOffset (l : ObjectLayout) : Nat := l.width
def typeNameOffset (l : ObjectLayout) : Nat := 3 * l.width
def headerSize (l : ObjectLayout) : Nat := 2 * l.width

/-- Counts in wide words are far below this; pointers taken for a count are not. -/
def maxCount : Int :=
  0x1000000000000

def isPlausibleCount (l : ObjectLayout) (count : Int) : Bool :=
  0 < count && (l.width = 4 || count < maxCount)

end ObjectLayout

/-- Why bytes are no object. -/
inductive Defect
  | misaligned
  | implausibleCount (count : Int)
  | nullType
  | misalignedType (address : Address)
  | nullMetatype (type : Address)
  | nullName
  | unterminatedName
  | unprintableName
  /-- A defect that is given as a text. -/
  | described (reason : String)
  deriving DecidableEq

def Defect.reason : Defect → String
  | misaligned => "object address is not pointer-aligned"
  | implausibleCount count => s!"implausible refcount {count}"
  | nullType => "ob_type is null"
  | misalignedType address => s!"ob_type {address} is not pointer-aligned"
  | nullMetatype type => s!"type object {type} has no metatype"
  | nullName => "tp_name is null"
  | unterminatedName => "tp_name is not terminated"
  | unprintableName => "tp_name is empty or contains non-printable bytes"
  | described reason => reason

/-- Why there is no object at an address. -/
inductive ObjectError
  | unreadable (address : Address) (source : MemoryError)
  | malformed (address : Address) (defect : Defect)
  deriving DecidableEq

def ObjectError.message : ObjectError → String
  | unreadable address source => s!"Object at {address} is unreadable: {source.message}"
  | malformed address defect => s!"Object at {address} is malformed: {defect.reason}"

/-- An object as it was found in memory. -/
structure Object where
  process : Debuggee
  address : Address
  typeAddress : Address
  typeName : String
  count : Int
  deriving DecidableEq

namespace Object

open Memory

/-- A computation that looks for an object. -/
abbrev Finding := ExceptT ObjectError (Dialogue Request Request.Answer)

/-- The longest name of a type, without the zero behind it. -/
def maxNameLength : UInt64 :=
  256

def isPrintable (b : UInt8) : Bool :=
  0x20 ≤ b && b ≤ 0x7e

/-- The text of a name, which is neither empty nor holds anything but visible characters. -/
def nameOf? (bytes : List UInt8) : Option String :=
  if bytes ≠ [] ∧ bytes.all isPrintable then
    some (String.ofList (bytes.map fun b => Char.ofNat b.toNat))
  else none

/-- Reads something that belongs to the object at `address`. -/
def reading {α : Type} (address : Address) (r : Reading α) : Finding α :=
  r.adapt (.unreadable address)

/-- Goes on only if the object at `address` has not got the defect. -/
def refuseIf (address : Address) (defective : Bool) (defect : Defect) : Finding Unit :=
  if defective then throw (.malformed address defect) else pure ()

/-- The object at an address.  Nothing is at the null address, which is no error. -/
def find (p : Debuggee) (address : Address) : Finding (Option Object) := do
  if address.isNull then return none
  let layout := ObjectLayout.ofProcess p
  let width := layout.width
  refuseIf address (!address.isAligned width.toUInt64) .misaligned
  let count ← reading address (Reading.signed width (address.add layout.countOffset.toUInt64))
  refuseIf address (!layout.isPlausibleCount count) (.implausibleCount count)
  let type ← reading address (Reading.pointer width (address.add layout.typeOffset.toUInt64))
  refuseIf address type.isNull .nullType
  refuseIf address (!type.isAligned width.toUInt64) (.misalignedType type)
  let metatype ← reading address (Reading.pointer width (type.add layout.typeOffset.toUInt64))
  refuseIf address metatype.isNull (.nullMetatype type)
  let name ← reading address (Reading.pointer width (type.add layout.typeNameOffset.toUInt64))
  refuseIf address name.isNull .nullName
  match ← reading address (Reading.text name maxNameLength) with
  | none => throw (.malformed address .unterminatedName)
  | some bytes =>
      match nameOf? bytes with
      | none => throw (.malformed address .unprintableName)
      | some typeName => return some ⟨p, address, type, typeName, count⟩

end Object

end ObjectView
