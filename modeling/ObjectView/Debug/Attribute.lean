import ObjectView.Binary.Cursor
import ObjectView.Debug.Code

/-!
# Attribute values and how they are written

The form of an attribute says how its value is written.  The attributes of an entry stand one
after another, and where one ends shows only when it is decoded.
-/

namespace ObjectView.Debug

open Binary

/-- The sizes that a unit lays down for its numbers. -/
structure Encoding where
  version : Nat
  /-- Offsets take eight bytes and not four. -/
  isWide : Bool
  addressSize : Nat

def Encoding.offsetSize (e : Encoding) : Nat :=
  if e.isWide then 8 else 4

/-- The size of a reference to another unit, which version 2 writes as an address. -/
def Encoding.referenceSize (e : Encoding) : Nat :=
  if e.version = 2 then e.addressSize else e.offsetSize

inductive AttributeValue
  | address (value : UInt64)
  | addressIndex (index : Nat)
  | unsigned (value : Nat)
  | signed (value : Int)
  /-- An offset into the section that the attribute is about. -/
  | sectionOffset (offset : Nat)
  /-- An entry, by its offset in the same unit. -/
  | unitReference (offset : Nat)
  /-- An entry, by its offset in the section of all units. -/
  | infoReference (offset : Nat)
  /-- A type unit, by its signature. -/
  | signatureReference (signature : Nat)
  | text (bytes : ByteArray)
  | textOffset (offset : Nat)
  | lineTextOffset (offset : Nat)
  | textIndex (index : Nat)
  | rangeListIndex (index : Nat)
  /-- A value that nothing here looks into. -/
  | other

/-- How an attribute of an entry is written: its name, its form and, for a form that keeps the
value beside it, that value. -/
structure AttributeSpec where
  name : AttributeName
  form : Nat
  constant : Option Int

namespace Form

def indirect : Nat := 0x16
def implicitConst : Nat := 0x21

/-- The form of a value: an indirect form is written in front of its value. -/
def resolve (form : Nat) : Read Nat := do
  go (← Read.remaining) form
where
  go : Nat → Nat → Read Nat
    | fuel, form =>
        if form = indirect then
          match fuel with
          | 0 => failure
          | fuel + 1 => do go fuel (← Read.uleb16)
        else
          return form

end Form

namespace AttributeSpec

/-- A number, or an offset where the attribute may hold one and the number has its size. -/
def readNumber (spec : AttributeSpec) (e : Encoding) (size : Nat) : Read AttributeValue := do
  let value ← Read.unsigned size
  return if size = e.offsetSize && spec.name.holdsOffset e.version then .sectionOffset value
    else .unsigned value

def readBlock (size : Nat) : Read AttributeValue := do
  Read.skip size
  return .other

/-- The value of the attribute at the cursor.  A constant is kept beside the form, so a form that
is named in front of the value cannot be one. -/
def read (spec : AttributeSpec) (e : Encoding) : Read AttributeValue := do
  match ← Form.resolve spec.form with
  | 0x01 => return .address (← Read.unsigned e.addressSize).toUInt64
  | 0x03 => readBlock (← Read.unsigned 2)
  | 0x04 => readBlock (← Read.unsigned 4)
  | 0x05 => return .unsigned (← Read.unsigned 2)
  | 0x06 => spec.readNumber e 4
  | 0x07 => spec.readNumber e 8
  | 0x08 => return .text (← Read.terminated)
  | 0x09 => readBlock (← Read.uleb)
  | 0x0a => readBlock (← Read.unsigned 1)
  | 0x0b => return .unsigned (← Read.unsigned 1)
  | 0x0c => readBlock 1
  | 0x0d => return .signed (← Read.sleb)
  | 0x0e => return .textOffset (← Read.unsigned e.offsetSize)
  | 0x0f => return .unsigned (← Read.uleb)
  | 0x10 => return .infoReference (← Read.unsigned e.referenceSize)
  | 0x11 => return .unitReference (← Read.unsigned 1)
  | 0x12 => return .unitReference (← Read.unsigned 2)
  | 0x13 => return .unitReference (← Read.unsigned 4)
  | 0x14 => return .unitReference (← Read.unsigned 8)
  | 0x15 => return .unitReference (← Read.uleb)
  | 0x17 => return .sectionOffset (← Read.unsigned e.offsetSize)
  | 0x18 => readBlock (← Read.uleb)
  | 0x19 => readBlock 0
  | 0x1a => return .textIndex (← Read.uleb)
  | 0x1b => return .addressIndex (← Read.uleb)
  | 0x1c => readBlock 4
  | 0x1d => readBlock e.offsetSize
  | 0x1e => readBlock 16
  | 0x1f => return .lineTextOffset (← Read.unsigned e.offsetSize)
  | 0x20 => return .signatureReference (← Read.unsigned 8)
  | 0x21 =>
      match spec.constant with
      | some value => return .signed value
      | none => failure
  | 0x22 => do
      discard Read.uleb
      return .other
  | 0x23 => return .rangeListIndex (← Read.uleb)
  | 0x24 => readBlock 8
  | 0x25 => return .textIndex (← Read.unsigned 1)
  | 0x26 => return .textIndex (← Read.unsigned 2)
  | 0x27 => return .textIndex (← Read.unsigned 3)
  | 0x28 => return .textIndex (← Read.unsigned 4)
  | 0x29 => return .addressIndex (← Read.unsigned 1)
  | 0x2a => return .addressIndex (← Read.unsigned 2)
  | 0x2b => return .addressIndex (← Read.unsigned 3)
  | 0x2c => return .addressIndex (← Read.unsigned 4)
  | 0x1f01 => return .addressIndex (← Read.uleb)
  | 0x1f02 => return .textIndex (← Read.uleb)
  | 0x1f20 => readBlock e.offsetSize
  | 0x1f21 => readBlock e.offsetSize
  | _ => failure

end AttributeSpec

/-- All attributes of an entry. -/
def readAttributes (e : Encoding) :
    List AttributeSpec → Read (List (AttributeName × AttributeValue))
  | [] => return []
  | spec :: rest => do
      let value ← spec.read e
      return (spec.name, value) :: (← readAttributes e rest)

end ObjectView.Debug
