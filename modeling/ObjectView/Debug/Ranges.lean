import ObjectView.Debug.Entry

/-!
# The ranges of a scope

A scope covers one span of addresses, given by its ends or by its start and size, or the spans of
a range list.  Spans are half open.  A list is read as far as it takes to find the address.

Up to version 4 a list is a row of pairs of addresses, relative to a base address that a pair can
reset.  Version 5 has eight kinds of entries, and addresses may stand in a table.
-/

namespace ObjectView.Debug

open Binary

/-- The addresses from `start` up to, but not including, `stop`. -/
structure Span where
  start : UInt64
  stop : UInt64
  deriving DecidableEq

def Span.contains (s : Span) (a : UInt64) : Bool :=
  s.start ≤ a && a < s.stop

namespace RangeList

/-- The greatest address of `size` bytes. -/
def greatest (size : Nat) : UInt64 :=
  (BitVec.allOnes (8 * size)).toNat.toUInt64

/-- Addition within the addresses of `size` bytes. -/
def add (size : Nat) (a b : UInt64) : UInt64 :=
  (a + b) &&& greatest size

/-- The two greatest addresses mark what a linker has removed. -/
def isTombstone (size : Nat) (a : UInt64) : Bool :=
  greatest size - 1 ≤ a

/-- An entry of a list, in the terms of both formats. -/
inductive Item
  | ended
  | base (address : UInt64)
  /-- A span relative to the base address. -/
  | offsets (start stop : UInt64)
  | span (start stop : UInt64)

def readAddress (u : InfoUnit) : Read UInt64 := do
  return (← Read.unsigned u.encoding.addressSize).toUInt64

def readPair (u : InfoUnit) : Read Item := do
  let start ← readAddress u
  let stop ← readAddress u
  if start = 0 ∧ stop = 0 then return .ended
  if start = greatest u.encoding.addressSize then return .base stop
  return .offsets start stop

/-- An address that is given by its index in the table of addresses. -/
structure Indexed where
  index : Nat

def Indexed.address? (u : InfoUnit) (i : Indexed) : Option UInt64 := do
  return (← u.address? (.addressIndex i.index)).getD 0

def readIndexed : Read Indexed :=
  Indexed.mk <$> Read.uleb

def readKind (u : InfoUnit) : Read Item := do
  let size := u.encoding.addressSize
  match ← Read.byte with
  | 0 => return .ended
  | 1 => do
      let base ← readIndexed
      return .base (← base.address? u)
  | 2 => do
      let start ← readIndexed
      let stop ← readIndexed
      return .span (← start.address? u) (← stop.address? u)
  | 3 => do
      let start ← readIndexed
      let length ← Read.uleb
      let start ← start.address? u
      return .span start (add size start length.toUInt64)
  | 4 => do
      let start ← Read.uleb
      let stop ← Read.uleb
      return .offsets start.toUInt64 stop.toUInt64
  | 5 => return .base (← readAddress u)
  | 6 => do
      let start ← readAddress u
      let stop ← readAddress u
      return .span start stop
  | 7 => do
      let start ← readAddress u
      let length ← Read.uleb
      return .span start (add size start length.toUInt64)
  | _ => failure

def readItem (u : InfoUnit) : Read Item :=
  if u.encoding.version ≤ 4 then readPair u else readKind u

/-- A span counts unless it is empty, reversed or removed. -/
def counts (size : Nat) (s : Span) : Bool :=
  !isTombstone size s.start && s.start < s.stop

/-- The span that an item stands for, if any. -/
def Item.span? (size : Nat) (base : UInt64) : Item → Option Span
  | .span start stop => some ⟨start, stop⟩
  | .offsets start stop =>
      if isTombstone size base then none else some ⟨add size base start, add size base stop⟩
  | .ended | .base _ => none

/-- Whether a span of the list at the cursor contains an address.  The list ends at its end mark
or with the section. -/
def covers (u : InfoUnit) (pc : UInt64) : (fuel : Nat) → UInt64 → Read Bool
  | 0, _ => return false
  | fuel + 1, base => do
      if (← Read.remaining) = 0 then return false
      match ← readItem u with
      | .ended => return false
      | .base address => covers u pc fuel address
      | item =>
          let size := u.encoding.addressSize
          match item.span? size base with
          | some s =>
              if counts size s && s.contains pc then return true
              covers u pc fuel base
          | none => covers u pc fuel base

end RangeList

/-- What the attributes of a scope say about its addresses. -/
inductive Extent
  | span (s : Option Span)
  /-- The range list at an offset in the section for the unit's version. -/
  | list (offset : Nat)

/-- The ends of a span, as far as they have been read. -/
structure Bounds where
  low : Option UInt64 := none
  high : Option UInt64 := none
  size : Option UInt64 := none

/-- A size is preferred to an upper end. -/
def Bounds.span? (b : Bounds) : Option Span := do
  let low ← b.low
  match b.size with
  | some size => return ⟨low, low + size⟩
  | none => return ⟨low, ← b.high⟩

namespace InfoUnit

/-- The section with the range lists of a unit. -/
def rangeLists (u : InfoUnit) : ByteArray :=
  if u.encoding.version ≤ 4 then u.sections.ranges else u.sections.rangeLists

/-- The offset of the range list that an attribute leads to: `some none` if it leads to none. -/
def rangeListOffset? (u : InfoUnit) : AttributeValue → Option (Option Nat)
  | .sectionOffset offset => some (some offset)
  | .rangeListIndex index => do
      let offset ← tableNumber? u.sections.rangeLists u.sections.bigEndian u.rangeListsBase
        u.encoding.offsetSize index
      return some ((u.rangeListsBase + offset) % UInt64.size)
  | _ => some none

/-- An attribute that has to be an address. -/
def requireAddress? (u : InfoUnit) (value : AttributeValue) : Option UInt64 := do
  ← u.address? value

/-- Takes over an end or size of the span. -/
def withBound? (u : InfoUnit) (b : Bounds) (name : AttributeName) (value : AttributeValue) :
    Option Bounds :=
  if name = AttributeName.lowAddress then do
    return { b with low := some (← u.requireAddress? value) }
  else if name = AttributeName.highAddress then
    match value with
    | .unsigned n => some { b with size := some n.toUInt64 }
    | .signed n =>
        if 0 ≤ n then some { b with size := some n.toNat.toUInt64 } else none
    | value => do return { b with high := some (← u.requireAddress? value) }
  else some b

/-- Reads attributes until they name a range list. -/
def readExtent (u : InfoUnit) : List AttributeSpec → Bounds → Read Extent
  | [], b => return .span b.span?
  | spec :: rest, b => do
      let value ← spec.read u.encoding
      if spec.name = AttributeName.ranges then
        match ← u.rangeListOffset? value with
        | some offset =>
            guard (offset ≤ u.rangeLists.size)
            return .list offset
        | none => readExtent u rest b
      else
        readExtent u rest (← u.withBound? b spec.name value)

end InfoUnit

namespace Entry

def extent? (e : Entry) : Option Extent :=
  e.readFrom? (e.unit.readExtent e.abbreviation.attributes {})

/-- Whether the ranges of an entry contain an address. -/
def covers (e : Entry) (pc : UInt64) : Except Activity Bool := do
  match ← Activity.readingRanges.orFail e.extent? with
  | .span s => return (s.map (·.contains pc)).getD false
  | .list offset =>
      let lists := e.unit.rangeLists
      Activity.iteratingRanges.orFail
        ((RangeList.covers e.unit pc (lists.size + 1) e.unit.lowAddress).at? lists
          e.unit.sections.bigEndian offset)

end Entry

end ObjectView.Debug
