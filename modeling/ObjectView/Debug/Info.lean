import ObjectView.Debug.Ranges

/-!
# All units of an image

The units of an image are read once, with their headers, abbreviations and roots.  Declarations
are then looked up in all of them.
-/

namespace ObjectView.Debug

open Binary

structure Info where
  units : List InfoUnit

namespace Info

/-- Reads the units of one section in order; each takes at least one byte. -/
def readUnits (sections : Sections) (inTypes : Bool) :
    (fuel : Nat) → Cursor → Except Activity (List InfoUnit)
  | 0, _ => .ok []
  | fuel + 1, c =>
      if c.remaining = 0 then .ok []
      else do
        let readingHeader : Activity :=
          if inTypes then .readingTypesHeader else .readingInfoHeader
        let parsing : Activity := if inTypes then .parsingTypeUnit else .parsingUnit
        let (header, next) ← readingHeader.orFail ((UnitHeader.read inTypes).run c)
        let u ← parsing.orFail (InfoUnit.ofHeader? sections header)
        return u :: (← readUnits sections inTypes fuel next)

def unitsOf (sections : Sections) (inTypes : Bool) : Except Activity (List InfoUnit) :=
  let bytes := if inTypes then sections.types else sections.info
  readUnits sections inTypes bytes.size ⟨bytes, 0, sections.bigEndian⟩

def ofSections (sections : Sections) : Except Activity Info := do
  let units ← unitsOf sections false
  let typeUnits ← unitsOf sections true
  return ⟨units ++ typeUnits⟩

/-- The entries of an image, as a search needs them. -/
def entries : Entries Entry (InfoUnit × Nat) where
  tag e := e.abbreviation.tag
  hasChildren e := e.abbreviation.hasChildren
  found place := Entry.found? place.1 place.2
  inside e := do return (e.unit, ← e.inside?)
  past e := do return (e.unit, ← e.past?)
  name := Entry.name
  covers := Entry.covers

def entryAt (u : InfoUnit) (offset : Nat) : Except Activity Entry :=
  Activity.resolvingReference.orFail do
    Entry.at? u (← u.place? offset)

/-- The unit that has an entry at an offset in the section of all units. -/
def unitAt? (info : Info) (offset : Nat) : Option InfoUnit :=
  info.units.find? fun u =>
    !u.inTypes && u.offset ≤ offset && (u.place? (offset - u.offset)).isSome

/-- The unit of a signature, and the offset of the type in it. -/
def signed? (info : Info) (signature : Nat) : Option (InfoUnit × Nat) :=
  info.units.findSome? fun u =>
    match u.typeSignature with
    | some t => if t.signature = signature then some (u, t.offset) else none
    | none => none

def follow (info : Info) (source : Entry) : TypeReference → Except Activity (Option Entry)
  | .inUnit offset => some <$> entryAt source.unit offset
  | .inInfo offset =>
      match info.unitAt? offset with
      | some u => some <$> entryAt u (offset - u.offset)
      | none => .ok none
  | .signature signature =>
      match info.signed? signature with
      | some (u, offset) => some <$> entryAt u offset
      | none => .ok none
  | .unsupported => .ok none

def typeEntries (info : Info) : TypeEntries Entry where
  tag e := e.abbreviation.tag
  name := Entry.name
  type := Entry.type?
  follow := info.follow

/-- More than the number of entries of any unit. -/
def fuel (info : Info) : Nat :=
  info.units.foldl (fun n u => max n u.entries.size) 0 + 1

/-- The name of the declared type of a variable that is visible at an address. -/
def declaredType (info : Info) (pc : UInt64) (variableName : String) :
    Except Activity (Option String) := do
  match ← entries.search pc variableName info.fuel (info.units.map Entry.root?) with
  | some best => info.typeEntries.declaredType best.entry
  | none => return none

end Info

end ObjectView.Debug
