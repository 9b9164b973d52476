import ObjectView.Debug.InfoUnit
import ObjectView.Debug.TypeName
import ObjectView.Text.Utf8

/-!
# The entries of a unit

An entry is its place in the unit and the abbreviation that its code names.  An attribute is found
by decoding those in front of it, so what is malformed behind it does no harm; only what goes on
behind an entry decodes all its attributes.
-/

namespace ObjectView.Debug

open Binary

structure Entry where
  unit : InfoUnit
  /-- Where the entry begins among the unit's entries. -/
  place : Nat
  abbreviation : Abbreviation
  /-- Where its attributes begin. -/
  attributes : Nat

namespace Entry

/-- What is at a place of a unit: the end of a row also where the unit ends. -/
def found? (u : InfoUnit) (place : Nat) : Option (Found Entry (InfoUnit × Nat)) :=
  if u.entries.size ≤ place then some (.ended (u, place))
  else do
    let step : Read (Nat × Nat) := do
      let code ← Read.uleb
      return (code, (← get).position)
    let (code, next) ← step.at? u.entries false place
    if code = 0 then return .ended (u, next)
    return .entry ⟨u, place, ← u.abbreviation? code, next⟩

/-- The entry at a place, if one begins there. -/
def at? (u : InfoUnit) (place : Nat) : Option Entry := do
  match ← found? u place with
  | .entry e => return e
  | .ended _ => none

def root? (u : InfoUnit) : Option Entry :=
  at? u 0

/-- Reads from the beginning of the attributes on. -/
def readFrom? {α : Type} (e : Entry) (step : Read α) : Option α :=
  step.at? e.unit.entries e.unit.sections.bigEndian e.attributes

/-- The value of the first attribute of the name, `some none` if there is none.  Attributes in
front of it are decoded too. -/
def attribute? (e : Entry) (name : AttributeName) : Option (Option AttributeValue) :=
  e.readFrom? (go e.abbreviation.attributes)
where
  go : List AttributeSpec → Read (Option AttributeValue)
    | [] => return none
    | spec :: rest => do
        let value ← spec.read e.unit.encoding
        if spec.name = name then return some value
        go rest

/-- The place behind the attributes. -/
def inside? (e : Entry) : Option Nat :=
  e.readFrom? do
    discard (readAttributes e.unit.encoding e.abbreviation.attributes)
    return (← get).position

/-- The next entry of the row as the entry itself states it.  A statement that cannot be read,
or that does not point forward into the unit, is no statement. -/
def sibling? (e : Entry) : Option Nat := do
  match ← e.attribute? AttributeName.sibling with
  | some (.unitReference offset) =>
      let place ← e.unit.place? offset
      if e.place < place then some place else none
  | _ => none

/-- The place behind the row of entries at a place.  Every entry takes at least one byte. -/
def pastRow? (u : InfoUnit) : (fuel : Nat) → Nat → Option Nat
  | 0, _ => none
  | fuel + 1, place => do
      match ← found? u place with
      | .ended (_, next) => return next
      | .entry e =>
          if e.abbreviation.hasChildren then
            match e.sibling? with
            | some next => pastRow? u fuel next
            | none => pastRow? u fuel (← pastRow? u fuel (← e.inside?))
          else
            pastRow? u fuel (← e.inside?)

def past? (e : Entry) : Option Nat :=
  if e.abbreviation.hasChildren then
    match e.sibling? with
    | some next => some next
    | none => do pastRow? e.unit (e.unit.entries.size + 1) (← e.inside?)
  else
    e.inside?

def name (e : Entry) : Except Activity (Option String) := do
  match ← Activity.readingName.orFail (e.attribute? AttributeName.name) with
  | none => return none
  | some value =>
      let bytes ← Activity.resolvingText.orFail (e.unit.text? value)
      return some (Text.Utf8.decode bytes.toList)

def typeReference (value : AttributeValue) : TypeReference :=
  match value with
  | .unitReference offset => .inUnit offset
  | .infoReference offset => .inInfo offset
  | .signatureReference signature => .signature signature
  | _ => .unsupported

def type? (e : Entry) : Option (Option TypeReference) := do
  return (← e.attribute? AttributeName.type).map typeReference

end Entry

end ObjectView.Debug
