import ObjectView.Debug.Attribute

/-!
# Abbreviation tables

An entry begins with a code.  The table that its unit names gives for each code the entry's tag,
whether entries follow inside it, and the attributes in the order in which they are written.
-/

namespace ObjectView.Debug

open Binary

structure Abbreviation where
  code : Nat
  tag : Tag
  hasChildren : Bool
  attributes : List AttributeSpec

namespace Abbreviation

/-- The attributes up to the pair of zeros behind them. -/
def readAttributes : Nat → Read (List AttributeSpec)
  | 0 => failure
  | fuel + 1 => do
      let name ← Read.uleb16
      let form ← Read.uleb16
      if name = 0 then
        guard (form = 0)
        return []
      guard (form ≠ 0)
      let constant ← if form = Form.implicitConst then some <$> Read.sleb else pure none
      return ⟨name, form, constant⟩ :: (← readAttributes fuel)

/-- The next abbreviation, `none` at the end of the table, which may be the end of the section. -/
def read : Read (Option Abbreviation) := do
  if (← Read.remaining) = 0 then return none
  let code ← Read.uleb
  if code = 0 then return none
  let tag ← Read.uleb16
  guard (tag ≠ 0)
  let hasChildren ← Read.byte
  guard (hasChildren ≤ 1)
  let attributes ← readAttributes (← Read.remaining)
  return some { code, tag, hasChildren := hasChildren = 1, attributes }

/-- A whole table; no code may have two abbreviations. -/
def readTable : Nat → List Abbreviation → Read (List Abbreviation)
  | 0, _ => failure
  | fuel + 1, table => do
      match ← read with
      | none => return table.reverse
      | some a =>
          guard (table.all fun known => known.code ≠ a.code)
          readTable fuel (a :: table)

/-- The table at `offset`. -/
def table? (bytes : ByteArray) (offset : Nat) : Option (List Abbreviation) :=
  Read.at? (do readTable ((← Read.remaining) + 1) []) bytes false offset

end Abbreviation

end ObjectView.Debug
