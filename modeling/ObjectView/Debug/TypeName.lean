import ObjectView.Debug.Scope

/-!
# Naming a type

A declaration refers to the entry of its type.  Where that entry has a name, this is the type's
name.  Where it has none it is a modifier of the type that it refers to in turn: a pointer adds a
star, `const` adds the word, and others add nothing.  A modifier that refers to nothing modifies
`void`.

References may run in circles, so each costs some of a fixed number of levels, and one that is
met when they are used up is not followed.
-/

namespace ObjectView.Debug

/-- How a type is referred to. -/
inductive TypeReference
  /-- An entry of the same unit, by its offset in the unit. -/
  | inUnit (offset : Nat)
  /-- An entry of any unit, by its offset in the section of all units. -/
  | inInfo (offset : Nat)
  /-- The type of a unit that is found by its signature. -/
  | signature (value : Nat)
  /-- A reference of another kind, which leads nowhere. -/
  | unsupported
  deriving DecidableEq

namespace TypeReference

/-- The levels that are used up until the entry's own reference is looked at. -/
def cost : TypeReference → Nat
  | signature _ => 3
  | _ => 2

theorem cost_pos (r : TypeReference) : 0 < r.cost := by
  cases r <;> simp [cost]

end TypeReference

/-- Access to the entries `E` of types. -/
structure TypeEntries (E : Type) where
  tag : E → Tag
  name : E → Except Activity (Option String)
  /-- The reference to the type of an entry, if it has one. -/
  type : E → Option (Option TypeReference)
  /-- The entry that a reference in another entry leads to, if there is one. -/
  follow : E → TypeReference → Except Activity (Option E)

/-- The levels that references may use up. -/
def maxTypeLevels : Nat :=
  32

namespace TypeEntries

variable {E : Type}

/-- The text of an unnamed entry around that of the type it refers to. -/
def modified (tag : Tag) (inner : Option String) : Option String :=
  if tag = Tag.pointerType then some (inner.getD "void" ++ " *")
  else if tag = Tag.constType then some ("const " ++ inner.getD "void")
  else inner

/-- The name of the type that a reference in `source` leads to, with `levels` left to use. -/
def typeName (ts : TypeEntries E) (levels : Nat) (source : E) (reference : TypeReference) :
    Except Activity (Option String) :=
  if _h : levels = 0 then .ok none
  else do
    match ← ts.follow source reference with
    | none => return none
    | some e =>
        match ← ts.name e with
        | some name => return some name
        | none =>
            match ← Activity.readingNestedType.orFail (ts.type e) with
            | none => return modified (ts.tag e) none
            | some next =>
                have : 0 < reference.cost := reference.cost_pos
                return modified (ts.tag e) (← typeName ts (levels - reference.cost) e next)
termination_by levels

/-- The name of the declared type of an entry. -/
def declaredType (ts : TypeEntries E) (e : E) : Except Activity (Option String) := do
  match ← Activity.readingVariableType.orFail (ts.type e) with
  | none => return none
  | some reference => ts.typeName maxTypeLevels e reference

end TypeEntries

end ObjectView.Debug
