import ObjectView.Debug.Code

/-!
# Searching the scopes around an instruction

The declared type of a variable is found by its name and by the address of an instruction.  The
search goes through the entries of every unit and enters the scopes that cover the address;
namespaces are entered too, but are no scopes.  Of the declarations of that name that it meets,
one in the most scopes wins, and among those the first.

The search needs little of the entries, and what it needs is collected in `Entries`: the bytes of
an image provide it, and so do plain trees.  Any step may fail, because the bytes of an image are
read only as far as the search goes.
-/

namespace ObjectView.Debug

/-- What was being done when the debugging information turned out unreadable. -/
inductive Activity
  | readingInfoHeader
  | parsingUnit
  | readingTypesHeader
  | parsingTypeUnit
  | navigatingRoot
  | iteratingChildren
  | readingVariableType
  | readingRanges
  | iteratingRanges
  | resolvingReference
  | readingNestedType
  | readingName
  | resolvingText
  deriving DecidableEq

namespace Activity

def description : Activity → String
  | readingInfoHeader => "reading .debug_info unit header"
  | parsingUnit => "parsing compilation unit"
  | readingTypesHeader => "reading .debug_types unit header"
  | parsingTypeUnit => "parsing type unit"
  | navigatingRoot => "navigating unit root"
  | iteratingChildren => "iterating scope children"
  | readingVariableType => "reading variable type"
  | readingRanges => "reading scope ranges"
  | iteratingRanges => "iterating scope ranges"
  | resolvingReference => "resolving type reference"
  | readingNestedType => "reading nested type"
  | readingName => "reading DW_AT_name"
  | resolvingText => "resolving DWARF string"

/-- Names the activity in which a reading step failed. -/
def orFail {α : Type} (activity : Activity) : Option α → Except Activity α
  | some a => .ok a
  | none => .error activity

@[simp] theorem orFail_some {α : Type} (activity : Activity) (a : α) :
    activity.orFail (some a) = .ok a := rfl

@[simp] theorem orFail_none {α : Type} (activity : Activity) :
    activity.orFail (none : Option α) = .error activity := rfl

end Activity

/-- What is found at a place in a row of entries. -/
inductive Found (E P : Type)
  | entry (e : E)
  /-- The row ends, and what encloses it goes on at `next`. -/
  | ended (next : P)

/-- Access to entries `E` and to the places `P` between them. -/
structure Entries (E P : Type) where
  tag : E → Tag
  hasChildren : E → Bool
  /-- What is found at a place. -/
  found : P → Option (Found E P)
  /-- The first place inside an entry. -/
  inside : E → Option P
  /-- The place behind an entry and all inside it. -/
  past : E → Option P
  name : E → Except Activity (Option String)
  /-- Whether the ranges of an entry contain an address. -/
  covers : E → UInt64 → Except Activity Bool

/-- A declaration that was found, and how many scopes it is in. -/
structure Candidate (E : Type) where
  depth : Nat
  entry : E

namespace Entries

variable {E P : Type}

/-- The better of the candidate so far and of an entry at `depth`.  The name of an entry that
could not win is not read. -/
def consider (es : Entries E P) (wanted : String) (depth : Nat) (best : Option (Candidate E))
    (e : E) : Except Activity (Option (Candidate E)) := do
  if best.all fun c => c.depth < depth then
    if (← es.name e) = some wanted then return some ⟨depth, e⟩
  return best

/-- How many scopes the search is in inside an entry, if it enters it. -/
def depthInside (es : Entries E P) (pc : UInt64) (depth : Nat) (e : E) :
    Except Activity (Option Nat) :=
  if (es.tag e).isScope then do
    return if ← es.covers e pc then some (depth + 1) else none
  else if es.tag e = Tag.namespaceDecl then return some depth
  else return none

/-- Searches the row of entries at a place; the place behind the row is returned with the best
candidate.  Every entry lies behind the one before it, so their number bounds the recursion. -/
def searchRow (es : Entries E P) (pc : UInt64) (wanted : String) :
    (fuel : Nat) → (depth : Nat) → Option (Candidate E) → P →
      Except Activity (Option (Candidate E) × P)
  | 0, _, _, _ => .error .iteratingChildren
  | fuel + 1, depth, best, place => do
      match ← Activity.iteratingChildren.orFail (es.found place) with
      | .ended next => return (best, next)
      | .entry e =>
          if (es.tag e).isDeclaration then
            let best ← es.consider wanted depth best e
            searchRow es pc wanted fuel depth best
              (← Activity.iteratingChildren.orFail (es.past e))
          else
            match ← es.depthInside pc depth e, es.hasChildren e with
            | some inner, true =>
                let place ← Activity.iteratingChildren.orFail (es.inside e)
                let (best, next) ← searchRow es pc wanted fuel inner best place
                searchRow es pc wanted fuel depth best next
            | _, _ =>
                searchRow es pc wanted fuel depth best
                  (← Activity.iteratingChildren.orFail (es.past e))

/-- Searches what is inside the root of a unit. -/
def searchUnit (es : Entries E P) (pc : UInt64) (wanted : String) (fuel : Nat)
    (best : Option (Candidate E)) (root : E) : Except Activity (Option (Candidate E)) := do
  if es.hasChildren root then
    let place ← Activity.iteratingChildren.orFail (es.inside root)
    return (← es.searchRow pc wanted fuel 0 best place).1
  else
    return best

/-- The best candidate of all units; a root that cannot be read is `none`. -/
def search (es : Entries E P) (pc : UInt64) (wanted : String) (fuel : Nat)
    (roots : List (Option E)) : Except Activity (Option (Candidate E)) :=
  roots.foldlM (fun best root => do
    es.searchUnit pc wanted fuel best (← Activity.navigatingRoot.orFail root)) none

end Entries

end ObjectView.Debug
