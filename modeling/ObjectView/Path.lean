import ObjectView.Text.Split

/-!
# Paths

A path is kept as it was written, and read as the components between its slashes.  Empty ones mean
nothing, and neither does a dot, unless a relative path begins with it.
-/

namespace ObjectView

structure Path where
  text : String
  deriving DecidableEq

namespace Path

inductive Component
  | root
  | here
  | up
  | named (name : List Char)
  deriving DecidableEq

def Component.ofPiece? : List Char → Option Component
  | [] => none
  | ['.'] => none
  | ['.', '.'] => some .up
  | name => some (.named name)

def Component.text : Component → List Char
  | root => []
  | here => ['.']
  | up => ['.', '.']
  | named name => name

/-- What a path begins with, if it is no name and no step up. -/
def start : List (List Char) → List Component
  | [] :: _ :: _ => [.root]
  | ['.'] :: _ => [.here]
  | _ => []

def components (p : Path) : List Component :=
  let pieces := Text.split '/' p.text.toList
  start pieces ++ pieces.filterMap Component.ofPiece?

/-- The path that is written from pieces, of which an empty one is the root if it stands alone. -/
def ofPieces (pieces : List (List Char)) : Path :=
  match pieces with
  | [[]] => ⟨"/"⟩
  | _ => ⟨String.ofList (['/'].intercalate pieces)⟩

def isAbsolute (p : Path) : Bool :=
  p.text.toList.head? = some '/'

/-- A path from the directory that another one leads to. -/
def join (directory p : Path) : Path :=
  if p.isAbsolute then p
  else match directory.text.toList.getLast? with
    | none => p
    | some '/' => ⟨directory.text ++ p.text⟩
    | some _ => ⟨directory.text ++ "/" ++ p.text⟩

/-- The pieces up to the last one that means something. -/
def upToLast (pieces : List (List Char)) : List (List Char) :=
  (pieces.reverse.dropWhile fun piece => (Component.ofPiece? piece).isNone).reverse

/-- The directory that holds what a path leads to, written as the path is.  The first piece can be
the root or a dot that counts, so it is not left out for meaning nothing. -/
def directory (p : Path) : Path :=
  let pieces := Text.split '/' p.text.toList
  match upToLast pieces.tail with
  | [] => ⟨"."⟩
  | inner => ofPieces (pieces.take 1 ++ upToLast inner.dropLast)

/-- The last component, if it is a name. -/
def fileName? (p : Path) : Option String :=
  match p.components.getLast? with
  | some (.named name) => some (String.ofList name)
  | _ => none

/-! ## Where a path leads -/

/-- The names on the way from the root to a file or a directory. -/
abbrev Place := List String

/-- One component further from a place.  There is nothing above the root. -/
def Component.step (place : Place) : Component → Place
  | root => []
  | here => place
  | up => place.dropLast
  | named name => place ++ [String.ofList name]

/-- Where a path leads from a place, in a tree without links. -/
def resolve (place : Place) (p : Path) : Place :=
  p.components.foldl Component.step place

end Path

end ObjectView
