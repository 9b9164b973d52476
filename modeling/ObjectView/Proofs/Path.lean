import Mathlib.Data.List.Induction
import ObjectView.Path

/-!
# Paths taken apart and put together

A path is a list of pieces between slashes.  The first piece says where the path begins, and of the
other ones those count that mean something.  So a path can be cut behind a piece, and a name can be
put behind it, and what stands in front of the place stays what it is.
-/

namespace ObjectView

namespace Text

variable {separator : Char} {s t piece : List Char} {pieces : List (List Char)}

end Text

namespace Path

variable {p d : Path} {first piece name : List Char} {rest pieces : List (List Char)}
  {c : Component}

/-! ## Pieces and components -/

/-- What a path begins with if its first piece is this one. -/
def lead (first : List Char) : Component :=
  if first = [] then .root
  else if first = ['.'] then .here
  else if first = ['.', '.'] then .up
  else .named first

end Path

end ObjectView
