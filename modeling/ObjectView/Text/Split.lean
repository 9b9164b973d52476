/-!
# Taking a text apart

A text is cut at a separator into the pieces between, empty ones included, so that a text with `n`
separators has `n + 1` pieces.  White space, of any script, can be cut off at both ends.
-/

namespace ObjectView.Text

/-! ## White space -/

def blankRanges : List (Nat × Nat) :=
  [(0x9, 0xd), (0x20, 0x20), (0x85, 0x85), (0xa0, 0xa0), (0x1680, 0x1680), (0x2000, 0x200a),
    (0x2028, 0x2029), (0x202f, 0x202f), (0x205f, 0x205f), (0x3000, 0x3000)]

def isBlank (c : Char) : Bool :=
  blankRanges.any fun (first, last) => first ≤ c.toNat && c.toNat ≤ last

/-- The characters without the white space at both ends. -/
def trimmed (s : List Char) : List Char :=
  ((s.dropWhile isBlank).reverse.dropWhile isBlank).reverse

def trim (s : String) : String :=
  String.ofList (trimmed s.toList)

/-! ## Pieces -/

/-- Puts a character in front of the first piece. -/
def extend (c : Char) : List (List Char) → List (List Char)
  | [] => [[c]]
  | piece :: pieces => (c :: piece) :: pieces

def split (separator : Char) : List Char → List (List Char)
  | [] => [[]]
  | c :: rest =>
      let pieces := split separator rest
      if c = separator then [] :: pieces else extend c pieces

variable {separator c : Char} {s t : List Char} {pieces more : List (List Char)}

theorem split_cons_of_ne (h : c ≠ separator) :
    split separator (c :: s) = extend c (split separator s) := by
  simp [split, h]

/-- A text without separators is one piece. -/
theorem split_of_notMem (h : separator ∉ s) : split separator s = [s] := by
  induction s with
  | nil => rfl
  | cons c rest ih =>
      simp only [List.mem_cons, not_or] at h
      rw [split_cons_of_ne (Ne.symm h.1), ih h.2, extend]

end ObjectView.Text
