import ObjectView.Binary.Cursor
import ObjectView.Binary.Inflate

/-!
# Sections of a binary image

An image is a file of named sections.  Where a section's contents lie is settled when the image
is parsed; whether they can be read shows only when they are asked for.
-/

namespace ObjectView.Image

inductive Compression
  | zlib
  | zstandard

/-- Where the contents of a section come from. -/
inductive Contents
  /-- The section takes up no room in the file. -/
  | absent
  /-- `size` bytes of the file from `offset` on. -/
  | stored (offset size : Nat)
  /-- A compressed block of `size` bytes that holds `room` bytes. -/
  | compressed (form : Compression) (offset size room : Nat)
  /-- The description of the contents makes no sense. -/
  | malformed

structure Section where
  /-- `none` if the name cannot be found. -/
  name : Option ByteArray
  contents : Contents

/-- The bytes of a range of the file.  An empty range may be said to begin anywhere. -/
def range? (file : ByteArray) (offset size : Nat) : Option ByteArray :=
  if size = 0 then some .empty else Binary.slice? file offset size

/-- The bytes of a section, `none` if they cannot be read.  What a Zstandard block holds is not
worked out here. -/
def Contents.read? (unzstd? : ByteArray → Option ByteArray) (file : ByteArray) :
    Contents → Option ByteArray
  | .absent => some .empty
  | .stored offset size => range? file offset size
  | .compressed form offset size room => do
      let block ← range? file offset size
      let bytes ← match form with
        | .zlib => Binary.inflate? block room
        | .zstandard => unzstd? block
      guard (bytes.size = room)
      return bytes
  | .malformed => none

/-- The contents of a section in the older compressed form, which the name `.zdebug_…` marks:
the word `ZLIB`, the inflated size in eight bytes of which the upper four are zero, highest
first, and a zlib block. -/
def Contents.ofMarked (file : ByteArray) (offset size : Nat) : Contents :=
  let room? : Option Nat := do
    let mark ← Binary.slice? file offset 8
    guard (mark.toList = [0x5a, 0x4c, 0x49, 0x42, 0, 0, 0, 0])
    let room ← (Binary.Read.unsigned 4).at? file true (offset + 8)
    guard (12 ≤ size)
    return room
  match room? with
  | some room => .compressed .zlib (offset + 12) (size - 12) room
  | none => .malformed

end ObjectView.Image
