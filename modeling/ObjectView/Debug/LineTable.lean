import ObjectView.Debug.Attribute

/-!
# Headers of line tables

A unit may name a line table.  Its rows are not used, but a unit whose table has a header that
cannot be read is refused with it.
-/

namespace ObjectView.Debug

open Binary

/-- The length in front of a unit or table, and whether its offsets take eight bytes.  The
values above `0xfffffff0` are reserved, the last of them for the wide form. -/
def readLength : Read (Nat × Bool) := do
  let length ← Read.unsigned 4
  if length < 0xfffffff0 then return (length, false)
  guard (length = 0xffffffff)
  return (← Read.unsigned 8, true)

def readAddressSize : Read Nat := do
  let size ← Read.unsigned 1
  guard ([1, 2, 4, 8].contains size)
  return size

namespace LineTable

/-- The forms in which a table may describe its directories and files. -/
def fileForms : List Nat :=
  [0x03, 0x04, 0x05, 0x06, 0x07, 0x08, 0x09, 0x0a, 0x0b, 0x0c, 0x0d, 0x0e, 0x0f, 0x17, 0x1a,
    0x1d, 0x1e, 0x1f, 0x25, 0x26, 0x27, 0x28, 0x1f02, 0x1f21]

/-- Texts up to an empty one, with whatever stands behind each. -/
def readTexts (behind : Read Unit) : Nat → Read Unit
  | 0 => failure
  | fuel + 1 => do
      let text ← Read.terminated
      if text.size = 0 then return
      behind
      readTexts behind fuel

def readFormats : Nat → Read (List (Nat × Nat))
  | 0 => return []
  | count + 1 => do
      let content ← Read.uleb
      let form ← Read.uleb16
      return (content, form) :: (← readFormats count)

def readEntry (e : Encoding) : List (Nat × Nat) → Read Unit
  | [] => return
  | (_, form) :: rest => do
      guard (fileForms.contains form)
      discard (AttributeSpec.read ⟨0, form, none⟩ e)
      readEntry e rest

def readEntries (e : Encoding) (formats : List (Nat × Nat)) : Nat → Read Unit
  | 0 => return
  | count + 1 => do
      readEntry e formats
      readEntries e formats count

/-- A list of directories or files that brings its own formats, just one of which is a path.
Each entry takes a byte or more, so a count beyond the bytes ahead cannot be met. -/
def readDescribed (e : Encoding) : Read Unit := do
  let formats ← readFormats (← Read.unsigned 1)
  guard ((formats.filter fun (content, _) => content = 1).length = 1)
  let count ← Read.uleb
  readEntries e formats (min count ((← Read.remaining) + 1))

/-- What is in a table's header behind its length. -/
def readHeader (isWide : Bool) (unitAddressSize : Nat) : Read Unit := do
  let version ← Read.unsigned 2
  guard (2 ≤ version ∧ version ≤ 5)
  let mut addressSize := unitAddressSize
  if 5 ≤ version then
    addressSize ← readAddressSize
    let segmentSize ← Read.byte
    guard (segmentSize = 0)
  let encoding : Encoding := { version, isWide, addressSize }
  let headerLength ← Read.unsigned encoding.offsetSize
  let header ← Read.block headerLength
  let bigEndian := (← get).bigEndian
  (readFields encoding).at? header bigEndian 0
where
  readFields (e : Encoding) : Read Unit := do
    let instructionLength ← Read.byte
    guard (instructionLength ≠ 0)
    if 4 ≤ e.version then
      let operations ← Read.byte
      guard (operations ≠ 0)
    Read.skip 2
    let lineRange ← Read.byte
    guard (lineRange ≠ 0)
    let opcodeBase ← Read.unsigned 1
    guard (opcodeBase ≠ 0)
    Read.skip (opcodeBase - 1)
    if e.version ≤ 4 then
      readTexts (return) ((← Read.remaining) + 1)
      readTexts (do discard Read.uleb; discard Read.uleb; discard Read.uleb)
        ((← Read.remaining) + 1)
    else
      readDescribed e
      readDescribed e

/-- There is a table at `offset`, with a header that can be read. -/
def isReadable (bytes : ByteArray) (bigEndian : Bool) (offset addressSize : Nat) : Bool :=
  let table : Read Unit := do
    let (length, isWide) ← readLength
    let body ← Read.block length
    (readHeader isWide addressSize).at? body bigEndian 0
  (table.at? bytes bigEndian offset).isSome

end LineTable

end ObjectView.Debug
