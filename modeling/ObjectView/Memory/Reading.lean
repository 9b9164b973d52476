import ObjectView.Binary.Cursor
import ObjectView.Dialogue
import ObjectView.Process

/-!
# Reading the memory of a process

Who holds the memory is asked for a block of bytes at a time, and answers with all of them or with
an error.  On top of that, words and zero-terminated texts are read.  Words are little-endian, as
on every architecture here.
-/

namespace ObjectView

/-- Why a read failed. -/
inductive MemoryError
  /-- Some byte of the range cannot be read. -/
  | unreadable (address : Address) (length : Nat)
  /-- The range passes the top of the address space. -/
  | overflow (address : Address) (length : Nat)
  /-- The system refused. -/
  | system (reason : String)
  deriving DecidableEq

def MemoryError.message : MemoryError → String
  | unreadable address length => s!"Unable to read {length} bytes at {address}"
  | overflow address length => s!"Address range at {address} with length {length} overflows"
  | system reason => s!"Memory read failed: {reason}"

namespace Memory

/-- The question for a block of memory. -/
structure Request where
  address : Address
  length : Nat
  deriving DecidableEq

/-- All bytes of the block, or an error. -/
abbrev Request.Answer (q : Request) : Type :=
  Except MemoryError (Vector UInt8 q.length)

/-- The block does not reach the top of the address space. -/
def Request.BelowTop (q : Request) : Prop :=
  q.address.value.toNat + q.length < UInt64.size

instance (q : Request) : Decidable q.BelowTop :=
  inferInstanceAs (Decidable (_ < _))

/-- A computation that reads memory. -/
abbrev Reading := ExceptT MemoryError (Dialogue Request Request.Answer)

/-- String reads do not cross a page in one question. -/
def pageSize : Nat :=
  4096

namespace Reading

/-- The block at an address.  A range that reaches the top of the address space is refused
without asking. -/
def block (address : Address) (length : Nat) : Reading (Vector UInt8 length) :=
  match address.add? length.toUInt64 with
  | none => throw (.overflow address length)
  | some _ => ExceptT.mk (Dialogue.put (A := Request.Answer) ⟨address, length⟩)

/-- The unsigned number in a word of `width` bytes. -/
def word (width : Nat) (address : Address) : Reading Nat := do
  return Binary.ofLittleEndian (← block address width).toList

/-- A word as an address. -/
def pointer (width : Nat) (address : Address) : Reading Address := do
  return ⟨(← word width address).toUInt64⟩

/-- The number that a word of `width` bytes means in two's complement. -/
def toSigned (width n : Nat) : Int :=
  (BitVec.ofNat (8 * width) n).toInt

/-- A word as a signed number. -/
def signed (width : Nat) (address : Address) : Reading Int := do
  return toSigned width (← word width address)

/-- The bytes in front of the first zero, if there is one. -/
def terminated? (bytes : List UInt8) : Option (List UInt8) :=
  if 0 ∈ bytes then some (bytes.takeWhile (· ≠ 0)) else none

/-- Goes on with a text one byte at a time, within a block that cannot be read as a whole.  If
all its bytes could be read after all, the byte behind it is the one to blame. -/
def scan (cursor : Address) (text : List UInt8) : Nat → Reading (Option (List UInt8))
  | 0 => throw (.unreadable cursor 1)
  | count + 1 => do
      let byte := (← block cursor 1)[0]
      if byte = 0 then return some text
      scan (cursor.add 1) (text ++ [byte]) count

/-- Goes on with a text one page at a time, for `room` bytes at most. -/
def chunks (cursor : Address) (text : List UInt8) (room : Nat) :
    Reading (Option (List UInt8)) :=
  if _h : room = 0 then return none
  else
    let length := min (pageSize - cursor.value.toNat % pageSize) room
    ExceptT.mk do
      match ← (block cursor length).run with
      | .error (.unreadable _ _) => (scan cursor text length).run
      | .error e => return .error e
      | .ok bytes =>
          match terminated? bytes.toList with
          | some last => return .ok (some (text ++ last))
          | none =>
              (chunks (cursor.add length.toUInt64) (text ++ bytes.toList) (room - length)).run
termination_by room
decreasing_by
  have : cursor.value.toNat % pageSize < pageSize := Nat.mod_lt _ (by decide)
  omega

/-- The bytes at an address up to a zero, `none` if there is none among the first
`maxLength + 1`.  A page that cannot be read as a whole is read byte by byte, so a text that ends
in front of an unreadable byte is found. -/
def text (address : Address) (maxLength : UInt64)
    (_fits : maxLength.toNat + 1 < UInt64.size := by decide) : Reading (Option (List UInt8)) :=
  chunks address [] (maxLength.toNat + 1)

/-- The reading of a text of any greatest length.  There is none where the count of its bytes does
not fit a word: the program stops there before it reads. -/
def text? (address : Address) (maxLength : UInt64) : Option (Reading (Option (List UInt8))) :=
  if fits : maxLength.toNat + 1 < UInt64.size then some (text address maxLength fits) else none

end Reading

end Memory

end ObjectView
