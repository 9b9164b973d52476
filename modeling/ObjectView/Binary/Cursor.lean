/-!
# Reading bytes in order

A cursor stands between two bytes of a block and moves forward as values are read.  A reading
step either yields a value and the cursor behind it, or fails because the bytes do not hold such
a value; a step that fails leaves nothing to continue from.

A block of `n` bytes, lowest first, stands for the number below `256 ^ n` whose digits in base 256
they are.
-/

namespace ObjectView.Binary

/-- The number whose digits in base 256 are `bytes`, lowest first. -/
def ofLittleEndian : List UInt8 → Nat
  | [] => 0
  | b :: rest => b.toNat + 256 * ofLittleEndian rest

@[simp] theorem ofLittleEndian_nil : ofLittleEndian [] = 0 := rfl

@[simp] theorem ofLittleEndian_cons (b : UInt8) (rest : List UInt8) :
    ofLittleEndian (b :: rest) = b.toNat + 256 * ofLittleEndian rest := rfl

/-- A place in a block of bytes, with the byte order that its numbers are written in. -/
structure Cursor where
  bytes : ByteArray
  position : Nat
  bigEndian : Bool

/-- A step of reading: `none` when the bytes ahead do not hold what was asked for. -/
abbrev Read := StateT Cursor Option

namespace Cursor

/-- The number of bytes ahead of the cursor. -/
def remaining (c : Cursor) : Nat :=
  c.bytes.size - c.position

/-- The cursor `count` bytes further on, if there are as many. -/
def advance? (c : Cursor) (count : Nat) : Option Cursor :=
  if c.position + count ≤ c.bytes.size then some { c with position := c.position + count }
  else none

/-- The bytes ahead, as a block of their own. -/
def tail (c : Cursor) : ByteArray :=
  c.bytes.extract c.position c.bytes.size

end Cursor

namespace Read

/-- The number of bytes left to read. -/
def remaining : Read Nat := do
  return (← get).remaining

def skip (count : Nat) : Read Unit := fun c => do
  return ((), ← c.advance? count)

/-- The next `count` bytes, as a block of their own. -/
def block (count : Nat) : Read ByteArray := fun c => do
  let next ← c.advance? count
  return (c.bytes.extract c.position next.position, next)

def byte : Read UInt8 := fun c => do
  let b ← c.bytes[c.position]?
  return (b, { c with position := c.position + 1 })

/-- An unsigned number of `count` bytes in the cursor's byte order. -/
def unsigned (count : Nat) : Read Nat := do
  let digits := (← block count).toList
  return ofLittleEndian (if (← get).bigEndian then digits.reverse else digits)

/-- An unsigned number of seven bits a byte, lowest first.  The tenth byte can only add the
64th bit, so it is 0 or 1. -/
def uleb : Read Nat :=
  go 9
where
  go : Nat → Read Nat
    | 0 => do
        let b ← byte
        guard (b ≤ 1)
        return b.toNat
    | more + 1 => do
        let b ← byte
        if b < 128 then return b.toNat
        return b.toNat - 128 + 128 * (← go more)

/-- A number that has to fit 16 bits: three bytes of seven bits at most. -/
def uleb16 : Read Nat := do
  let low ← byte
  if low < 128 then return low.toNat
  let middle ← byte
  if middle < 128 then return low.toNat - 128 + 128 * middle.toNat
  let high ← byte
  guard (high ≤ 3)
  return low.toNat - 128 + 128 * (middle.toNat - 128 + 128 * high.toNat)

/-- A signed number of seven bits a byte, lowest first, whose last byte carries the sign.  The
tenth byte can only repeat the sign. -/
def sleb : Read Int :=
  go 9
where
  go : Nat → Read Int
    | 0 => do
        let b ← byte
        guard (b = 0 ∨ b = 127)
        return if b = 0 then 0 else -1
    | more + 1 => do
        let b ← byte
        if b < 64 then return b.toNat
        if b < 128 then return (b.toNat : Int) - 128
        return (b.toNat : Int) - 128 + 128 * (← go more)

/-- The distance from `position` to the next zero byte. -/
def zeroAfter? (bytes : ByteArray) (position : Nat) : Option Nat :=
  go (bytes.size - position) position
where
  go : Nat → Nat → Option Nat
    | 0, _ => none
    | more + 1, here =>
        if bytes[here]? = some 0 then some (here - position) else go more (here + 1)

/-- The bytes up to the next zero byte, which is passed. -/
def terminated : Read ByteArray := do
  let c ← get
  let length ← zeroAfter? c.bytes c.position
  let text ← block length
  skip 1
  return text

/-- What a step reads from `position` on, the bytes behind it not considered. -/
def at? {α : Type} (step : Read α) (bytes : ByteArray) (bigEndian : Bool) (position : Nat) :
    Option α :=
  (step.run ⟨bytes, position, bigEndian⟩).map Prod.fst

end Read

/-- The `count` bytes from `offset` on, if the block has them all. -/
def slice? (bytes : ByteArray) (offset count : Nat) : Option ByteArray :=
  (Read.block count).at? bytes false offset

end ObjectView.Binary
