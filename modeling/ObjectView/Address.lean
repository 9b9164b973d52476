import ObjectView.Text.Quoted

/-!
# Addresses

An address is a 64-bit word.  Adding to it can wrap around the top of the address space, where
the checked form fails.
-/

namespace ObjectView

structure Address where
  value : UInt64
  deriving DecidableEq, Inhabited

namespace Address

def null : Address :=
  ⟨0⟩

def isNull (a : Address) : Bool :=
  a.value = 0

/-- No address is a multiple of zero. -/
def isAligned (a : Address) (alignment : UInt64) : Bool :=
  alignment ≠ 0 && a.value % alignment = 0

/-- The address `offset` further on, if it is still below the top. -/
def add? (a : Address) (offset : UInt64) : Option Address :=
  if a.value.toNat + offset.toNat < UInt64.size then some ⟨a.value + offset⟩ else none

/-- The address `offset` further on, from the top on to null. -/
def add (a : Address) (offset : UInt64) : Address :=
  ⟨a.value + offset⟩

instance : HAdd Address UInt64 Address :=
  ⟨add⟩

theorem add?_eq_none_iff (a : Address) (offset : UInt64) :
    a.add? offset = none ↔ UInt64.size ≤ a.value.toNat + offset.toNat := by
  unfold add?
  split
  next h => simp [h]
  next h => simp [Nat.le_of_not_lt h]

/-- Sixteen hexadecimal digits behind `0x`. -/
protected def toString (a : Address) : String :=
  "0x" ++ Text.hexDigits 16 a.value.toNat

instance : ToString Address :=
  ⟨Address.toString⟩

end Address

end ObjectView
