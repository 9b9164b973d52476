import ObjectView.Memory.Reading

/-!
# The memory of a running process

The system copies memory of a running process on request.  A request can be refused, and it can be
met in part, when a page in the middle of the range cannot be read.  Only a whole range counts.

`AddressSpace` is what a system does that knows for each page whether it can be read.
-/

namespace ObjectView.Memory.Live

/-- The question to the system for a copy of memory. -/
structure CopyRequest where
  pid : UInt32
  address : Address
  length : Nat

/-- What the system does with the question. -/
inductive Copy
  /-- These bytes were copied, perhaps fewer than were asked for. -/
  | copied (bytes : List UInt8)
  /-- Nothing was copied, for a numbered reason that has a text. -/
  | refused (code : Nat) (text : String)

/-- The reasons that mean that the first page cannot be read: a bad address, and a fault of the
device behind it. -/
def isUnreadable (code : Nat) : Bool :=
  code = 14 || code = 5

/-- Numbers of processes are below this. -/
def pidLimit : Nat :=
  0x80000000

/-- Reads a block of a running process. -/
def read (process : ProcessId) (q : Request) :
    Dialogue CopyRequest (fun _ => Copy) q.Answer := do
  if h : q.length = 0 then
    return .ok ⟨#[], by simp [h]⟩
  if pidLimit ≤ process.number.toNat then
    return .error (.system s!"invalid pid {process}")
  match ← Dialogue.put (A := fun _ => Copy) ⟨process.number, q.address, q.length⟩ with
  | .copied bytes =>
      if h : bytes.length = q.length then return .ok ⟨bytes.toArray, by simpa using h⟩
      else return .error (.unreadable q.address q.length)
  | .refused code text =>
      if isUnreadable code then return .error (.unreadable q.address q.length)
      else return .error (.system s!"process_vm_readv on pid {process}: {text}")

/-- The memory of one process as the system sees it: a byte at every address, and for each page
whether it can be read. -/
structure AddressSpace where
  byte : Nat → UInt8
  isReadable : (page : Nat) → Bool

namespace AddressSpace

/-- The bytes of a range up to the first page that cannot be read, or to the top. -/
def prefixFrom (space : AddressSpace) (address : Nat) : Nat → List UInt8
  | 0 => []
  | length + 1 =>
      if address < UInt64.size ∧ space.isReadable (address / pageSize) then
        space.byte address :: space.prefixFrom (address + 1) length
      else []

/-- Copies as much as can be read; if that is nothing, the address is bad. -/
def copy (space : AddressSpace) (address : Address) (length : Nat) : Copy :=
  match space.prefixFrom address.value.toNat length with
  | [] => if length = 0 then .copied [] else .refused 14 "Bad address (os error 14)"
  | bytes => .copied bytes

end AddressSpace

/-- The system's answers, where `processes` holds the processes that exist. -/
def answer (processes : UInt32 → Option AddressSpace) (q : CopyRequest) : Copy :=
  match processes q.pid with
  | some space => space.copy q.address q.length
  | none => .refused 3 "No such process (os error 3)"

end ObjectView.Memory.Live
