import ObjectView.Address

/-!
# Processes and frames

Identity of the process under inspection, of its threads and of a frame on a thread's stack.
Memory of a process is read through a dialogue, so a process here is only what it takes to ask
for it: its number and its architecture.
-/

namespace ObjectView

structure ProcessId where
  number : UInt32
  deriving DecidableEq, Inhabited

instance : ToString ProcessId :=
  ⟨fun p => toString p.number.toNat⟩

structure ThreadId where
  number : UInt64
  deriving DecidableEq, Inhabited

inductive Architecture
  | arm64
  | x86_64
  | arm
  | x86
  | unknown (name : String)
  deriving DecidableEq, Inhabited

namespace Architecture

def name : Architecture → String
  | arm64 => "arm64"
  | x86_64 => "x86_64"
  | arm => "arm"
  | x86 => "x86"
  | unknown name => name

/-- The bytes of a pointer; an unknown architecture counts as one of 64 bits. -/
def pointerSize : Architecture → Nat
  | arm | x86 => 4
  | arm64 | x86_64 | unknown _ => 8

theorem pointerSize_eq (a : Architecture) : a.pointerSize = 4 ∨ a.pointerSize = 8 := by
  cases a <;> simp [pointerSize]

end Architecture

/-- The process under inspection, as far as it takes to ask for its memory. -/
structure Debuggee where
  id : ProcessId
  architecture : Architecture
  deriving DecidableEq, Inhabited

namespace Debuggee

def pointerSize (p : Debuggee) : Nat :=
  p.architecture.pointerSize

end Debuggee

/-- A frame on the stack of a thread, counted from the top. -/
structure StackFrame where
  process : ProcessId
  thread : ThreadId
  depth : UInt32
  instruction : Address
  deriving DecidableEq, Inhabited

end ObjectView
