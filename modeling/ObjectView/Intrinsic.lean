import ObjectView.Context

/-!
# Intrinsics

Beside its requests for nodes, the host can call intrinsics by number, and is answered in bytes.
There is one: whether nodes for objects should be shown.
-/

namespace ObjectView

inductive Intrinsic
  | showViewNodes
  deriving DecidableEq

namespace Intrinsic

def id : Intrinsic → UInt32
  | showViewNodes => 1

def ofId? (id : UInt32) : Option Intrinsic :=
  if id = 1 then some showViewNodes else none

end Intrinsic

/-- A call of an intrinsic.  The host tells its callers apart by their source. -/
structure IntrinsicRequest where
  id : UInt32
  source : Uuid
  frame : StackFrame
  arguments : List (List UInt8)
  deriving DecidableEq

/-- A call without arguments. -/
def IntrinsicRequest.ofIntrinsic (i : Intrinsic) (source : Uuid) (frame : StackFrame) :
    IntrinsicRequest :=
  ⟨i.id, source, frame, []⟩

structure IntrinsicResponse where
  source : Uuid
  bytes : List UInt8
  deriving DecidableEq

namespace IntrinsicResponse

/-- An answer of yes or no, in one byte. -/
def ofFlag (source : Uuid) (value : Bool) : IntrinsicResponse :=
  ⟨source, [if value then 1 else 0]⟩

def flag? (r : IntrinsicResponse) : Option Bool :=
  match r.bytes with
  | [0] => some false
  | [1] => some true
  | _ => none

@[simp] theorem flag?_ofFlag (source : Uuid) (value : Bool) :
    (ofFlag source value).flag? = some value := by
  cases value <;> rfl

end IntrinsicResponse

end ObjectView
