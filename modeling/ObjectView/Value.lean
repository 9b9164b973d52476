import ObjectView.Context

/-!
# Values and results

The host asks for the view of a value, which it describes by where it is stored and how it got
there.  The answer is a node to show: a success, or a failure with a message.
-/

namespace ObjectView

/-- Where a value is stored. -/
inductive Home
  | pointer (address : Address)
  /-- Any other storage, named for diagnostics. -/
  | other (kind : String)
  deriving DecidableEq

namespace Home

/-- The storage written out for a reader. -/
def describe : Home → String
  | pointer a => Text.wrapped "Pointer" (Text.wrapped "Address" (toString a.value.toNat))
  | other kind => Text.wrapped "Other" (Text.quoted kind)

end Home

/-- Where a variable is declared: an instruction in its scope, and its name. -/
structure LexicalPosition where
  instruction : Address
  variableName : String
  deriving DecidableEq

/-- How the host arrived at a value. -/
inductive Origin
  /-- As a child of a node whose evaluation may have reported a type. -/
  | child (resultType : Option String)
  /-- As a variable of its own. -/
  | root (position : Option LexicalPosition)
  deriving DecidableEq

structure Value where
  process : Debuggee
  frame : StackFrame
  context : Context
  home : Home
  origin : Origin
  deriving DecidableEq

inductive Category
  | data
  | property
  | other
  deriving DecidableEq

/-- The decoration of a node by who can access it. -/
inductive Access
  | none
  | publicMember
  | privateMember
  deriving DecidableEq

structure ResultFlags where
  bits : UInt32
  deriving DecidableEq

namespace ResultFlags

def none : ResultFlags := ⟨0⟩
def expandable : ResultFlags := ⟨0x1⟩
def invalid : ResultFlags := ⟨0x8⟩

def contains (a b : ResultFlags) : Bool :=
  containsFlags a.bits b.bits

end ResultFlags

structure Success where
  name : String
  value : String
  typeName : Option String
  address : Option Address
  category : Category
  access : Access
  flags : ResultFlags
  context : Context
  frame : StackFrame
  deriving DecidableEq

structure Failure where
  name : String
  message : String
  flags : ResultFlags
  context : Context
  frame : StackFrame
  deriving DecidableEq

/-- The node that answers a request. -/
inductive Node
  | success (s : Success)
  | failed (f : Failure)
  deriving DecidableEq

/-- The label of the node for an object. -/
def viewName : String :=
  "[Python view]"

namespace Node

def unavailableMessage : String :=
  "Python view is unavailable for this object"

/-- The node that says that there is no view. -/
def unavailable (context : Context) (frame : StackFrame) : Node :=
  .failed ⟨viewName, unavailableMessage, .invalid, context, frame⟩

end Node

end ObjectView
