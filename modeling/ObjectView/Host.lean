import ObjectView.Log.Event
import ObjectView.Object
import ObjectView.Value

/-!
# The host

Everything that the visualizer needs from the debugger that hosts it, as questions: which runtime
is loaded, which evaluator serves a process, what is in memory, what symbols say, which nodes to
show.  Reports and log events are questions too, whose answers say nothing.
-/

namespace ObjectView

/-- Why an evaluator gives no result. -/
inductive BridgeError
  | evaluatorUnavailable (reason : String)
  | timeout
  | failed (reason : String)
  deriving DecidableEq

def BridgeError.message : BridgeError → String
  | evaluatorUnavailable reason => s!"Native evaluator unavailable: {reason}"
  | timeout => "Evaluation timed out"
  | failed reason => s!"Evaluation failed: {reason}"

/-- The service that evaluates Python expressions in one process. -/
structure Evaluator where
  number : Nat
  deriving DecidableEq

/-- An evaluator of native expressions in one frame. -/
structure NativeEvaluator where
  number : Nat
  deriving DecidableEq

/-- A type symbol.  Whoever asks for one has to give it back. -/
structure Symbol where
  number : Nat
  deriving DecidableEq

/-- An object as it is shown. -/
structure View where
  name : String
  object : Object
  category : Category
  access : Access
  deriving DecidableEq

/-- The view of an object in a node of its own. -/
def View.ofObject (object : Object) : View :=
  ⟨viewName, object, .property, .privateMember⟩

/-- All that an evaluator needs to show an object. -/
structure ResultRequest where
  context : Context
  frame : StackFrame
  /-- The host attaches the node itself, so there is no parent. -/
  parent : Option Node
  view : View
  nativeEvaluator : NativeEvaluator
  typeName : Option String
  /-- The host already shows the value natively. -/
  hasNativeView : Bool
  deriving DecidableEq

/-- Whose display options are in force. -/
inductive OptionsSource
  | own
  | shared
  deriving DecidableEq

/-- A question to the host. -/
inductive Call
  | runtime (process : ProcessId)
  | evaluator (process : ProcessId)
  | findSymbol (value : Value)
  | symbolName (symbol : Symbol)
  | releaseSymbol (symbol : Symbol)
  | readMemory (process : Debuggee) (request : Memory.Request)
  | nativeEvaluator (evaluator : Evaluator) (context : Context) (frame : StackFrame)
  | createResult (evaluator : Evaluator) (request : ResultRequest)
  | showViewNodes (source : OptionsSource)
  | report (message : String)
  | log (event : Log.Event)
  deriving DecidableEq

abbrev Call.Answer : Call → Type
  | runtime _ => Option Runtime
  | evaluator _ => Option Evaluator
  | findSymbol _ => Option Symbol
  | symbolName _ => Option String
  | releaseSymbol _ => Unit
  | readMemory _ request => request.Answer
  | nativeEvaluator _ _ _ => Except BridgeError NativeEvaluator
  | createResult _ _ => Except BridgeError Node
  | showViewNodes _ => Bool
  | report _ => Unit
  | log _ => Unit

/-- A computation that talks with the host. -/
abbrev Hosted := Dialogue Call Call.Answer

namespace Hosted

def call (c : Call) : Hosted c.Answer :=
  Dialogue.put c

def log (level : Log.Level) (target message : String)
    (fields : List (String × String) := []) : Hosted Unit :=
  call (.log ⟨level, target, message, fields⟩)

/-- Reads memory of a process through the host. -/
def ofReading {α : Type} (process : Debuggee)
    (d : Dialogue Memory.Request Memory.Request.Answer α) : Hosted α :=
  d.translate fun request => call (.readMemory process request)

end Hosted

end ObjectView
