import ObjectView.Intrinsic
import ObjectView.TypeName

/-!
# The visualizer

The host asks for the view of a value.  The request goes through stages and ends at the first one
that cannot be completed: a runtime is loaded, the value has an address, an evaluator serves the
process, an object is at the address, and the evaluator makes a node of it.  Nothing is kept from
one request to the next.

That a loaded runtime meets a value without an address, or a process without an evaluator, is not
expected of a host, and is reported.
-/

namespace ObjectView

/-- Why a request is refused. -/
inductive RequestError
  | notImplemented (operation : String)
  | notSupported (reason : String)
  | unknownIntrinsic (id : UInt32)
  deriving DecidableEq

def RequestError.message : RequestError → String
  | notImplemented operation => s!"Operation not implemented: {operation}"
  | notSupported reason => s!"Operation not supported: {reason}"
  | unknownIntrinsic id => s!"Unknown intrinsic id {id.toNat}"

/-- Which of its collaborators a visualizer was given.  Without symbols variables have no type
name, without options the shared ones hold, and without diagnostics reports are logged. -/
structure Visualizer where
  hasSymbols : Bool := false
  options : OptionsSource := .shared
  hasDiagnostics : Bool := false
  deriving DecidableEq

namespace Visualizer

open Hosted

variable (vis : Visualizer)

def report (message : String) : Hosted Unit :=
  if vis.hasDiagnostics then call (.report message)
  else log .error Log.Target.diagnostics message

/-- The runtime that is loaded in the value's process. -/
def gate (v : Value) : OptionT Hosted Runtime := do
  match ← OptionT.lift (call (.runtime v.process.id)) with
  | some runtime => return runtime
  | none =>
      log .trace Log.Target.visualizer s!"no Python runtime in process {v.process.id}"
      failure

/-- The address of a value.  A null address means that the object does not exist yet. -/
def locate (v : Value) : OptionT Hosted Address :=
  match v.home with
  | .pointer address => if address.isNull then failure else return address
  | .other kind => do
      vis.report s!"expected a pointer value home, got {kind}"
      failure

/-- The evaluator that serves the value's process. -/
def service (v : Value) : OptionT Hosted Evaluator := do
  match ← OptionT.lift (call (.evaluator v.process.id)) with
  | some evaluator => return evaluator
  | none =>
      vis.report s!"process {v.process.id} has a Python runtime but no expression evaluator"
      failure

/-- The object at an address of the value's process. -/
def materialize (v : Value) (address : Address) : OptionT Hosted Object := do
  match ← OptionT.lift (ofReading v.process (Object.find v.process address).run) with
  | .ok (some object) =>
      log .trace Log.Target.visualizer s!"materialized {object.typeName} at {address}"
      return object
  | .ok none => failure
  | .error e =>
      log .debug Log.Target.visualizer s!"not a Python object: {e.message}"
      failure

/-- The node that the evaluator makes of an object. -/
def bridge (evaluator : Evaluator) (v : Value) (object : Object) (context : Context)
    (typeName : Option String) : OptionT Hosted Node := do
  match ← call (.nativeEvaluator evaluator v.context v.frame) with
  | .error e =>
      log .debug Log.Target.visualizer s!"native evaluator unavailable: {e.message}"
      failure
  | .ok nativeEvaluator =>
      let request : ResultRequest :=
        { context, frame := v.frame, parent := none, view := View.ofObject object,
          nativeEvaluator, typeName, hasNativeView := true }
      match ← call (.createResult evaluator request) with
      | .ok node => return node
      | .error e =>
          log .debug Log.Target.visualizer s!"Python view bridge failed: {e.message}"
          failure

/-- All stages of a request. -/
def render (v : Value) : OptionT Hosted Node := do
  let runtime ← gate v
  let address ← vis.locate v
  let evaluator ← vis.service v
  let typeName ← OptionT.lift (Hosted.typeName vis.hasSymbols v)
  let object ← materialize v address
  let context := v.context.secondary v.context.session runtime v.frame.thread
  bridge evaluator v object context typeName

/-- The node for a value; there is always one. -/
def evaluate (v : Value) : Hosted Node := do
  return (← (vis.render v).run).getD (.unavailable v.context v.frame)

/-- Whether the host shows its own rendering of a value, which it always does, and the node that it
shows beside it. -/
def defaultBehavior (v : Value) : Hosted (Except RequestError (Bool × Node)) := do
  match ← (vis.render v).run with
  | some node => return .ok (true, node)
  | none => return .error (.notSupported s!"no Python view for value at {v.home.describe}")

/-! Children and texts of a node are up to the host. -/

def children (_value : Value) (_size : Nat) : Except RequestError (List Node) :=
  .error (.notImplemented "get_children")

def items (_value : Value) (_start _count : Nat) : Except RequestError (List Node) :=
  .error (.notImplemented "get_items")

def underlyingString (_value : Value) : Except RequestError String :=
  .error (.notImplemented "get_underlying_string")

def setString (_value : Value) (_text : String) : Except RequestError Unit :=
  .error (.notImplemented "set_value_as_string")

/-- Answers an intrinsic.  View nodes are shown where a runtime is loaded and the option is on;
the option is not looked at where none is. -/
def execute (request : IntrinsicRequest) : Hosted (Except RequestError IntrinsicResponse) := do
  match Intrinsic.ofId? request.id with
  | none => return .error (.unknownIntrinsic request.id)
  | some .showViewNodes =>
      let process := request.frame.process
      let isLoaded := (← call (.runtime process)).isSome
      let isShown ← if isLoaded then call (.showViewNodes vis.options) else pure false
      log .trace Log.Target.visualizer s!"show Python view nodes for {process}: {isShown}"
      return .ok (.ofFlag request.source isShown)

end Visualizer

end ObjectView
