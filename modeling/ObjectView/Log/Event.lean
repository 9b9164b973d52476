/-!
# Log events

What is worth a line in a log: how important it is, which part of the library says it, a message,
and values that go with it.
-/

namespace ObjectView.Log

/-- How important an event is, the most important first. -/
inductive Level
  | error
  | warn
  | info
  | debug
  | trace
  deriving DecidableEq

namespace Level

def rank : Level → Nat
  | error => 1
  | warn => 2
  | info => 3
  | debug => 4
  | trace => 5

/-- The name of a level in a log line. -/
def name : Level → String
  | error => "ERROR"
  | warn => "WARN"
  | info => "INFO"
  | debug => "DEBUG"
  | trace => "TRACE"

end Level

structure Event where
  level : Level
  target : String
  message : String
  /-- Values by name, written out for a reader. -/
  fields : List (String × String) := []
  deriving DecidableEq

/-- All values of an event by name, of which the message is one. -/
def Event.values (e : Event) : List (String × String) :=
  ("message", e.message) :: e.fields

/-! ## The parts of the library that log -/

namespace Target

def visualizer := "pyview_core::visualizer"
def symbols := "pyview_core::symbols"
def debugSymbols := "pyview_core::symbols::dwarf"
def diagnostics := "pyview::diagnostics"

end Target

end ObjectView.Log
