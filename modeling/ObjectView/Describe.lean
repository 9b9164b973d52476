import ObjectView.Visualizer

/-!
# Values written out for a reader

The texts in which processes, requests and visualizers show themselves to whoever looks for a
fault.  Every value is written with the name of its type, and records with their fields.
-/

namespace ObjectView

open Text

def describeNumber (name : String) (n : Nat) : String :=
  wrapped name (toString n)

/-- The last of three digits behind the point that is not zero ends the fraction. -/
def fraction (thousandths : Nat) : String :=
  if thousandths = 0 then ""
  else
    let digits := [thousandths / 100, thousandths / 10 % 10, thousandths % 10]
    "." ++ String.ofList ((digits.reverse.dropWhile (· = 0)).reverse.map Nat.digitChar)

/-- A duration in the largest unit of which there is at least one. -/
def describeMilliseconds (ms : Nat) : String :=
  if 1000 ≤ ms then toString (ms / 1000) ++ fraction (ms % 1000) ++ "s"
  else if 0 < ms then toString ms ++ "ms"
  else "0ns"

namespace ProcessId

def describe (p : ProcessId) : String :=
  describeNumber "ProcessId" p.number.toNat

end ProcessId

namespace ThreadId

def describe (t : ThreadId) : String :=
  describeNumber "ThreadId" t.number.toNat

end ThreadId

namespace Address

def describe (a : Address) : String :=
  describeNumber "Address" a.value.toNat

end Address

namespace Architecture

def describe : Architecture → String
  | arm64 => "Arm64"
  | x86_64 => "X86_64"
  | arm => "Arm"
  | x86 => "X86"
  | unknown name => wrapped "Unknown" (quoted name)

end Architecture

namespace Debuggee

def describe (p : Debuggee) : String :=
  openRecord "ProcessMemory"
    [("id", p.id.describe), ("architecture", p.architecture.describe)]

end Debuggee

namespace StackFrame

def describe (f : StackFrame) : String :=
  record "StackFrame"
    [("process", f.process.describe), ("thread", f.thread.describe),
      ("depth", toString f.depth.toNat), ("instruction", f.instruction.describe)]

end StackFrame

namespace Language

def describe (l : Language) : String :=
  record "Language"
    [("name", quoted l.name),
      ("compiler", record "CompilerId"
        [("vendor", l.identity.vendor.text), ("language", l.identity.language.text)])]

end Language

namespace Context

def describe (c : Context) : String :=
  record "InspectionContext"
    [("session", describeNumber "SessionId" c.session.number.toNat),
      ("runtime", optional (c.runtime.map fun r => describeNumber "RuntimeId" r.number.toNat)),
      ("thread", c.thread.describe),
      ("timeout", describeMilliseconds c.timeoutMs.toNat),
      ("evaluation_flags", describeNumber "EvaluationFlags" c.evaluationFlags.bits.toNat),
      ("func_eval_flags", describeNumber "FuncEvalFlags" c.callFlags.bits.toNat),
      ("radix", toString c.radix.toNat),
      ("language", c.language.describe)]

end Context

namespace Category

def describe : Category → String
  | data => "Data"
  | property => "Property"
  | other => "Other"

end Category

namespace Access

def describe : Access → String
  | none => "None"
  | publicMember => "Public"
  | privateMember => "Private"

end Access

namespace ResultFlags

def describe (f : ResultFlags) : String :=
  describeNumber "ResultFlags" f.bits.toNat

end ResultFlags

namespace Node

def describe : Node → String
  | success s => wrapped "Success" (record "SuccessResult"
      [("name", quoted s.name), ("value", quoted s.value),
        ("type_name", optional (s.typeName.map quoted)),
        ("address", optional (s.address.map Address.describe)),
        ("category", s.category.describe), ("access", s.access.describe),
        ("flags", s.flags.describe), ("context", s.context.describe),
        ("frame", s.frame.describe)])
  | failed f => wrapped "Failed" (record "FailedResult"
      [("name", quoted f.name), ("message", quoted f.message), ("flags", f.flags.describe),
        ("context", f.context.describe), ("frame", f.frame.describe)])

end Node

namespace Object

def describe (o : Object) : String :=
  record "PyObject"
    [("process", o.process.describe), ("address", o.address.describe),
      ("type_address", o.typeAddress.describe), ("type_name", quoted o.typeName),
      ("refcount", toString o.count)]

end Object

namespace View

def describe (v : View) : String :=
  record "ObjectView"
    [("name", quoted v.name), ("object", v.object.describe),
      ("category", v.category.describe), ("access", v.access.describe)]

end View

namespace ResultRequest

def describe (r : ResultRequest) : String :=
  openRecord "ObjectResultRequest"
    [("context", r.context.describe), ("frame", r.frame.describe),
      ("parent", optional (r.parent.map Node.describe)), ("view", r.view.describe),
      ("type_name", optional (r.typeName.map quoted)),
      ("has_native_view", toString r.hasNativeView)]

end ResultRequest

namespace Visualizer

/-- A visualizer shows whether the option is on, which it has to ask for. -/
def describe (vis : Visualizer) : Hosted String := do
  let isShown ← Hosted.call (.showViewNodes vis.options)
  return openRecord "Visualizer" [("show_python_view_nodes", toString (isShown : Bool))]

/-- Which collaborators a visualizer is built with. -/
def describeParts (vis : Visualizer) : String :=
  openRecord "VisualizerBuilder"
    [("symbols", toString vis.hasSymbols),
      ("options", toString (decide (vis.options = .own))),
      ("diagnostics", toString vis.hasDiagnostics)]

end Visualizer

end ObjectView
