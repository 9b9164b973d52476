import ObjectView.Process
import ObjectView.Text.Quoted

/-!
# Inspection contexts

A context says under which policy and in which language something is evaluated.  The host hands
over a context in the native language of a frame; the view of an object is evaluated in a second
context, which keeps the policy and changes the language.
-/

namespace ObjectView

/-- A universally unique identifier. -/
structure Uuid where
  bits : BitVec 128
  deriving DecidableEq

namespace Uuid

/-- Five groups of digits with hyphens between them. -/
def text (u : Uuid) : String :=
  let digits := (Text.hexDigits 32 u.bits.toNat).toList
  let group (start length : Nat) := String.ofList ((digits.drop start).take length)
  "-".intercalate [group 0 8, group 8 4, group 12 4, group 16 4, group 20 12]

end Uuid

/-- Who made a language, and which one it is. -/
structure LanguageIdentity where
  vendor : Uuid
  language : Uuid
  deriving DecidableEq

structure Language where
  name : String
  identity : LanguageIdentity
  deriving DecidableEq

namespace Language

def vendor : Uuid := ⟨0x994b45c4e6e911d2903f00c04fa302a1⟩

def cpp : Language where
  name := "C++"
  identity := ⟨vendor, ⟨0x3a12d0b7c26c11d0b44200a0244a1dd2⟩⟩

def python : Language where
  name := "Python"
  identity := ⟨vendor, ⟨0xda3c7d59f9e44697bee73a0703af6bff⟩⟩

/-- Names do not matter for being the same language. -/
def isSame (a b : Language) : Bool :=
  a.identity = b.identity

end Language

/-- All flags of `b` are among those of `a`. -/
def containsFlags (a b : UInt32) : Bool :=
  a &&& b = b

structure EvaluationFlags where
  bits : UInt32
  deriving DecidableEq

namespace EvaluationFlags

def none : EvaluationFlags := ⟨0⟩
def treatAsExpression : EvaluationFlags := ⟨0x1⟩
def noSideEffects : EvaluationFlags := ⟨0x4⟩
def hideNonPublicMembers : EvaluationFlags := ⟨0x200⟩

def contains (a b : EvaluationFlags) : Bool :=
  containsFlags a.bits b.bits

def union (a b : EvaluationFlags) : EvaluationFlags :=
  ⟨a.bits ||| b.bits⟩

end EvaluationFlags

/-- Flags for the evaluation of calls. -/
structure CallFlags where
  bits : UInt32
  deriving DecidableEq

namespace CallFlags

def none : CallFlags := ⟨0⟩
def runAllThreads : CallFlags := ⟨0x1⟩

end CallFlags

structure SessionId where
  number : UInt64
  deriving DecidableEq

structure RuntimeId where
  number : UInt64
  deriving DecidableEq

/-- A Python runtime that is loaded in a process. -/
structure Runtime where
  id : RuntimeId
  process : ProcessId
  deriving DecidableEq

structure Context where
  session : SessionId
  runtime : Option RuntimeId
  thread : ThreadId
  timeoutMs : UInt64
  evaluationFlags : EvaluationFlags
  callFlags : CallFlags
  radix : UInt32
  language : Language
  deriving DecidableEq

namespace Context

def defaultTimeoutMs : UInt64 :=
  5000

/-- The context in which a host evaluates native expressions. -/
def native (session : SessionId) (thread : ThreadId) : Context where
  session
  runtime := none
  thread
  timeoutMs := defaultTimeoutMs
  evaluationFlags := .treatAsExpression
  callFlags := .none
  radix := 10
  language := .cpp

/-- The context in which an object is evaluated in a runtime, under the policy of `primary`. -/
def secondary (primary : Context) (session : SessionId) (runtime : Runtime) (thread : ThreadId) :
    Context where
  session
  runtime := some runtime.id
  thread
  timeoutMs := primary.timeoutMs
  evaluationFlags := primary.evaluationFlags
  callFlags := primary.callFlags
  radix := primary.radix
  language := .python

end Context

end ObjectView
