import ObjectView.Host

/-!
# The native type name of a value

A value that came as a child has the type that its parent's evaluation reported.  The type of a
variable is looked up in the symbols, and the symbol is given back as soon as its name is known.
A name is a help and never needed, so not finding one is no failure.
-/

namespace ObjectView

/-- Where a value's type name comes from. -/
inductive TypeNameSource
  | parentResult (typeName : String)
  | debugSymbols
  | absent
  deriving DecidableEq

def TypeNameSource.ofValue (v : Value) : TypeNameSource :=
  match v.origin with
  | .child (some typeName) => .parentResult typeName
  | .child none => .absent
  | .root _ => .debugSymbols

namespace Hosted

/-- The name of the symbol of a value, which is held only while it is asked for. -/
def nameOfSymbol (v : Value) : Hosted (Option String) := do
  match ← call (.findSymbol v) with
  | none => return none
  | some symbol =>
      let name ← call (.symbolName symbol)
      call (.releaseSymbol symbol)
      return name

/-- The type name of a value; without a provider of symbols, variables have none. -/
def typeName (hasSymbols : Bool) (v : Value) : Hosted (Option String) := do
  let name ← match TypeNameSource.ofValue v with
    | .parentResult typeName => pure (some typeName)
    | .debugSymbols => if hasSymbols then nameOfSymbol v else pure none
    | .absent => pure none
  log .trace Log.Target.symbols "resolved native type name"
    [("type_name", Text.optional (name.map Text.quoted))]
  return name

end Hosted

end ObjectView
