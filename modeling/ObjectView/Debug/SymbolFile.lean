import ObjectView.Debug.Info
import ObjectView.Dialogue
import ObjectView.Log.Event
import ObjectView.Value

/-!
# Symbols of an image file

The file is read when the first declaration is asked for, and only then.  What it held, or that it
held nothing, is remembered.
-/

namespace ObjectView.Debug

/-- Why symbols cannot be used. -/
inductive SymbolError
  | file (reason : String)
  | image (reason : String)
  | debugInfo (activity : Activity)
  deriving DecidableEq

def SymbolError.message : SymbolError → String
  | file reason => s!"IO error: {reason}"
  | image reason => s!"Failed to parse object file: {reason}"
  | debugInfo activity => s!"DWARF error while {activity.description}"

/-- What is asked of the surroundings of a symbol file. -/
inductive FileCall
  | read (path : String)
  | log (event : Log.Event)

/-- The bytes of the file, or why they cannot be read. -/
abbrev FileCall.Answer : FileCall → Type
  | read _ => Except String ByteArray
  | log _ => Unit

/-- A way to read the debugging information off the bytes of a file, `none` if they have none. -/
abbrev Parse := ByteArray → Except SymbolError (Option Info)

structure SymbolFile where
  path : String
  parse : Parse
  /-- What was found, once the file has been read. -/
  loaded : Option (Option Info) := none

namespace SymbolFile

abbrev Loading := Dialogue FileCall FileCall.Answer

def log (level : Log.Level) (message : String) (fields : List (String × String)) : Loading Unit :=
  Dialogue.put (A := FileCall.Answer) (.log ⟨level, Log.Target.debugSymbols, message, fields⟩)

/-- Reads the debugging information off the sections of an image. -/
def parseImage (readers : Image.Readers) (path : String) : Parse := fun file => do
  match Image.parse? readers file with
  | none => throw (.image s!"failed to parse {path}")
  | some image =>
      let sections ← (Sections.ofImage readers image).mapError fun name =>
        .image s!"failed to read {name}"
      if sections.info.size = 0 then return none
      return some (← (Info.ofSections sections).mapError .debugInfo)

/-- The symbols of an image, of which nothing has been read yet. -/
def ofImage (readers : Image.Readers) (path : String) : SymbolFile where
  path
  parse := parseImage readers path

/-- The debugging information in a file as it was found. -/
def interpret (parse : Parse) (found : Except String ByteArray) :
    Except SymbolError (Option Info) :=
  match found with
  | .ok file => parse file
  | .error reason => .error (.file reason)

/-- Reads the file. -/
def load (path : String) (parse : Parse) : Loading (Option Info) := do
  match interpret parse (← Dialogue.put (A := FileCall.Answer) (.read path)) with
  | .ok (some info) => return some info
  | .ok none =>
      log .debug s!"{path} has no DWARF debug info" []
      return none
  | .error e =>
      log .debug s!"failed to load symbols from {path}: {e.message}" []
      return none

/-- What the file holds, from memory if it has been read. -/
def info (s : SymbolFile) : Loading (Option Info × SymbolFile) := do
  match s.loaded with
  | some found => return (found, s)
  | none =>
      let found ← load s.path s.parse
      return (found, { s with loaded := some found })

/-- Looks a declaration up in what the file holds. -/
def lookUp (path : String) (found : Info) (position : LexicalPosition) :
    Loading (Option String) := do
  match found.declaredType position.instruction.value position.variableName with
  | .ok name =>
      log .trace "DWARF lookup"
        [("variable", position.variableName), ("instruction", toString position.instruction),
          ("type_name", Text.optional (name.map Text.quoted))]
      return name
  | .error activity =>
      log .debug s!"DWARF lookup in {path} failed: {SymbolError.message (.debugInfo activity)}" []
      return none

/-- The name of the declared type of the variable at a position. -/
def declaredType (s : SymbolFile) (position : LexicalPosition) :
    Loading (Option String × SymbolFile) := do
  let (found, s) ← s.info
  match found with
  | none => return (none, s)
  | some info => return (← lookUp s.path info position, s)

/-- The name of the symbol for a value.  Only a variable with a position has one. -/
def symbolName (s : SymbolFile) (v : Value) : Loading (Option String × SymbolFile) :=
  match v.origin with
  | .root (some position) => s.declaredType position
  | _ => return (none, s)

/-- Whether the file has been read, and if so whether it held anything. -/
def state (s : SymbolFile) : Option Bool :=
  s.loaded.map Option.isSome

/-- The path and the state, written out for a reader. -/
def describe (s : SymbolFile) : String :=
  Text.record "DwarfSymbols"
    [("path", Text.quoted s.path), ("loaded", Text.optional (s.state.map toString))]

end SymbolFile

end ObjectView.Debug
