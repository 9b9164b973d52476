import ObjectView.Log.Event
import ObjectView.Text.LowerCase

/-!
# Words for levels and layouts

The words in which a user says how much to log and in which layout, in upper or lower case.
-/

namespace ObjectView.Log

/-- A word that says nothing, as it was written. -/
inductive WordError
  | unknownLevel (word : String)
  | unknownLayout (word : String)
  deriving DecidableEq

def WordError.message : WordError → String
  | unknownLevel word =>
      s!"Unknown log level: {word}. Use 'error', 'warn', 'info', 'debug', or 'trace'"
  | unknownLayout word => s!"Unknown log format: {word}. Use 'pretty' or 'json'"

namespace Level

def all : List Level :=
  [error, warn, info, debug, trace]

def words : Level → List String
  | error => ["error", "err"]
  | warn => ["warn", "warning"]
  | info => ["info"]
  | debug => ["debug", "dbg"]
  | trace => ["trace"]

def ofWord (word : String) : Except WordError Level :=
  match all.find? fun level => Text.lowerCase word ∈ level.words with
  | some level => .ok level
  | none => .error (.unknownLevel word)

end Level

/-- Lines for a reader, or objects for a program. -/
inductive Layout
  | pretty
  | json
  deriving DecidableEq

namespace Layout

def all : List Layout :=
  [pretty, json]

def words : Layout → List String
  | pretty => ["pretty", "dev", "development"]
  | json => ["json", "prod", "production"]

def ofWord (word : String) : Except WordError Layout :=
  match all.find? fun layout => Text.lowerCase word ∈ layout.words with
  | some layout => .ok layout
  | none => .error (.unknownLayout word)

end Layout

end ObjectView.Log
