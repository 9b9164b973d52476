import ObjectView.Text.LowerCase
import ObjectView.Text.Split

/-!
# Display options

Whether objects get a node of their own.  The option is on unless something turns it off, and it
can be changed at any time.
-/

namespace ObjectView

structure DisplayOptions where
  showViewNodes : Bool := true
  deriving DecidableEq

namespace DisplayOptions

/-- The variable of the environment that sets the option at the start. -/
def variableName : String :=
  "PYVIEW_SHOW_VIEW_NODES"

def yesWords : List String :=
  ["1", "true", "yes", "on"]

def noWords : List String :=
  ["0", "false", "no", "off"]

/-- The meaning of a text as yes or no, whatever its case and the white space around it. -/
def parseFlag (s : String) : Option Bool :=
  let word := Text.lowerCase (Text.trim s)
  if word ∈ yesWords then some true
  else if word ∈ noWords then some false
  else none

/-- The options for a value of the variable; one that is not understood changes nothing. -/
def ofEnvironment (value : Option String) : DisplayOptions :=
  ⟨(value.bind parseFlag).getD true⟩

def setShowViewNodes (_ : DisplayOptions) (isShown : Bool) : DisplayOptions :=
  ⟨isShown⟩

end DisplayOptions

end ObjectView
