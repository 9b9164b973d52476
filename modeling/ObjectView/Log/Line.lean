import ObjectView.Log.Event
import ObjectView.Text.Quoted

/-!
# Lines of a log

An event becomes a line of text, which may be coloured for a terminal, or an object with the same
contents.  A line also says when and where the event was logged.
-/

namespace ObjectView.Log

/-! ## When and where -/

/-- A day, counted from the first one of 1970. -/
structure Day where
  number : Nat
  deriving DecidableEq

namespace Day

def latest (a b : Day) : Day :=
  if a.number < b.number then b else a

/-- Year, month and day of the month.  Years are taken from March to February, so that a leap day is
the last day of one, and in rounds of 400, which have 146097 days each. -/
def date (d : Day) : Nat × Nat × Nat :=
  let count := d.number + 719468
  let inRound := count % 146097
  let years := (inRound - inRound / 1460 + inRound / 36524 - inRound / 146096) / 365
  let inYear := inRound - (365 * years + years / 4 - years / 100)
  let months := (5 * inYear + 2) / 153
  let year := 400 * (count / 146097) + years
  (if months < 10 then year else year + 1, if months < 10 then months + 3 else months - 9,
    inYear - (153 * months + 2) / 5 + 1)

def text (d : Day) : String :=
  let (year, month, day) := d.date
  Text.decimal 4 year ++ "-" ++ Text.decimal 2 month ++ "-" ++ Text.decimal 2 day

example : [0, 11016, 19849, 47541].map (fun n => (Day.mk n).text) =
    ["1970-01-01", "2000-02-29", "2024-05-06", "2100-03-01"] := by
  decide +kernel

theorem latest_eq_or (a b : Day) : a.latest b = a ∨ a.latest b = b := by
  rw [latest]
  split
  · exact .inr rfl
  · exact .inl rfl

end Day

/-- When, where and in which thread an event was logged. -/
structure Stamp where
  day : Day
  time : String
  file : String
  line : String
  threadName : String := "main"
  thread : Nat := 1
  deriving DecidableEq

/-! ## Lines -/

/-- An entry of an object. -/
inductive Entry
  | text (value : String)
  | fields (items : List (String × String))
  deriving DecidableEq

inductive Line
  | text (line : String)
  | object (entries : List (String × Entry))
  deriving DecidableEq

/-- How the lines of one log look. -/
inductive Form
  | coloured
  | plain (hasThreadName : Bool)
  | object
  deriving DecidableEq

/-! ## Text -/

/-- A code that a terminal takes for a change of how it shows text. -/
structure Paint where
  code : String

namespace Paint

def dim : Paint := ⟨"2"⟩
def italic : Paint := ⟨"3"⟩

def ofLevel : Level → Paint
  | .error => ⟨"31"⟩
  | .warn => ⟨"33"⟩
  | .info => ⟨"32"⟩
  | .debug => ⟨"34"⟩
  | .trace => ⟨"35"⟩

/-- The text shown in the paint, if lines are coloured. -/
def apply (isColoured : Bool) (p : Paint) (s : String) : String :=
  if isColoured then "\x1b[" ++ p.code ++ "m" ++ s ++ "\x1b[0m" else s

end Paint

/-- The name of a level, moved right to the end of five columns. -/
def Level.column (level : Level) : String :=
  String.ofList (List.replicate (5 - level.name.length) ' ') ++ level.name

/-- The characters below 128 with which a text could steer the terminal that shows it. -/
def steeringCharacters : List Char :=
  ['\x07', '\x08', '\x0c', '\x1b', '\x7f']

/-- A character of a message, written out if it could steer a terminal. -/
def shown (c : Char) : String :=
  if c ∈ steeringCharacters then "\\x" ++ Text.hexDigits 2 c.toNat
  else if 0x80 ≤ c.toNat ∧ c.toNat ≤ 0x9f then "\\u\x7b" ++ Text.shortHex c.toNat ++ "\x7d"
  else String.ofList [c]

def shownMessage (s : String) : String :=
  String.join (s.toList.map shown)

namespace Event

def threadNumber (n : Nat) : String :=
  if n < 10 then "0" ++ toString n else toString n

def textLine (isColoured hasThreadName : Bool) (stamp : Stamp) (e : Event) : String :=
  let paint := Paint.apply isColoured
  let thread := if hasThreadName then stamp.threadName ++ " " else ""
  let fields := e.fields.map fun (name, value) =>
    " " ++ paint .italic name ++ paint .dim "=" ++ value
  paint .dim stamp.time ++ " " ++ paint (.ofLevel e.level) e.level.column ++ " "
    ++ thread ++ Text.wrapped "ThreadId" (threadNumber stamp.thread) ++ " "
    ++ paint .dim e.target ++ paint .dim ":" ++ " "
    ++ paint .dim stamp.file ++ paint .dim ":" ++ paint .dim (stamp.line ++ ":") ++ " "
    ++ shownMessage e.message ++ String.join fields

def objectEntries (stamp : Stamp) (e : Event) : List (String × Entry) :=
  [("timestamp", .text stamp.time), ("level", .text e.level.name),
    ("fields", .fields e.values), ("target", .text e.target),
    ("filename", .text stamp.file), ("line_number", .text stamp.line),
    ("threadId", .text (Text.wrapped "ThreadId" (toString stamp.thread)))]

def line (form : Form) (stamp : Stamp) (e : Event) : Line :=
  match form with
  | .coloured => .text (e.textLine true true stamp)
  | .plain hasThreadName => .text (e.textLine false hasThreadName stamp)
  | .object => .object (e.objectEntries stamp)

end Event

end ObjectView.Log
