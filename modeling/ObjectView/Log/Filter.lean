import ObjectView.Log.Event
import ObjectView.Text.Alphanumeric
import ObjectView.Text.Split

/-!
# Log filters

A filter is a list of directives between commas.  Of those that apply to an event, the most
specific one decides about it.

A directive sets the limit for some events: those of the targets that begin with a text, and
perhaps only those that have a field.  It is written `target[{field}]=limit`, where each part may
be missing.  Without a limit it lets all these events through.

Blanks around a directive do not count as its marks, but they do shift them: each part is taken as
far from the beginning of the text as the marks stand from the first character that is no blank.
-/

namespace ObjectView.Log

/-! ## Limits -/

/-- The events up to a level, or none at all. -/
structure Limit where
  level? : Option Level
  deriving DecidableEq

namespace Limit

def nothing : Limit := ⟨none⟩

def upTo (level : Level) : Limit := ⟨some level⟩

def allows (l : Limit) (level : Level) : Bool :=
  l.level?.any fun last => level.rank ≤ last.rank

/-- The limits by number. -/
def all : List Limit :=
  [nothing, upTo .error, upTo .warn, upTo .info, upTo .debug, upTo .trace]

def name (l : Limit) : String :=
  match l.level? with
  | none => "OFF"
  | some level => level.name

/-- A number is written in decimal digits, perhaps behind a plus sign. -/
def ofNumber? (word : List Char) : Option Limit :=
  let digits := if word.head? = some '+' then word.tail else word
  if digits ≠ [] ∧ digits.all Char.isDigit then
    all[digits.foldl (fun n c => 10 * n + (c.toNat - '0'.toNat)) 0]?
  else none

/-- A limit is given by its name in any case, or by its number. -/
def ofWord? (word : List Char) : Option Limit :=
  ofNumber? word <|> all.find? fun l => l.name.toList = word.map Char.toUpper

end Limit

/-! ## Directives -/

/-- Which of the events of its targets a directive is about. -/
inductive Scope
  | all
  /-- The events that have a field of the name. -/
  | field (name : String)
  /-- The events inside of spans.  There are no spans here, and so no such events. -/
  | spans
  deriving DecidableEq

namespace Scope

def includes (e : Event) : Scope → Bool
  | all => true
  | field name => e.values.any fun (found, _) => found = name
  | spans => false

/-- The scope that asks for a field is the narrower one.  Of two fields, the later in the order of
names counts as narrower. -/
def isWiderThan : Scope → Scope → Bool
  | field a, field b => a < b
  | field _, _ => false
  | _, field _ => true
  | _, _ => false

end Scope

/-- The limit for the events in scope whose targets begin with some text, which is empty for every
target. -/
structure Directive where
  target : List Char
  scope : Scope
  limit : Limit
  deriving DecidableEq

namespace Directive

/-! ### Reading -/

/-- The punctuation that a target can begin with. -/
def marks : List Char :=
  ['-', ':', '_']

def isStart (c : Char) : Bool :=
  Text.isAlphanumeric c || c ∈ marks

def openBrace : Char := '\x7b'

def closingBrace : Char := '\x7d'

/-- The first position from `start` on with one of the characters, else the end. -/
def seek (s : List Char) (wanted : List Char) (start : Nat) : Nat :=
  start + (s.drop start).findIdx (· ∈ wanted)

/-- The characters from position `first` up to `last`. -/
def between (s : List Char) (first last : Nat) : List Char :=
  (s.drop first).take (last - first)

/-- A limit takes all the rest of the text. -/
def withLimit? (s target : List Char) (scope : Scope) (start : Nat) : Option Directive :=
  match s.drop start with
  | [] => some ⟨target, scope, .upTo .trace⟩
  | word => (Limit.ofWord? word).map fun limit => ⟨target, scope, limit⟩

/-- The scope that is written from `start` on, behind an opening bracket, and the position behind
its closing bracket.  What names a span, or asks for a value of a field, is about spans. -/
def scope? (bare s : List Char) (start : Nat) : Option (Scope × Nat) :=
  let stop := seek bare [']', openBrace] start
  if bare[stop]? = some ']' then some (.spans, stop + 1)
  else do
    let last := seek bare [closingBrace] (stop + 1)
    let field := between s (stop + 1) last
    guard (bare[last]? = some closingBrace ∧ bare[last + 1]? = some ']' ∧ field ≠ [])
    let isOnEvents := between s start stop = [] ∧ '=' ∉ field
    return (if isOnEvents then .field (String.ofList field) else .spans, last + 2)

/-- What is written from `start` on, behind an opening bracket: a scope, and perhaps a limit. -/
def scoped? (bare s target : List Char) (start : Nat) : Option Directive := do
  let (scope, stop) ← scope? bare s start
  match bare[stop]? with
  | none => return ⟨target, scope, .upTo .trace⟩
  | some '=' => withLimit? s target scope (stop + 1)
  | some _ => none

/-- A word that stands alone is a limit for all targets or else a target. -/
def ofWord (s : List Char) : Directive :=
  match Limit.ofWord? s with
  | some limit => ⟨[], .all, limit⟩
  | none => ⟨s, .all, .upTo .trace⟩

def parse? (s : List Char) : Option Directive := do
  let bare := Text.trimmed s
  let first ← bare.head?
  if first = '[' then
    scoped? bare s [] 1
  else
    guard (isStart first)
    let stop := seek bare ['=', '['] 0
    match bare[stop]? with
    | none => return ofWord s
    | some '=' => withLimit? s (s.take stop) .all (stop + 1)
    | some _ => scoped? bare s (s.take stop) (stop + 1)

/-! ### Applying -/

def applies (d : Directive) (e : Event) : Bool :=
  d.target.isPrefixOf e.target.toList && d.scope.includes e

/-- A shorter target is less specific, and with targets of one length a wider scope. -/
def isWiderThan (d other : Directive) : Bool :=
  d.target.length < other.target.length ||
    (d.target.length = other.target.length && d.scope.isWiderThan other.scope)

/-- The one of two directives that decides where both apply: the more specific one, and the later
one between equals. -/
def prefer (earlier? : Option Directive) (later : Directive) : Option Directive :=
  match earlier? with
  | none => some later
  | some earlier => if later.isWiderThan earlier then earlier else later

end Directive

/-! ## Filters -/

structure Filter where
  directives : List Directive
  deriving DecidableEq

namespace Filter

def upTo (level : Level) : Filter :=
  ⟨[⟨[], .all, .upTo level⟩]⟩

/-- A filter is understood if each of its directives is; empty ones are skipped. -/
def parse? (s : String) : Option Filter :=
  (((Text.split ',' s.toList).filter (· ≠ [])).mapM Directive.parse?).map Filter.mk

/-- The directive that decides about an event. -/
def deciding? (f : Filter) (e : Event) : Option Directive :=
  (f.directives.filter (·.applies e)).foldl Directive.prefer none

/-- An event to which no directive applies is dropped. -/
def allows (f : Filter) (e : Event) : Bool :=
  (f.deciding? e).any fun d => d.limit.allows e.level

end Filter

end ObjectView.Log
