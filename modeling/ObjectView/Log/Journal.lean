import ObjectView.Log.Filter
import ObjectView.Log.Line
import ObjectView.Log.Word
import ObjectView.Path

/-!
# The journal of a process

A process sets up its log at most once: the first setup that succeeds decides which events go to
the console and to a file, and every later one fails.  A debugger that hosts the library keeps the
console for itself, so there the log is a file only.

The file of a program of its own is a new one each day, and any file can be made.  Whether the
directory of a host's file can be made is up to the system.
-/

namespace ObjectView.Log

/-! ## Files on a disk -/

/-- The plain files of a disk, each at its place and with its lines. -/
structure Disk where
  files : List (Path.Place × List Line) := []
  deriving DecidableEq

namespace Disk

def isFile (d : Disk) (place : Path.Place) : Bool :=
  d.files.any (·.1 = place)

/-- Opens a file, which is made empty if it is not there. -/
def openFile (d : Disk) (place : Path.Place) : Disk :=
  if d.isFile place then d else ⟨d.files ++ [(place, [])]⟩

/-- Puts a line at the end of a file. -/
def append (d : Disk) (place : Path.Place) (line : Line) : Disk :=
  ⟨(d.openFile place).files.map fun (p, lines) =>
    (p, if p = place then lines ++ [line] else lines)⟩

end Disk

/-! ## What a setup finds -/

/-- Why the log is not set up. -/
inductive SetupError
  | initialization (reason : String)
  | file (reason : String)
  deriving DecidableEq

namespace SetupError

def message : SetupError → String
  | initialization reason => s!"Failed to initialize logging: {reason}"
  | file reason => s!"File logging error: {reason}"

def alreadyInstalled : SetupError :=
  .initialization "a global default trace dispatcher has already been set"

end SetupError

/-- What a process finds around it. -/
structure Environment where
  /-- A filter, which may be a word for a level. -/
  filter : Option String := none
  layout : Option String := none
  /-- A file for the lines that also go to the console. -/
  file : Option Path := none
  home : Option Path := none
  /-- The directory for temporary files. -/
  temporary : Path
  /-- The working directory. -/
  place : Path.Place
  today : Day
  /-- Why the system does not make the directory of the library's own log files, if it does not. -/
  directoryError : Option String := none

namespace Environment

/-- The layout that was asked for, if that is understood. -/
def layoutOrPretty (env : Environment) : Layout :=
  ((env.layout.bind fun word => (Layout.ofWord word).toOption)).getD .pretty

/-- The filter that was asked for, if that is understood, and else a level. -/
def filterOr (env : Environment) (level : Level) : Filter :=
  (env.filter.bind Filter.parse?).getD (.upTo level)

/-- The level that was asked for in place of a filter. -/
def levelOrInfo (env : Environment) : Level :=
  (env.filter.bind fun word => (Level.ofWord word).toOption).getD .info

/-- The directory of the library's own log files. -/
def logDirectory (env : Environment) : Path :=
  match env.home with
  | some home => home.join ⟨".pyview"⟩
  | none => env.temporary

end Environment

/-! ## Sinks -/

/-- The name of a log file for a path that does not end in a name. -/
def defaultFileName : String :=
  "pyview.log"

/-- The directory and the name of a log file. -/
def splitPath (p : Path) : Path × String :=
  (p.directory, p.fileName?.getD defaultFileName)

/-- A file for lines.  The name of a daily file ends in the day. -/
structure LogFile where
  directory : Path.Place
  name : String
  isDaily : Bool
  deriving DecidableEq

namespace LogFile

def ofPath (env : Environment) (p : Path) (isDaily : Bool) : LogFile :=
  ⟨(splitPath p).1.resolve env.place, (splitPath p).2, isDaily⟩

def place (f : LogFile) (day : Day) : Path.Place :=
  f.directory ++ [if f.isDaily then f.name ++ "." ++ day.text else f.name]

end LogFile

/-- Somewhere that lines go, which events go there, and how the lines look. -/
structure Sink where
  /-- A file, or the console. -/
  file : Option LogFile
  filter : Filter
  form : Form
  deriving DecidableEq

/-- The files that lines go to on a day. -/
def filesOf (day : Day) (sinks : List Sink) : List Path.Place :=
  sinks.filterMap fun s => s.file.map (·.place day)

/-! ## Setting up -/

structure Journal where
  /-- The sinks of the setup that succeeded. -/
  sinks : Option (List Sink) := none
  /-- The day that a daily file of the log is open for. -/
  day : Day := ⟨0⟩
  console : List Line := []
  disk : Disk := {}

namespace Journal

def openFiles (j : Journal) (day : Day) (sinks : List Sink) : Journal :=
  { j with disk := (filesOf day sinks).foldl Disk.openFile j.disk }

/-- Installs sinks, unless some are installed.  Their files are made in any case. -/
def install (j : Journal) (day : Day) (sinks : List Sink) : Except SetupError Unit × Journal :=
  let opened := j.openFiles day sinks
  match j.sinks with
  | some _ => (.error .alreadyInstalled, opened)
  | none => (.ok (), { opened with sinks := some sinks, day })

/-- The console, and the daily file that was asked for. -/
def consoleSinks (env : Environment) (layout : Layout) (level : Level) : List Sink :=
  let filter := env.filterOr level
  let (onConsole, inFile) := match layout with
    | .pretty => (Form.coloured, Form.plain false)
    | .json => (.object, .object)
  let files := env.file.toList.map fun p => ⟨some (.ofPath env p true), filter, inFile⟩
  ⟨none, filter, onConsole⟩ :: files

/-- Sets up the log of a program of its own, at an explicit level. -/
def setUpWith (j : Journal) (env : Environment) (level : Level) (layout : Layout) :
    Except SetupError Unit × Journal :=
  j.install env.today (consoleSinks env layout level)

/-- Sets up the log of a program of its own. -/
def setUp (j : Journal) (env : Environment) : Except SetupError Unit × Journal :=
  j.setUpWith env env.levelOrInfo env.layoutOrPretty

/-- The log file inside a host, with the date in its name. -/
def hostFile (env : Environment) : Path :=
  env.logDirectory.join ⟨env.today.text ++ "-pyview.log"⟩

/-- The only sink inside a host.  A level counts more than a filter, and the file stays the same. -/
def hostSink (env : Environment) (level? : Option Level) : Sink where
  file := some (.ofPath env (hostFile env) false)
  filter := match level? with
    | some level => .upTo level
    | none => env.filterOr .info
  form := .plain true

/-- Sets up the log inside a host, and says which file it is. -/
def setUpInHost (j : Journal) (env : Environment) (level? : Option Level) :
    Except SetupError Path × Journal :=
  match env.directoryError with
  | some reason => (.error (.file reason), j)
  | none =>
      let (result, j) := j.install env.today [hostSink env level?]
      (result.map fun _ => hostFile env, j)

/-! ## Logging -/

/-- Writes a line to the file of a sink, or to the console.  The first line of a later day opens the
daily file of this day. -/
def write (j : Journal) (day : Day) (s : Sink) (line : Line) : Journal :=
  match s.file with
  | some f =>
      let day := j.day.latest day
      { j with day, disk := j.disk.append (f.place day) line }
  | none => { j with console := j.console ++ [line] }

/-- Logs an event wherever the filter of a sink lets it through. -/
def record (stamp : Stamp) (j : Journal) (e : Event) : Journal :=
  ((j.sinks.getD []).filter (·.filter.allows e)).foldl
    (fun j s => j.write stamp.day s (e.line s.form stamp)) j

end Journal

end ObjectView.Log
