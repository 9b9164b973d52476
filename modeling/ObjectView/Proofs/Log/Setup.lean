import ObjectView.Log.Journal

/-!
# Setting up the log more than once

A process may try to set up its log as often as it likes, in any environment and with events logged
in between.  The first attempt whose directory can be made takes effect, and it is the only one: all
that later attempts leave behind are empty files.  Lines get into such a file only if it is the one
that the log itself moves on to on a later day.
-/

namespace ObjectView.Log

/-! ## Files -/

/-- The lines of the file at a place, if there is one. -/
def Disk.lines? (d : Disk) (place : Path.Place) : Option (List Line) :=
  (d.files.find? (·.1 = place)).map (·.2)

namespace Disk

theorem isFile_eq (d : Disk) (place : Path.Place) : d.isFile place = (d.lines? place).isSome := by
  rw [isFile, lines?, Option.isSome_map, Bool.eq_iff_iff, List.find?_isSome, List.any_eq_true]

theorem lines?_openFile (d : Disk) (opened place : Path.Place) :
    (d.openFile opened).lines? place =
      if place = opened then some ((d.lines? place).getD []) else d.lines? place := by
  by_cases hfile : d.isFile opened = true
  · rw [openFile, if_pos hfile]
    split
    · next hplace =>
        subst hplace
        rw [isFile_eq] at hfile
        obtain ⟨lines, hlines⟩ := Option.isSome_iff_exists.1 hfile
        rw [hlines, Option.getD_some]
    · rfl
  · have hnew : (d.openFile opened).lines? place =
        ((d.files.find? (·.1 = place)).or (List.find? (·.1 = place) [(opened, [])])).map (·.2) := by
      rw [openFile, if_neg hfile, lines?, List.find?_append]
    rw [hnew, lines?]
    split
    · next hplace =>
        subst hplace
        rw [isFile_eq, lines?, Option.isSome_map, Option.not_isSome_iff_eq_none] at hfile
        rw [hfile]
        simp
    · next hplace =>
        have hother : List.find? (·.1 = place) [(opened, ([] : List Line))] = none := by
          simpa using Ne.symm hplace
        rw [hother, Option.or_none]

theorem lines?_append (d : Disk) (written place : Path.Place) (line : Line) :
    (d.append written line).lines? place =
      if place = written then some ((d.lines? place).getD [] ++ [line]) else d.lines? place := by
  have hopened : (d.append written line).lines? place = ((d.openFile written).lines? place).map
      fun lines => if place = written then lines ++ [line] else lines := by
    rw [lines?, append, List.find?_map, lines?, Option.map_map, Option.map_map]
    apply Option.map_congr
    intro file hfile
    have hfound := List.find?_some hfile
    obtain rfl : file.1 = place := of_decide_eq_true hfound
    rfl
  rw [hopened, lines?_openFile]
  split
  · rw [Option.map_some]
  · exact Option.map_id'

theorem lines?_foldl_openFile (d : Disk) (places : List Path.Place) (place : Path.Place) :
    (places.foldl openFile d).lines? place =
      if place ∈ places then some ((d.lines? place).getD []) else d.lines? place := by
  induction places generalizing d with
  | nil => rfl
  | cons opened rest ih =>
      rw [List.foldl_cons, ih, lines?_openFile]
      by_cases hopened : place = opened
      · simp [hopened]
      · simp [hopened]

end Disk

theorem mem_filesOf {day : Day} {sinks : List Sink} {place : Path.Place} :
    place ∈ filesOf day sinks ↔ ∃ s ∈ sinks, ∃ f ∈ s.file, f.place day = place := by
  simp [filesOf, Option.map_eq_some_iff]

/-- Where two sinks have files, these are the same. -/
def HaveOneFile (sinks : List Sink) : Prop :=
  ∀ s ∈ sinks, ∀ s' ∈ sinks, ∀ f ∈ s.file, ∀ f' ∈ s'.file, f = f'

namespace Journal

variable {j j' : Journal} {place : Path.Place}

theorem lines?_openFiles (j : Journal) (day : Day) (sinks : List Sink) (place : Path.Place) :
    (j.openFiles day sinks).disk.lines? place =
      if place ∈ filesOf day sinks then some ((j.disk.lines? place).getD [])
      else j.disk.lines? place :=
  j.disk.lines?_foldl_openFile (filesOf day sinks) place

/-! ### One line -/

theorem sinks_write (j : Journal) (day : Day) (s : Sink) (line : Line) :
    (j.write day s line).sinks = j.sinks := by
  rw [write]
  split <;> rfl

theorem day_write (j : Journal) (day : Day) (s : Sink) (line : Line) :
    (j.write day s line).day = if s.file.isSome then j.day.latest day else j.day := by
  rw [write]
  split
  · next f hfile => rw [hfile, Option.isSome_some, if_pos rfl]
  · next hconsole => rw [hconsole, Option.isSome_none, if_neg Bool.false_ne_true]

theorem lines?_write (j : Journal) (day : Day) (s : Sink) (line : Line) (place : Path.Place) :
    (j.write day s line).disk.lines? place =
      if place ∈ filesOf (j.write day s line).day [s] then
        some ((j.disk.lines? place).getD [] ++ [line])
      else j.disk.lines? place := by
  rw [day_write]
  cases hfile : s.file with
  | some f =>
      have hfiles : filesOf (j.day.latest day) [s] = [f.place (j.day.latest day)] := by
        simp [filesOf, hfile]
      have hwrite : (j.write day s line).disk =
          j.disk.append (f.place (j.day.latest day)) line := by
        rw [write, hfile]
      rw [Option.isSome_some, if_pos rfl, hfiles, hwrite, Disk.lines?_append]
      simp only [List.mem_singleton]
  | none =>
      have hfiles : filesOf j.day [s] = [] := by
        simp [filesOf, hfile]
      have hwrite : (j.write day s line).disk = j.disk := by
        rw [write, hfile]
      rw [Option.isSome_none, if_neg Bool.false_ne_true, hfiles, hwrite, if_neg List.not_mem_nil]

/-! ### One event -/

/-- What writing to the sinks of the log keeps is kept where an event is logged. -/
theorem record_induction {P : Journal → Prop} (stamp : Stamp) (e : Event) (start : P j)
    (step : ∀ s ∈ j.sinks.getD [], ∀ line j', j'.sinks = j.sinks → P j' →
      P (j'.write stamp.day s line)) : P (j.record stamp e) := by
  suffices (j.record stamp e).sinks = j.sinks ∧ P (j.record stamp e) from this.2
  rw [record]
  apply List.foldlRecOn (motive := fun j' => j'.sinks = j.sinks ∧ P j')
  · exact ⟨rfl, start⟩
  · rintro j' ⟨hsinks, hj'⟩ s hs
    exact ⟨(sinks_write j' stamp.day s _).trans hsinks,
      step s (List.mem_filter.1 hs).1 _ j' hsinks hj'⟩

theorem sinks_record (j : Journal) (stamp : Stamp) (e : Event) :
    (j.record stamp e).sinks = j.sinks := by
  apply record_induction (P := fun j' => j'.sinks = j.sinks) stamp e rfl
  intro s _ line j' hsinks _
  rw [sinks_write, hsinks]

end Journal

/-! ## One attempt -/

/-- An attempt to set up the log, in an environment of its own. -/
inductive Setup
  | standard (env : Environment)
  | explicit (env : Environment) (level : Level) (layout : Layout)
  | inHost (env : Environment) (level? : Option Level)

namespace Setup

/-- Makes the attempt.  Inside a host, the file of the log is returned. -/
def run (j : Journal) : Setup → Except SetupError (Option Path) × Journal
  | standard env => ((j.setUp env).1.map fun _ => none, (j.setUp env).2)
  | explicit env level layout =>
      ((j.setUpWith env level layout).1.map fun _ => none, (j.setUpWith env level layout).2)
  | inHost env level? => ((j.setUpInHost env level?).1.map some, (j.setUpInHost env level?).2)

def environment : Setup → Environment
  | standard env => env
  | explicit env _ _ => env
  | inHost env _ => env

def sinks : Setup → List Sink
  | standard env => Journal.consoleSinks env env.layoutOrPretty env.levelOrInfo
  | explicit env level layout => Journal.consoleSinks env layout level
  | inHost env level? => [Journal.hostSink env level?]

def file? : Setup → Option Path
  | inHost env _ => some (Journal.hostFile env)
  | _ => none

/-- Why the system does not make the directory of the log, which is asked for only inside a host. -/
def stopped? : Setup → Option String
  | inHost env _ => env.directoryError
  | _ => none

variable {j : Journal} {s : Setup}

theorem run_of_stopped {reason : String} (h : s.stopped? = some reason) :
    s.run j = (.error (.file reason), j) := by
  cases s with
  | standard env => cases h
  | explicit env level layout => cases h
  | inHost env level? =>
      have herror : env.directoryError = some reason := h
      rw [run, Journal.setUpInHost, herror]
      rfl

theorem install_eq (j : Journal) (day : Day) (sinks : List Sink) :
    j.install day sinks = (if j.sinks.isSome then .error .alreadyInstalled else .ok (),
      { j.openFiles day sinks with
        sinks := some (j.sinks.getD sinks), day := if j.sinks.isSome then j.day else day }) := by
  obtain ⟨installed, _, _, _⟩ := j
  cases installed with
  | none => rfl
  | some installed => rfl

/-- An attempt that is not stopped makes its files in any case. -/
theorem run_of_not_stopped (h : s.stopped? = none) :
    s.run j = (if j.sinks.isSome then .error .alreadyInstalled else .ok s.file?,
      { j.openFiles s.environment.today s.sinks with
        sinks := some (j.sinks.getD s.sinks)
        day := if j.sinks.isSome then j.day else s.environment.today }) := by
  cases s with
  | standard env =>
      rw [run, Journal.setUp, Journal.setUpWith, install_eq]
      cases j.sinks <;> rfl
  | explicit env level layout =>
      rw [run, Journal.setUpWith, install_eq]
      cases j.sinks <;> rfl
  | inHost env level? =>
      have herror : env.directoryError = none := h
      rw [run, Journal.setUpInHost, herror]
      simp only [install_eq]
      cases j.sinks <;> rfl

theorem isOk_run (s : Setup) (j : Journal) :
    (s.run j).1.isOk = (s.stopped?.isNone && j.sinks.isNone) := by
  cases hstopped : s.stopped? with
  | none =>
      rw [run_of_not_stopped hstopped]
      cases j.sinks <;> rfl
  | some reason =>
      rw [run_of_stopped hstopped]
      rfl

theorem isOk_run_iff : (s.run j).1.isOk = true ↔ s.stopped? = none ∧ j.sinks = none := by
  rw [isOk_run, Bool.and_eq_true, Option.isNone_iff_eq_none, Option.isNone_iff_eq_none]

theorem sinks_run (s : Setup) (j : Journal) :
    (s.run j).2.sinks = if s.stopped?.isSome then j.sinks else some (j.sinks.getD s.sinks) := by
  cases hstopped : s.stopped? with
  | none => rw [run_of_not_stopped hstopped, Option.isSome_none, if_neg Bool.false_ne_true]
  | some reason => rw [run_of_stopped hstopped, Option.isSome_some, if_pos rfl]

theorem lines?_run (s : Setup) (j : Journal) (place : Path.Place) :
    (s.run j).2.disk.lines? place =
      if s.stopped? = none ∧ place ∈ filesOf s.environment.today s.sinks then
        some ((j.disk.lines? place).getD [])
      else j.disk.lines? place := by
  cases hstopped : s.stopped? with
  | none =>
      rw [run_of_not_stopped hstopped]
      simp only [true_and]
      exact j.lines?_openFiles s.environment.today s.sinks place
  | some reason =>
      rw [run_of_stopped hstopped]
      simp

theorem sinks_and_day_of_succeeds (h : (s.run j).1.isOk = true) :
    (s.run j).2.sinks = some s.sinks ∧ (s.run j).2.day = s.environment.today := by
  obtain ⟨hstopped, hnone⟩ := isOk_run_iff.1 h
  rw [run_of_not_stopped hstopped, hnone]
  exact ⟨rfl, rfl⟩

/-- An attempt that fails leaves the log as it is. -/
theorem sinks_and_day_of_fails (h : (s.run j).1.isOk = false) :
    (s.run j).2.sinks = j.sinks ∧ (s.run j).2.day = j.day := by
  cases hstopped : s.stopped? with
  | some reason =>
      rw [run_of_stopped hstopped]
      exact ⟨rfl, rfl⟩
  | none =>
      obtain ⟨sinks, hsinks⟩ : ∃ sinks, j.sinks = some sinks := by
        rw [isOk_run, hstopped, Option.isNone_none, Bool.true_and] at h
        exact Option.isSome_iff_exists.1 (Option.isNone_eq_false_iff.1 h)
      rw [run_of_not_stopped hstopped, hsinks]
      exact ⟨rfl, rfl⟩

/-- The lines that a file has are not lost by an attempt. -/
theorem lines?_run_of_eq_some {place : Path.Place} {lines : List Line}
    (h : j.disk.lines? place = some lines) : (s.run j).2.disk.lines? place = some lines := by
  rw [lines?_run, h, Option.getD_some, ite_self]

theorem haveOneFile (s : Setup) : HaveOneFile s.sinks := by
  have hconsole : ∀ env layout level, HaveOneFile (Journal.consoleSinks env layout level) := by
    intro env layout level
    unfold Journal.consoleSinks HaveOneFile
    cases env.file with
    | none => simp
    | some p => simp
  cases s with
  | standard env => exact hconsole env _ _
  | explicit env level layout => exact hconsole env layout level
  | inHost env level? =>
      intro s hs s' hs' f hf f' hf'
      rw [List.mem_singleton.1 hs] at hf
      rw [List.mem_singleton.1 hs'] at hf'
      exact Option.some.inj (hf.symm.trans hf')

end Setup

/-! ## A run of attempts -/

inductive Act
  | setUp (s : Setup)
  | log (stamp : Stamp) (e : Event)

namespace Journal

def next (j : Journal) : Act → Journal
  | .setUp s => (s.run j).2
  | .log stamp e => j.record stamp e

def after (j : Journal) (acts : List Act) : Journal :=
  acts.foldl next j

/-- What the attempts come to, earliest first. -/
def results (j : Journal) : List Act → List (Except SetupError (Option Path))
  | [] => []
  | .setUp s :: rest => (s.run j).1 :: (j.next (.setUp s)).results rest
  | .log stamp e :: rest => (j.next (.log stamp e)).results rest

variable {j j' : Journal} {place : Path.Place}

/-! ### What takes effect -/

theorem sinks_next_of_eq_some {sinks : List Sink} (h : j.sinks = some sinks) (act : Act) :
    (j.next act).sinks = some sinks := by
  cases act with
  | setUp s => rw [next, Setup.sinks_run, h, Option.getD_some, ite_self]
  | log stamp e => rw [next, sinks_record, h]

/-- A journal stands as another one does, but for empty files. -/
structure Alike (j j' : Journal) : Prop where
  sinks : j.sinks = j'.sinks
  day : j.day = j'.day
  console : j.console = j'.console
  files : ∀ place, j.disk.lines? place = j'.disk.lines? place ∨
    j.disk.lines? place = some [] ∧ j'.disk.lines? place = none

theorem Alike.refl (j : Journal) : j.Alike j :=
  ⟨rfl, rfl, rfl, fun _ => .inl rfl⟩

/-- Where a line goes, an empty file is as good as none. -/
theorem Alike.write (alike : j.Alike j') (day : Day) (s : Sink) (line : Line) :
    (j.write day s line).Alike (j'.write day s line) where
  sinks := by rw [sinks_write, sinks_write, alike.sinks]
  day := by rw [day_write, day_write, alike.day]
  console := by
    rw [Journal.write, Journal.write]
    cases s.file with
    | some f => exact alike.console
    | none => exact congrArg (· ++ [line]) alike.console
  files := by
    intro place
    have hday : (j.write day s line).day = (j'.write day s line).day := by
      rw [day_write, day_write, alike.day]
    rw [lines?_write, lines?_write, hday]
    rcases alike.files place with hsame | ⟨hempty, hnone⟩
    · exact .inl (by rw [hsame])
    · rw [hempty, hnone]
      split
      · exact .inl rfl
      · exact .inr ⟨rfl, rfl⟩

theorem Alike.record (alike : j.Alike j') (stamp : Stamp) (e : Event) :
    (j.record stamp e).Alike (j'.record stamp e) := by
  rw [Journal.record, Journal.record, alike.sinks]
  generalize (j'.sinks.getD []).filter (·.filter.allows e) = allowed
  induction allowed generalizing j j' with
  | nil => exact alike
  | cons s rest ih => exact ih (alike.write stamp.day s _)

/-- The file of the log is there. -/
structure HasFile (j : Journal) : Prop where
  one : HaveOneFile (j.sinks.getD [])
  opened : ∀ place ∈ filesOf j.day (j.sinks.getD []), (j.disk.lines? place).isSome

/-- A line for a later day opens the file of this day. -/
theorem HasFile.write (h : j.HasFile) {s : Sink} (hs : s ∈ j.sinks.getD []) (day : Day)
    (line : Line) : (j.write day s line).HasFile where
  one := by
    rw [sinks_write]
    exact h.one
  opened := by
    intro place hplace
    rw [sinks_write] at hplace
    rw [lines?_write]
    split
    · rfl
    · next hother =>
        apply h.opened
        obtain ⟨s', hs', f', hf', rfl⟩ := mem_filesOf.1 hplace
        rw [day_write] at hother ⊢
        cases hfile : s.file with
        | none => exact mem_filesOf.2 ⟨s', hs', f', hf', rfl⟩
        | some f =>
            refine absurd (mem_filesOf.2 ⟨s, List.mem_singleton_self s, f, hfile, ?_⟩) hother
            rw [h.one s hs s' hs' f hfile f' hf']

theorem HasFile.record (h : j.HasFile) (stamp : Stamp) (e : Event) :
    (j.record stamp e).HasFile := by
  apply record_induction (P := HasFile) stamp e h
  intro s hs line j' hsinks hj'
  rw [← hsinks] at hs
  exact hj'.write hs stamp.day line

theorem HasFile.next (h : j.HasFile) (act : Act) : (j.next act).HasFile := by
  cases act with
  | log stamp e => exact h.record stamp e
  | setUp s =>
      cases hok : (s.run j).1.isOk with
      | true =>
          obtain ⟨hsinks, hday⟩ := Setup.sinks_and_day_of_succeeds hok
          constructor
          · rw [Journal.next, hsinks]
            exact s.haveOneFile
          · intro place hplace
            rw [Journal.next, hsinks, hday, Option.getD_some] at hplace
            rw [Journal.next, Setup.lines?_run, if_pos ⟨(Setup.isOk_run_iff.1 hok).1, hplace⟩]
            rfl
      | false =>
          obtain ⟨hsinks, hday⟩ := Setup.sinks_and_day_of_fails hok
          constructor
          · rw [Journal.next, hsinks]
            exact h.one
          · intro place hplace
            rw [Journal.next, hsinks, hday] at hplace
            obtain ⟨lines, hlines⟩ := Option.isSome_iff_exists.1 (h.opened place hplace)
            rw [Journal.next, Setup.lines?_run_of_eq_some hlines]
            rfl

theorem HasFile.after (h : j.HasFile) (acts : List Act) : (j.after acts).HasFile := by
  induction acts generalizing j with
  | nil => exact h
  | cons act rest ih => exact ih (h.next act)

/-! ### Files of attempts that come too late -/

/-- There is an empty file at a place, and the log does not write to it. -/
structure HasIdle (j : Journal) (place : Path.Place) : Prop where
  empty : j.disk.lines? place = some []
  notOpen : place ∉ filesOf j.day (j.sinks.getD [])

/-- Only a line of a later day can be the first one. -/
theorem HasIdle.write (h : j.HasIdle place) {s : Sink} (hs : s ∈ j.sinks.getD []) {day : Day}
    (hday : place ∉ filesOf day (j.sinks.getD [])) (line : Line) :
    (j.write day s line).HasIdle place := by
  have hnotOpen : place ∉ filesOf (j.write day s line).day (j.sinks.getD []) := by
    rw [day_write]
    split
    · rcases j.day.latest_eq_or day with hsame | hlater
      · rw [hsame]
        exact h.notOpen
      · rwa [hlater]
    · exact h.notOpen
  constructor
  · rw [lines?_write, if_neg, h.empty]
    intro hplace
    obtain ⟨s', hs', hf⟩ := mem_filesOf.1 hplace
    rw [List.mem_singleton.1 hs'] at hf
    exact hnotOpen (mem_filesOf.2 ⟨s, hs, hf⟩)
  · rwa [sinks_write]

theorem HasIdle.record (h : j.HasIdle place) {stamp : Stamp}
    (hday : place ∉ filesOf stamp.day (j.sinks.getD [])) (e : Event) :
    (j.record stamp e).HasIdle place := by
  apply record_induction (P := (HasIdle · place)) stamp e h
  intro s hs line j' hsinks hj'
  rw [← hsinks] at hs hday
  exact hj'.write hs hday line

theorem HasIdle.after {sinks : List Sink} (h : j.HasIdle place) (hsinks : j.sinks = some sinks)
    (later : List Act) :
    (j.after later).disk.lines? place = some [] ∨
      ∃ stamp e, .log stamp e ∈ later ∧ place ∈ filesOf stamp.day sinks := by
  induction later generalizing j with
  | nil => exact .inl h.empty
  | cons act rest ih =>
      have hkept := sinks_next_of_eq_some hsinks act
      suffices (j.next act).HasIdle place ∨
          ∃ stamp e, act = .log stamp e ∧ place ∈ filesOf stamp.day sinks by
        rcases this with hnext | ⟨stamp, e, rfl, hplace⟩
        · rcases ih hnext hkept with hempty | ⟨stamp, e, hmem, hplace⟩
          · exact .inl hempty
          · exact .inr ⟨stamp, e, List.mem_cons_of_mem _ hmem, hplace⟩
        · exact .inr ⟨stamp, e, List.mem_cons_self, hplace⟩
      cases act with
      | log stamp e =>
          by_cases hplace : place ∈ filesOf stamp.day sinks
          · exact .inr ⟨stamp, e, rfl, hplace⟩
          · exact .inl (h.record (by rwa [hsinks]) e)
      | setUp s =>
          have hfails : (s.run j).1.isOk = false := by
            rw [Setup.isOk_run, hsinks, Option.isNone_some, Bool.and_false]
          obtain ⟨hsame, hday⟩ := Setup.sinks_and_day_of_fails hfails
          refine .inl ⟨Setup.lines?_run_of_eq_some h.empty, ?_⟩
          rw [next, hsame, hday]
          exact h.notOpen

def environmentWith (file : Path) : Environment where
  file := some file
  home := some ⟨"/home/me"⟩
  temporary := ⟨"/tmp"⟩
  place := ["work"]
  today := ⟨19849⟩

end Journal

end ObjectView.Log
