import Mathlib.Data.Option.Basic
import ObjectView.Proofs.Log.FilePlace
import ObjectView.Proofs.Words

/-!
# A word for a level in place of a filter

A program of its own is given a filter by its environment.  If that is a word for a level, it is
taken as the level of the program, but it is read as a filter too, and then this alone decides.  To
a filter, the name of a level is a limit for all targets, and so both come to the same.  The other
words for levels are targets to it.  Such a filter lets every event of a target through that begins
with the word, and no other event, however important it is.
-/

namespace ObjectView.Log

variable {s : String} {level : Level}

/-! ## Reading a word as a filter -/

namespace Level

theorem isAlphanum_of_mem_words {c : Char} (h : s.toLower ∈ level.words) (hc : c ∈ s.toList) :
    c.isAlphanum = true :=
  Level.reads.vocabulary.isAlphanum_of_mem h hc

theorem isDigit_of_mem_words {c : Char} (h : s.toLower ∈ level.words) (hc : c ∈ s.toList) :
    c.isDigit = false := by
  have hletters : ∀ word ∈ level.words, word.toList.any Char.isDigit = false := by
    cases level <;> decide +kernel
  have hmem : c.toLower ∈ s.toLower.toList := by
    rw [Text.toList_toLower]
    exact List.mem_map_of_mem hc
  by_contra hdigit
  have hlower := Text.isDigit_toLower (Bool.of_not_eq_false hdigit)
  exact List.any_eq_false.1 (hletters _ h) _ hmem hlower

theorem ne_nil_of_mem_words (h : s.toLower ∈ level.words) : s.toList ≠ [] := by
  have hwords : "".toLower ∉ level.words := by cases level <;> decide +kernel
  intro hnil
  obtain rfl : s = "" := String.toList_inj.1 hnil
  exact hwords h

end Level

namespace Limit

theorem ofNumber?_eq_none {word : List Char} (hne : word ≠ [])
    (hword : ∀ c ∈ word, c.isDigit = false) (hplus : '+' ∉ word) : ofNumber? word = none := by
  obtain ⟨first, rest, rfl⟩ := List.exists_cons_of_ne_nil hne
  have hfirst := hword first List.mem_cons_self
  have hsign : first ≠ '+' := by
    rintro rfl
    exact hplus List.mem_cons_self
  simp [ofNumber?, hsign, hfirst]

/-- Of the words for a level, its name is the only one that is also a limit. -/
theorem ofWord?_of_mem_words (h : s.toLower ∈ level.words) :
    ofWord? s.toList = if s.toLower = level.name.toLower then some (upTo level) else none := by
  have hnumber : ofNumber? s.toList = none := by
    apply ofNumber?_eq_none (Level.ne_nil_of_mem_words h)
    · intro c hc
      exact Level.isDigit_of_mem_words h hc
    · intro hplus
      cases Level.isAlphanum_of_mem_words h hplus
  have hupper : s.toList.map Char.toUpper = s.toLower.toList.map Char.toUpper := by
    rw [Text.toList_toLower, List.map_map]
    exact List.map_congr_left fun c _ => (Text.toUpper_toLower c).symm
  have hlimits : ∀ word ∈ level.words,
      (all.find? fun l => l.name.toList = word.toList.map Char.toUpper) =
        if word = level.name.toLower then some (upTo level) else none := by
    cases level <;> decide +kernel
  rw [ofWord?, hnumber, hupper]
  exact hlimits _ h

end Limit

namespace Directive

theorem parse?_of_isAlphanum {s : List Char} (hne : s ≠ [])
    (h : ∀ c ∈ s, c.isAlphanum = true) : parse? s = some (ofWord s) := by
  obtain ⟨first, rest, rfl⟩ := List.exists_cons_of_ne_nil hne
  have hbare : Text.trimmed (first :: rest) = first :: rest :=
    Text.trimmed_eq_self fun c hc => Text.isBlank_of_isAlphanum (h c hc)
  have hstart : isStart first = true := by
    simp [isStart, Text.isAlphanumeric_of_isAlphanum (h first List.mem_cons_self)]
  have hfirst : first ≠ '[' := by
    rintro rfl
    cases h '[' List.mem_cons_self
  have hmarks : ∀ c ∈ first :: rest, decide (c ∈ ['=', '[']) = false := by
    intro c hc
    have hword := h c hc
    simp only [List.mem_cons, List.not_mem_nil, or_false, decide_eq_false_iff_not]
    rintro (rfl | rfl) <;> cases hword
  have hstop : (first :: rest)[seek (first :: rest) ['=', '['] 0]? = none := by
    rw [seek, List.drop_zero, Nat.zero_add, List.findIdx_eq_length.2 hmarks,
      List.getElem?_eq_none (Nat.le_refl _)]
  simp [parse?, hbare, hstart, hfirst, hstop]

end Directive

namespace Filter

theorem allows_singleton (d : Directive) (e : Event) :
    (Filter.mk [d]).allows e = (d.applies e && d.limit.allows e.level) := by
  cases happlies : d.applies e <;> simp [allows, deciding?, happlies, Directive.prefer]

theorem allows_upTo (level : Level) (e : Event) :
    (upTo level).allows e = decide (e.level.rank ≤ level.rank) := by
  rw [upTo, allows_singleton]
  simp [Directive.applies, Scope.includes, Limit.allows, Limit.upTo]

/-- The filter that lets all events of some targets through. -/
def ofTarget (target : List Char) : Filter :=
  ⟨[⟨target, .all, .upTo .trace⟩]⟩

theorem allows_ofTarget (target : List Char) (e : Event) :
    (ofTarget target).allows e = target.isPrefixOf e.target.toList := by
  have hall : (Limit.upTo .trace).allows e.level = true := by
    cases e.level <;> decide
  rw [ofTarget, allows_singleton, hall]
  simp [Directive.applies, Scope.includes]

theorem parse?_of_mem_words (h : s.toLower ∈ level.words) :
    parse? s = some (if s.toLower = level.name.toLower then upTo level else ofTarget s.toList) := by
  have hcomma : ',' ∉ s.toList := by
    intro hmem
    cases Level.isAlphanum_of_mem_words h hmem
  have hdirective := Directive.parse?_of_isAlphanum (Level.ne_nil_of_mem_words h)
    fun c => Level.isAlphanum_of_mem_words h
  rw [Directive.ofWord, Limit.ofWord?_of_mem_words h] at hdirective
  have hpieces : (Text.split ',' s.toList).filter (· ≠ []) = [s.toList] := by
    rw [Text.split_of_notMem hcomma]
    simpa using Level.ne_nil_of_mem_words h
  rw [parse?, hpieces, List.mapM_cons, hdirective]
  by_cases hname : s.toLower = level.name.toLower
  · rw [if_pos hname, if_pos hname]
    rfl
  · rw [if_neg hname, if_neg hname]
    rfl

end Filter

/-! ## What a log writes -/

namespace Journal

variable {j : Journal} {env : Environment} {sinks : List Sink} {p : Event → Bool}

/-- Logs events, earliest first. -/
def log (j : Journal) (events : List (Stamp × Event)) : Journal :=
  events.foldl (fun j (stamp, e) => j.record stamp e) j

/-- Writes the lines of an event to all sinks, whatever their filters are. -/
def spread (j : Journal) (stamp : Stamp) (e : Event) : Journal :=
  (j.sinks.getD []).foldl (fun j s => j.write stamp.day s (e.line s.form stamp)) j

/-- The log writes the lines of the events of a kind to all of its sinks, and no other lines. -/
def WritesExactly (j : Journal) (p : Event → Bool) : Prop :=
  ∀ events, j.log events =
    (events.filter fun (_, e) => p e).foldl (fun j (stamp, e) => j.spread stamp e) j

theorem record_of_allows {e : Event} (hsinks : j.sinks = some sinks)
    (hallows : ∀ s ∈ sinks, s.filter.allows e = p e) (stamp : Stamp) :
    j.record stamp e = if p e then j.spread stamp e else j := by
  rw [record, spread, hsinks, Option.getD_some]
  cases hp : p e with
  | true =>
      have hall : sinks.filter (·.filter.allows e) = sinks :=
        List.filter_eq_self.2 fun s hs => (hallows s hs).trans hp
      rw [hall, if_pos rfl]
  | false =>
      have hnone : sinks.filter (·.filter.allows e) = [] :=
        List.filter_eq_nil_iff.2 fun s hs => by simp [hallows s hs, hp]
      rw [hnone, if_neg Bool.false_ne_true, List.foldl_nil]

theorem writesExactly_of_allows (hsinks : j.sinks = some sinks)
    (hallows : ∀ s ∈ sinks, ∀ e, s.filter.allows e = p e) : j.WritesExactly p := by
  intro events
  induction events generalizing j with
  | nil => rfl
  | cons event rest ih =>
      obtain ⟨stamp, e⟩ := event
      have hkept : (j.record stamp e).sinks = some sinks := (j.sinks_record stamp e).trans hsinks
      have hrecord := record_of_allows hsinks (fun s hs => hallows s hs e) stamp
      rw [log, List.foldl_cons]
      refine (ih hkept).trans ?_
      rw [hrecord]
      cases hp : p e <;> simp [hp]

theorem WritesExactly.log_singleton (h : j.WritesExactly p) (stamp : Stamp) (e : Event) :
    j.log [(stamp, e)] = if p e then j.spread stamp e else j := by
  rw [h]
  cases hp : p e <;> simp [hp]

theorem filter_of_mem_consoleSinks {layout : Layout} {s : Sink}
    (hs : s ∈ consoleSinks env layout level) : s.filter = env.filterOr level := by
  simp only [consoleSinks, List.mem_cons, List.mem_map] at hs
  rcases hs with rfl | ⟨path, -, rfl⟩ <;> rfl

theorem console_foldl_write (j : Journal) (sinks : List Sink) (stamp : Stamp) (e : Event) :
    (sinks.foldl (fun j s => j.write stamp.day s (e.line s.form stamp)) j).console =
      j.console ++ (sinks.filter (·.file = none)).map fun s => e.line s.form stamp := by
  induction sinks generalizing j with
  | nil => simp
  | cons s rest ih =>
      rw [List.foldl_cons, ih]
      cases hfile : s.file <;> simp [write, hfile]

/-! ## The two ways to say a level -/

theorem sinks_setUpWith (hnone : j.sinks = none) (env : Environment) (level : Level)
    (layout : Layout) :
    (j.setUpWith env level layout).2.sinks = some (consoleSinks env layout level) :=
  (install_of_none hnone _ _).2.1

theorem setUpWith_writesExactly (hnone : j.sinks = none) (layout : Layout)
    (hallows : ∀ e, (env.filterOr level).allows e = p e) :
    (j.setUpWith env level layout).2.WritesExactly p := by
  apply writesExactly_of_allows (sinks_setUpWith hnone env level layout)
  intro s hs e
  rw [filter_of_mem_consoleSinks hs, hallows]

theorem console_setUpWith (j : Journal) (env : Environment) (level : Level) (layout : Layout) :
    (j.setUpWith env level layout).2.console = j.console := by
  rw [setUpWith, Setup.install_eq]
  rfl

/-- A program logs every event that it lets through on its console. -/
theorem console_spread_ne (hnone : j.sinks = none) (layout : Layout) (stamp : Stamp) (e : Event) :
    ((j.setUpWith env level layout).2.spread stamp e).console ≠ j.console := by
  rw [spread, sinks_setUpWith hnone, Option.getD_some, console_foldl_write, console_setUpWith]
  simp [consoleSinks]

theorem level_writesExactly (hnone : j.sinks = none) (env : Environment) (level : Level)
    (layout : Layout) :
    (j.setUpWith { env with filter := none } level layout).2.WritesExactly
      fun e => e.level.rank ≤ level.rank :=
  setUpWith_writesExactly hnone layout (Filter.allows_upTo level)

theorem filterOr_of_mem_words (hmem : s.toLower ∈ level.words) (env : Environment) (last : Level) :
    Environment.filterOr { env with filter := some s } last =
      if s.toLower = level.name.toLower then .upTo level else .ofTarget s.toList := by
  rw [Environment.filterOr, Option.bind_some, Filter.parse?_of_mem_words hmem, Option.getD_some]

theorem word_writesExactly (hnone : j.sinks = none) (hmem : s.toLower ∈ level.words)
    (env : Environment) :
    (j.setUp { env with filter := some s }).2.WritesExactly fun e =>
      if s.toLower = level.name.toLower then e.level.rank ≤ level.rank
      else s.toList.isPrefixOf e.target.toList := by
  apply setUpWith_writesExactly hnone
  intro e
  rw [filterOr_of_mem_words hmem]
  split
  · exact Filter.allows_upTo level e
  · exact Filter.allows_ofTarget s.toList e

theorem setUp_eq_of_filterOr (j : Journal) {env : Environment}
    (h : Environment.filterOr { env with filter := some s }
        (Environment.levelOrInfo { env with filter := some s }) = .upTo level) :
    j.setUp { env with filter := some s } =
      j.setUpWith { env with filter := none } level env.layoutOrPretty := by
  have hnone : Environment.filterOr { env with filter := none } level = .upTo level := rfl
  unfold setUp setUpWith consoleSinks
  rw [h, hnone]
  rfl

/-- Set up at a level, a log writes exactly the events up to this level.  Set up with a word for the
level in place of a filter, it does so only if the word is the name of the level.  With any other
word for it, the events are those of the targets that begin with the word as it was written. -/
theorem word_filter_is_level_iff {j : Journal} (env : Environment) {s : String} {level : Level}
    (hword : Level.ofWord s = .ok level) (hnone : j.sinks = none) :
    let explicit := j.setUpWith { env with filter := none } level env.layoutOrPretty
    let byFilter := j.setUp { env with filter := some s }
    explicit.1 = .ok () ∧ byFilter.1 = .ok () ∧
      explicit.2.WritesExactly (fun e => e.level.rank ≤ level.rank) ∧
      byFilter.2.WritesExactly (fun e =>
        if s.toLower = level.name.toLower then e.level.rank ≤ level.rank
        else s.toList.isPrefixOf e.target.toList) ∧
      ((∀ events, (byFilter.2.log events).console = (explicit.2.log events).console ∧
          (byFilter.2.log events).disk = (explicit.2.log events).disk) ↔
        s.toLower = level.name.toLower) := by
  intro explicit byFilter
  have hmem : s.toLower ∈ level.words := Level.reads.eq_ok_iff.1 hword
  have hexplicit : explicit.2.WritesExactly _ := level_writesExactly hnone env level _
  have hbyFilter : byFilter.2.WritesExactly _ := word_writesExactly hnone hmem env
  refine ⟨(install_of_none hnone _ _).1, (install_of_none hnone _ _).1, hexplicit, hbyFilter,
    fun hsame => ?_, fun hname events => ?_⟩
  · -- An error is up to every level, but the empty target does not begin with a word.
    by_contra hname
    let stamp : Stamp := ⟨⟨0⟩, "", "", "", "", 0⟩
    let e : Event := ⟨.error, "", "", []⟩
    have hprefix : s.toList.isPrefixOf e.target.toList = false := by
      obtain ⟨c, rest, hs⟩ := List.exists_cons_of_ne_nil (Level.ne_nil_of_mem_words hmem)
      rw [hs]
      rfl
    have hrank : e.level.rank ≤ level.rank := by
      cases level <;> decide
    have hdropped : byFilter.2.log [(stamp, e)] = byFilter.2 := by
      rw [hbyFilter.log_singleton]
      simp [hname, hprefix]
    have hwritten : explicit.2.log [(stamp, e)] = explicit.2.spread stamp e := by
      rw [hexplicit.log_singleton]
      simp [hrank]
    apply console_spread_ne hnone env.layoutOrPretty stamp e
    rw [← hwritten, ← (hsame _).1, hdropped]
    exact console_setUpWith j _ _ _
  · have hequal : byFilter = explicit :=
      setUp_eq_of_filterOr j (by rw [filterOr_of_mem_words hmem, if_pos hname])
    rw [hequal]
    exact ⟨rfl, rfl⟩

/-- The name of the level is the limit in any case, and the short word for it is not. -/
theorem word_filter_is_level_iff_error :
    let env := environmentWith ⟨"/tmp/a.log"⟩
    let explicit := (setUpWith {} { env with filter := none } .error env.layoutOrPretty).2
    let named := (setUp {} { env with filter := some "eRRor" }).2
    let short := (setUp {} { env with filter := some "ERR" }).2
    (∀ events, (named.log events).console = (explicit.log events).console ∧
        (named.log events).disk = (explicit.log events).disk) ∧
      short.WritesExactly (fun e => "ERR".toList.isPrefixOf e.target.toList) ∧
      ¬ ∀ events, (short.log events).console = (explicit.log events).console ∧
        (short.log events).disk = (explicit.log events).disk := by
  intro env explicit named short
  have hname : Level.ofWord "eRRor" = .ok .error := by decide +kernel
  have hlower : "eRRor".toLower = "error" := by decide +kernel
  have hown : Level.error.name.toLower = "error" := by decide +kernel
  have hshort : Level.ofWord "ERR" = .ok .error := by decide +kernel
  have hother : "ERR".toLower ≠ Level.error.name.toLower := by decide +kernel
  have hempty : ({} : Journal).sinks = none := rfl
  obtain ⟨-, -, -, -, hnamed⟩ := word_filter_is_level_iff env hname hempty
  obtain ⟨-, -, -, hexactly, hshorter⟩ := word_filter_is_level_iff env hshort hempty
  simp only [if_neg hother] at hexactly
  exact ⟨hnamed.2 (hlower.trans hown.symm), hexactly, hshorter.not.2 hother⟩

/-- The report of an error is lost with the short word for its level. -/
theorem error_lost_with_short_word :
    let env := environmentWith ⟨"/tmp/a.log"⟩
    let stamp : Stamp := ⟨⟨19849⟩, "2024-05-06T00:00:00Z", "diagnostics.rs", "1", "main", 1⟩
    let e : Event := ⟨.error, Target.diagnostics, "not readable", []⟩
    Level.ofWord "err" = .ok .error ∧
      ((setUpWith {} { env with filter := none } .error .pretty).2.log [(stamp, e)]).console ≠ [] ∧
      ((setUp {} { env with filter := some "err" }).2.log [(stamp, e)]).console = [] := by
  intro env stamp e
  have hword : Level.ofWord "err" = .ok .error := by decide +kernel
  have hempty : ({} : Journal).sinks = none := rfl
  have hexplicit := level_writesExactly hempty env .error .pretty
  have hbyFilter := word_writesExactly hempty (Level.reads.eq_ok_iff.1 hword) env
  refine ⟨hword, ?_, ?_⟩
  · rw [hexplicit.log_singleton, if_pos (by decide)]
    exact console_spread_ne hempty .pretty stamp e
  · have hdropped : "err".toList.isPrefixOf e.target.toList = false := by decide +kernel
    have hother : "err".toLower ≠ Level.error.name.toLower := by decide +kernel
    rw [hbyFilter.log_singleton]
    simp only [hdropped, if_neg hother]
    rfl

end Journal

end ObjectView.Log
