import ObjectView.Visualizer
import ObjectView.Proofs.Conversation

/-!
# The stages of a request

Each stage is described by what can be said at it, with the events it logs: either it is passed, or
the request ends there.
-/

namespace ObjectView

/-- What was said to a host, latest first. -/
abbrev Hosted.Said := List (Dialogue.Exchange Call Call.Answer)

/-- The surroundings of a visualizer: every answer may depend on all that was said before. -/
abbrev Behaviour := Hosted.Said → (c : Call) → c.Answer

namespace Visualizer

open Hosted Dialogue

/-- A question to the host with its answer. -/
abbrev Spoken := Exchange Call Call.Answer

/-- An event that the visualizer logs. -/
def noted (level : Log.Level) (message : String) : Spoken :=
  ⟨.log ⟨level, Log.Target.visualizer, message, []⟩, ()⟩

/-- A report, which goes to the log if nobody else takes it. -/
def reported (vis : Visualizer) (message : String) : Spoken :=
  if vis.hasDiagnostics then ⟨.report message, ()⟩
  else ⟨.log ⟨.error, Log.Target.diagnostics, message, []⟩, ()⟩

/-- The event for a type name. -/
def resolved (name : Option String) : Spoken :=
  ⟨.log ⟨.trace, Log.Target.symbols, "resolved native type name",
    [("type_name", Text.optional (name.map Text.quoted))]⟩, ()⟩

/-- A question to a memory as one to the host, for the memory of a process. -/
def inProcess (p : Debuggee) (x : Exchange Memory.Request Memory.Request.Answer) : Spoken :=
  ⟨.readMemory p x.1, x.2⟩

/-- The message of a report, whether it goes to whoever takes reports or to the log. -/
def reportOf? : Call → Option String
  | .report message => some message
  | .log event => if event.target = Log.Target.diagnostics then some event.message else none
  | _ => none

theorem reportOf?_log (event : Log.Event) : reportOf? (.log event) =
    if event.target = Log.Target.diagnostics then some event.message else none := rfl

theorem reportOf?_noted (level : Log.Level) (message : String) :
    reportOf? (noted level message).1 = none := by
  rw [noted, reportOf?_log]
  have hne : ¬ Log.Target.visualizer = Log.Target.diagnostics := by decide
  exact if_neg hne

theorem reportOf?_resolved (name : Option String) : reportOf? (resolved name).1 = none := by
  rw [resolved, reportOf?_log]
  have hne : ¬ Log.Target.symbols = Log.Target.diagnostics := by decide
  exact if_neg hne

theorem reportOf?_reported (vis : Visualizer) (message : String) :
    reportOf? (vis.reported message).1 = some message := by
  rw [reported]
  split
  · rfl
  · rw [reportOf?_log]
    exact if_pos rfl

/-- The request to show an object. -/
def resultRequest (v : Value) (object : Object) (context : Context) (typeName : Option String)
    (native : NativeEvaluator) : ResultRequest where
  context
  frame := v.frame
  parent := none
  view := .ofObject object
  nativeEvaluator := native
  typeName
  hasNativeView := true

variable {vis : Visualizer} {v : Value} {said : List Spoken}

/-! ## What is said one after the other -/

section Optional

variable {α β : Type}

theorem runs_call_iff {c : Call} {given : c.Answer} :
    Runs (call c) said given ↔ said = [⟨c, given⟩] :=
  runs_put_iff

theorem runs_run_pure_iff {a : α} {found : Option α} :
    Runs (pure a : OptionT Hosted α).run said found ↔ said = [] ∧ found = some a :=
  runs_done_iff

theorem runs_run_failure_iff {found : Option α} :
    Runs (failure : OptionT Hosted α).run said found ↔ said = [] ∧ found = none :=
  runs_done_iff

/-- A request ends with the first stage that is not passed, and goes on behind any other. -/
theorem runs_stage_bind_iff {d : OptionT Hosted α} {Stopped : List Spoken → Prop}
    {Passed : α → List Spoken → Prop} {f : α → OptionT Hosted β} {found : Option β}
    (stage : ∀ said found, Runs d.run said found ↔
      (Stopped said ∧ found = none) ∨ ∃ a, Passed a said ∧ found = some a) :
    Runs (d >>= f).run said found ↔
      (Stopped said ∧ found = none) ∨
        ∃ a first last, said = first ++ last ∧ Passed a first ∧ Runs (f a).run last found := by
  rw [OptionT.run_bind, Option.elimM, runs_bind_iff]
  constructor
  · rintro ⟨passed, first, last, rfl, hfirst, hlast⟩
    obtain ⟨hstopped, rfl⟩ | ⟨a, hpassed, rfl⟩ := (stage _ _).1 hfirst
    · obtain ⟨rfl, rfl⟩ := runs_done_iff.1 hlast
      exact .inl ⟨by rwa [List.append_nil], rfl⟩
    · exact .inr ⟨a, first, last, rfl, hpassed, hlast⟩
  · rintro (⟨hstopped, rfl⟩ | ⟨a, first, last, rfl, hpassed, hlast⟩)
    · have hfirst : Runs d.run said none := (stage _ _).2 (.inl ⟨hstopped, rfl⟩)
      exact ⟨none, said, [], (List.append_nil said).symm, hfirst, .done none⟩
    · have hfirst : Runs d.run first (some a) := (stage _ _).2 (.inr ⟨a, hpassed, rfl⟩)
      exact ⟨some a, first, last, rfl, hfirst, hlast⟩

theorem run_lift_bind (d : Hosted α) (f : α → OptionT Hosted β) :
    (OptionT.lift d >>= f).run = d >>= fun a => (f a).run := by
  rw [OptionT.run_bind, Option.elimM, OptionT.run_lift, bind_assoc]
  rfl

theorem runs_lift_bind_iff {d : Hosted α} {f : α → OptionT Hosted β} {found : Option β} :
    Runs (OptionT.lift d >>= f).run said found ↔
      ∃ a first last, said = first ++ last ∧ Runs d first a ∧ Runs (f a).run last found := by
  rw [run_lift_bind, runs_bind_iff]

theorem runs_call_bind_iff {c : Call} {f : c.Answer → OptionT Hosted β} {found : Option β} :
    Runs (OptionT.lift (call c) >>= f).run said found ↔
      ∃ given rest, said = ⟨c, given⟩ :: rest ∧ Runs (f given).run rest found := by
  rw [runs_lift_bind_iff]
  constructor
  · rintro ⟨given, first, last, rfl, hfirst, hlast⟩
    obtain rfl := runs_call_iff.1 hfirst
    exact ⟨given, last, rfl, hlast⟩
  · rintro ⟨given, rest, rfl, hrest⟩
    exact ⟨given, [⟨c, given⟩], rest, rfl, runs_call_iff.2 rfl, hrest⟩

/-- A stage that says one thing and is not passed. -/
theorem runs_failure_iff {d : Hosted Unit} {x : Spoken} {found : Option β}
    (h : ∀ said, Runs d said () ↔ said = [x]) :
    Runs (OptionT.lift d >>= fun _ => (failure : OptionT Hosted β)).run said found ↔
      said = [x] ∧ found = none := by
  rw [runs_lift_bind_iff]
  constructor
  · rintro ⟨_, first, last, rfl, hfirst, hlast⟩
    obtain ⟨rfl, rfl⟩ := runs_run_failure_iff.1 hlast
    exact ⟨by rw [(h first).1 hfirst, List.append_nil], rfl⟩
  · rintro ⟨rfl, rfl⟩
    exact ⟨(), [x], [], rfl, (h _).2 rfl, runs_run_failure_iff.2 ⟨rfl, rfl⟩⟩

theorem runs_log_iff {level : Log.Level} {message : String} (said : List Spoken) :
    Runs (log level Log.Target.visualizer message) said () ↔ said = [noted level message] :=
  runs_put_iff

theorem runs_report_iff {message : String} (said : List Spoken) :
    Runs (vis.report message) said () ↔ said = [vis.reported message] := by
  rw [report, reported]
  split
  · exact runs_put_iff
  · exact runs_put_iff

end Optional

/-! ## The stages -/

theorem runs_gate_iff {found : Option Runtime} :
    Runs (gate v).run said found ↔
      (said = [⟨.runtime v.process.id, none⟩,
          noted .trace s!"no Python runtime in process {v.process.id}"] ∧ found = none) ∨
        ∃ runtime, said = [⟨.runtime v.process.id, some runtime⟩] ∧ found = some runtime := by
  rw [gate, runs_call_bind_iff]
  constructor
  · rintro ⟨_ | runtime, rest, rfl, hrest⟩
    · obtain ⟨rfl, rfl⟩ := (runs_failure_iff runs_log_iff).1 hrest
      exact .inl ⟨rfl, rfl⟩
    · obtain ⟨rfl, rfl⟩ := runs_run_pure_iff.1 hrest
      exact .inr ⟨runtime, rfl, rfl⟩
  · rintro (⟨rfl, rfl⟩ | ⟨runtime, rfl, rfl⟩)
    · exact ⟨none, _, rfl, (runs_failure_iff runs_log_iff).2 ⟨rfl, rfl⟩⟩
    · exact ⟨some runtime, [], rfl, runs_run_pure_iff.2 ⟨rfl, rfl⟩⟩

theorem runs_locate_iff {found : Option Address} :
    Runs (vis.locate v).run said found ↔
      ((v.home = .pointer .null ∧ said = [] ∨
          ∃ kind, v.home = .other kind ∧
            said = [vis.reported s!"expected a pointer value home, got {kind}"]) ∧
        found = none) ∨
        ∃ address, (v.home = .pointer address ∧ address ≠ .null ∧ said = []) ∧
          found = some address := by
  rw [locate]
  cases v.home with
  | other kind =>
      refine (runs_failure_iff runs_report_iff).trans ?_
      constructor
      · rintro ⟨rfl, rfl⟩
        exact .inl ⟨.inr ⟨kind, rfl, rfl⟩, rfl⟩
      · rintro (⟨⟨hhome, -⟩ | ⟨kind', hhome, rfl⟩, rfl⟩ | ⟨address, ⟨hhome, -⟩, -⟩)
        · cases hhome
        · cases hhome
          exact ⟨rfl, rfl⟩
        · cases hhome
  | pointer a =>
      by_cases ha : a = .null
      · subst ha
        have hnull : Address.null.isNull = true := rfl
        simp only [if_pos hnull]
        rw [runs_run_failure_iff]
        constructor
        · rintro ⟨rfl, rfl⟩
          exact .inl ⟨.inl ⟨trivial, rfl⟩, rfl⟩
        · rintro (⟨⟨-, rfl⟩ | ⟨kind, hhome, -⟩, rfl⟩ | ⟨address, ⟨hhome, hne, -⟩, -⟩)
          · exact ⟨rfl, rfl⟩
          · cases hhome
          · exact absurd (Home.pointer.inj hhome).symm hne
      · have hnull : ¬ a.isNull = true := fun h => ha (congrArg Address.mk (of_decide_eq_true h))
        simp only [if_neg hnull]
        rw [runs_run_pure_iff]
        constructor
        · rintro ⟨rfl, rfl⟩
          exact .inr ⟨a, ⟨rfl, ha, rfl⟩, rfl⟩
        · rintro (⟨⟨hhome, -⟩ | ⟨kind, hhome, -⟩, -⟩ | ⟨address, ⟨hhome, -, rfl⟩, rfl⟩)
          · exact absurd (Home.pointer.inj hhome) ha
          · cases hhome
          · exact ⟨rfl, congrArg some (Home.pointer.inj hhome).symm⟩

theorem runs_service_iff {found : Option Evaluator} :
    Runs (vis.service v).run said found ↔
      (said = [⟨.evaluator v.process.id, none⟩, vis.reported
          s!"process {v.process.id} has a Python runtime but no expression evaluator"] ∧
        found = none) ∨
        ∃ evaluator, said = [⟨.evaluator v.process.id, some evaluator⟩] ∧
          found = some evaluator := by
  rw [service, runs_call_bind_iff]
  constructor
  · rintro ⟨_ | evaluator, rest, rfl, hrest⟩
    · obtain ⟨rfl, rfl⟩ := (runs_failure_iff runs_report_iff).1 hrest
      exact .inl ⟨rfl, rfl⟩
    · obtain ⟨rfl, rfl⟩ := runs_run_pure_iff.1 hrest
      exact .inr ⟨evaluator, rfl, rfl⟩
  · rintro (⟨rfl, rfl⟩ | ⟨evaluator, rfl, rfl⟩)
    · exact ⟨none, _, rfl, (runs_failure_iff runs_report_iff).2 ⟨rfl, rfl⟩⟩
    · exact ⟨some evaluator, [], rfl, runs_run_pure_iff.2 ⟨rfl, rfl⟩⟩

/-- Where the type name of a value comes from, and what is said to get it.  A symbol is given back
as soon as it has been asked for its name. -/
inductive Naming (vis : Visualizer) (v : Value) : Option String → List Spoken → Prop
  | given {typeName : String} (origin : v.origin = .child (some typeName)) :
      Naming vis v (some typeName) []
  | absent (origin : v.origin = .child none) : Naming vis v none []
  | unsearched {position : Option LexicalPosition} (origin : v.origin = .root position)
      (symbols : vis.hasSymbols = false) : Naming vis v none []
  | missing {position : Option LexicalPosition} (origin : v.origin = .root position)
      (symbols : vis.hasSymbols = true) : Naming vis v none [⟨.findSymbol v, none⟩]
  | named {position : Option LexicalPosition} {symbol : Symbol} {name : Option String}
      (origin : v.origin = .root position) (symbols : vis.hasSymbols = true) :
      Naming vis v name
        [⟨.findSymbol v, some symbol⟩, ⟨.symbolName symbol, name⟩, ⟨.releaseSymbol symbol, ()⟩]

theorem runs_nameOfSymbol_iff {name : Option String} :
    Runs (nameOfSymbol v) said name ↔
      (said = [⟨.findSymbol v, none⟩] ∧ name = none) ∨
        ∃ symbol, said = [⟨.findSymbol v, some symbol⟩, ⟨.symbolName symbol, name⟩,
          ⟨.releaseSymbol symbol, ()⟩] := by
  rw [nameOfSymbol, runs_bind_iff]
  constructor
  · rintro ⟨_ | symbol, first, last, rfl, hfind, hlast⟩
    · obtain ⟨rfl, rfl⟩ := runs_done_iff.1 hlast
      exact .inl ⟨by rw [runs_call_iff.1 hfind]; rfl, rfl⟩
    · obtain ⟨given, asked, back, rfl, hname, hback⟩ := runs_bind_iff.1 hlast
      obtain ⟨_, released, nothing, rfl, hrelease, hpure⟩ := runs_bind_iff.1 hback
      obtain ⟨rfl, rfl⟩ := runs_done_iff.1 hpure
      exact .inr ⟨symbol, by
        rw [runs_call_iff.1 hfind, runs_call_iff.1 hname, runs_call_iff.1 hrelease]
        rfl⟩
  · rintro (⟨rfl, rfl⟩ | ⟨symbol, rfl⟩)
    · exact ⟨none, _, [], rfl, runs_call_iff.2 rfl, .done none⟩
    · refine ⟨some symbol, [_], _, rfl, runs_call_iff.2 rfl, runs_bind_iff.2 ?_⟩
      refine ⟨name, [_], _, rfl, runs_call_iff.2 rfl, runs_bind_iff.2 ?_⟩
      exact ⟨(), [_], [], rfl, runs_call_iff.2 rfl, .done name⟩

/-- However a type name was found, it is logged. -/
theorem runs_resolved_iff {d : Hosted (Option String)} {name : Option String} :
    Runs (d >>= fun name => do
        log .trace Log.Target.symbols "resolved native type name"
          [("type_name", Text.optional (name.map Text.quoted))]
        return name) said name ↔
      ∃ symbols, Runs d symbols name ∧ said = symbols ++ [resolved name] := by
  rw [runs_bind_iff]
  constructor
  · rintro ⟨found, first, last, rfl, hfirst, hlast⟩
    obtain ⟨_, logged, nothing, rfl, hlogged, hpure⟩ := runs_bind_iff.1 hlast
    obtain ⟨rfl, rfl⟩ := runs_done_iff.1 hpure
    exact ⟨first, hfirst, by rw [runs_call_iff.1 hlogged]; rfl⟩
  · rintro ⟨symbols, hsymbols, rfl⟩
    refine ⟨name, symbols, _, rfl, hsymbols, runs_bind_iff.2 ?_⟩
    exact ⟨(), [_], [], rfl, runs_call_iff.2 rfl, .done name⟩

theorem naming_child_iff {resultType name : Option String}
    (horigin : v.origin = .child resultType) :
    Naming vis v name said ↔ said = [] ∧ name = resultType := by
  constructor
  · rintro (horigin' | horigin' | horigin' | horigin' | horigin')
    all_goals cases horigin.symm.trans horigin'
    · exact ⟨rfl, rfl⟩
    · exact ⟨rfl, rfl⟩
  · rintro ⟨rfl, rfl⟩
    cases name with
    | none => exact .absent horigin
    | some typeName => exact .given horigin

theorem naming_root_iff {position : Option LexicalPosition} {name : Option String}
    (horigin : v.origin = .root position) :
    Naming vis v name said ↔
      if vis.hasSymbols then Runs (nameOfSymbol v) said name else said = [] ∧ name = none := by
  rw [runs_nameOfSymbol_iff]
  constructor
  · rintro (horigin' | horigin' | ⟨-, hsymbols⟩ | ⟨-, hsymbols⟩ | ⟨-, hsymbols⟩)
    · cases horigin.symm.trans horigin'
    · cases horigin.symm.trans horigin'
    · simp [hsymbols]
    · simp [hsymbols]
    · simp [hsymbols]
  · split
    next hsymbols =>
      rintro (⟨rfl, rfl⟩ | ⟨symbol, rfl⟩)
      · exact .missing horigin hsymbols
      · exact .named horigin hsymbols
    next hsymbols =>
      rintro ⟨rfl, rfl⟩
      exact .unsearched horigin (Bool.eq_false_iff.2 hsymbols)

theorem runs_typeName_iff {name : Option String} :
    Runs (Hosted.typeName vis.hasSymbols v) said name ↔
      ∃ symbols, Naming vis v name symbols ∧ said = symbols ++ [resolved name] := by
  rw [Hosted.typeName, TypeNameSource.ofValue]
  cases horigin : v.origin with
  | child resultType =>
      simp only [naming_child_iff horigin]
      cases resultType with
      | none =>
          refine runs_resolved_iff.trans ?_
          exact exists_congr fun symbols => and_congr_left fun _ => runs_done_iff
      | some typeName =>
          refine runs_resolved_iff.trans ?_
          exact exists_congr fun symbols => and_congr_left fun _ => runs_done_iff
  | root position =>
      simp only [naming_root_iff horigin]
      cases vis.hasSymbols with
      | true => exact runs_resolved_iff
      | false =>
          refine runs_resolved_iff.trans ?_
          exact exists_congr fun symbols => and_congr_left fun _ => runs_done_iff

theorem runs_ofReading_iff {α : Type} {p : Debuggee}
    {d : Dialogue Memory.Request Memory.Request.Answer α} {a : α} :
    Runs (ofReading p d) said a ↔
      ∃ reads, Runs d reads a ∧ said = reads.map (inProcess p) := by
  induction d generalizing said with
  | done b =>
      refine runs_done_iff.trans ?_
      constructor
      · rintro ⟨rfl, rfl⟩
        exact ⟨[], .done a, rfl⟩
      · rintro ⟨reads, hreads, rfl⟩
        obtain ⟨rfl, rfl⟩ := runs_done_iff.1 hreads
        exact ⟨rfl, rfl⟩
  | ask q resume ih =>
      have hask : Runs (ofReading p (ask q resume)) said a ↔
          ∃ (given : q.Answer) (rest : List Spoken), said = ⟨.readMemory p q, given⟩ :: rest ∧
            Runs (ofReading p (resume given)) rest a :=
        runs_ask_iff
      rw [hask]
      constructor
      · rintro ⟨given, rest, rfl, hrest⟩
        obtain ⟨reads, hreads, rfl⟩ := (ih given).1 hrest
        exact ⟨⟨q, given⟩ :: reads, .ask given hreads, rfl⟩
      · rintro ⟨reads, hreads, rfl⟩
        obtain ⟨given, rest, rfl, hrest⟩ := runs_ask_iff.1 hreads
        exact ⟨given, _, rfl, (ih given).2 ⟨rest, hrest, rfl⟩⟩

theorem runs_materialize_iff {address : Address} {found : Option Object} :
    Runs (materialize v address).run said found ↔
      (((∃ reads, Runs (Object.find v.process address).run reads (.ok none) ∧
            said = reads.map (inProcess v.process)) ∨
          ∃ reads e, Runs (Object.find v.process address).run reads (.error e) ∧
            said = reads.map (inProcess v.process) ++
              [noted .debug s!"not a Python object: {e.message}"]) ∧
        found = none) ∨
        ∃ object, (∃ reads, Runs (Object.find v.process address).run reads (.ok (some object)) ∧
            said = reads.map (inProcess v.process) ++
              [noted .trace s!"materialized {object.typeName} at {address}"]) ∧
          found = some object := by
  rw [materialize, runs_lift_bind_iff]
  constructor
  · rintro ⟨result, first, last, rfl, hfind, hlast⟩
    obtain ⟨reads, hreads, rfl⟩ := runs_ofReading_iff.1 hfind
    obtain e | _ | object := result
    · obtain ⟨rfl, rfl⟩ := (runs_failure_iff runs_log_iff).1 hlast
      exact .inl ⟨.inr ⟨reads, e, hreads, rfl⟩, rfl⟩
    · obtain ⟨rfl, rfl⟩ := runs_run_failure_iff.1 hlast
      exact .inl ⟨.inl ⟨reads, hreads, List.append_nil _⟩, rfl⟩
    · obtain ⟨_, logged, nothing, rfl, hlogged, hpure⟩ := runs_lift_bind_iff.1 hlast
      obtain ⟨rfl, rfl⟩ := runs_run_pure_iff.1 hpure
      obtain rfl := (runs_log_iff _).1 hlogged
      exact .inr ⟨object, ⟨reads, hreads, by rw [List.append_nil]⟩, rfl⟩
  · have hfind {reads result} (hreads : Runs (Object.find v.process address).run reads result) :=
      (runs_ofReading_iff (p := v.process)).2 ⟨reads, hreads, rfl⟩
    rintro (⟨⟨reads, hreads, rfl⟩ | ⟨reads, e, hreads, rfl⟩, rfl⟩ |
      ⟨object, ⟨reads, hreads, rfl⟩, rfl⟩)
    · exact ⟨_, _, [], (List.append_nil _).symm, hfind hreads, runs_run_failure_iff.2 ⟨rfl, rfl⟩⟩
    · exact ⟨_, _, _, rfl, hfind hreads, (runs_failure_iff runs_log_iff).2 ⟨rfl, rfl⟩⟩
    · refine ⟨_, _, _, rfl, hfind hreads, runs_lift_bind_iff.2 ?_⟩
      exact ⟨(), _, [], (List.append_nil _).symm, (runs_log_iff _).2 rfl,
        runs_run_pure_iff.2 ⟨rfl, rfl⟩⟩

theorem runs_bridge_iff {evaluator : Evaluator} {object : Object} {context : Context}
    {typeName : Option String} {found : Option Node} :
    Runs (bridge evaluator v object context typeName).run said found ↔
      (∃ e, found = none ∧ said = [⟨.nativeEvaluator evaluator v.context v.frame, .error e⟩,
          noted .debug s!"native evaluator unavailable: {e.message}"]) ∨
        (∃ native e, found = none ∧
          said = [⟨.nativeEvaluator evaluator v.context v.frame, .ok native⟩,
            ⟨.createResult evaluator (resultRequest v object context typeName native), .error e⟩,
            noted .debug s!"Python view bridge failed: {e.message}"]) ∨
          ∃ native n, found = some n ∧
            said = [⟨.nativeEvaluator evaluator v.context v.frame, .ok native⟩,
              ⟨.createResult evaluator (resultRequest v object context typeName native),
                .ok n⟩] := by
  rw [bridge]
  refine runs_call_bind_iff.trans ?_
  constructor
  · rintro ⟨e | native, rest, rfl, hrest⟩
    · obtain ⟨rfl, rfl⟩ := (runs_failure_iff runs_log_iff).1 hrest
      exact .inl ⟨e, rfl, rfl⟩
    · obtain ⟨e | n, back, rfl, hback⟩ := runs_call_bind_iff.1 hrest
      · obtain ⟨rfl, rfl⟩ := (runs_failure_iff runs_log_iff).1 hback
        exact .inr (.inl ⟨native, e, rfl, rfl⟩)
      · obtain ⟨rfl, rfl⟩ := runs_run_pure_iff.1 hback
        exact .inr (.inr ⟨native, n, rfl, rfl⟩)
  · rintro (⟨e, rfl, rfl⟩ | ⟨native, e, rfl, rfl⟩ | ⟨native, n, rfl, rfl⟩)
    · exact ⟨.error e, _, rfl, (runs_failure_iff runs_log_iff).2 ⟨rfl, rfl⟩⟩
    · exact ⟨.ok native, _, rfl, runs_call_bind_iff.2
        ⟨.error e, _, rfl, (runs_failure_iff runs_log_iff).2 ⟨rfl, rfl⟩⟩⟩
    · exact ⟨.ok native, _, rfl, runs_call_bind_iff.2
        ⟨.ok n, [], rfl, runs_run_pure_iff.2 ⟨rfl, rfl⟩⟩⟩

/-! ## What the stages ask

The stage for the type name asks for symbols only, and the last stage asks for a node, which no
other does.
-/

/-- Any question but the one for a node. -/
def IsPreparation : Call → Prop
  | .createResult _ _ => False
  | _ => True

/-- A question that is neither for a node nor for symbols or options. -/
def IsPlain : Call → Prop
  | .findSymbol _ | .symbolName _ | .releaseSymbol _ | .createResult _ _ | .showViewNodes _ => False
  | _ => True

/-- A question on the way to a type name. -/
def IsNaming : Call → Prop
  | .findSymbol _ | .symbolName _ | .releaseSymbol _ => True
  | .log event => event.target = Log.Target.symbols
  | _ => False

theorem isPreparation_of_isPlain (c : Call) (h : IsPlain c) : IsPreparation c := by
  cases c with
  | createResult evaluator request => exact h.elim
  | _ => trivial

theorem isPreparation_of_isNaming (c : Call) (h : IsNaming c) : IsPreparation c := by
  cases c with
  | createResult evaluator request => exact h.elim
  | _ => trivial

theorem asksOnly_optional_bind {α β : Type} {kind : Call → Prop} {d : OptionT Hosted α}
    {f : α → OptionT Hosted β} (hd : d.run.AsksOnly kind) (hf : ∀ a, (f a).run.AsksOnly kind) :
    (d >>= f).run.AsksOnly kind := by
  rw [OptionT.run_bind, Option.elimM]
  apply hd.bind
  intro found
  cases found with
  | none => trivial
  | some a => exact hf a

theorem asksOnly_lift {α : Type} {kind : Call → Prop} {d : Hosted α} (h : d.AsksOnly kind) :
    (OptionT.lift d).run.AsksOnly kind := by
  rw [OptionT.run_lift]
  exact h.bind fun _ => trivial

/-- A stage that says something and is not passed. -/
theorem asksOnly_failure {α : Type} {kind : Call → Prop} {d : Hosted Unit}
    (h : d.AsksOnly kind) :
    (OptionT.lift d >>= fun _ => (failure : OptionT Hosted α)).run.AsksOnly kind :=
  asksOnly_optional_bind (asksOnly_lift h) fun _ => trivial

theorem asksOnly_log (level : Log.Level) (target message : String)
    (fields : List (String × String)) :
    (log level target message fields).AsksOnly IsPlain :=
  .put trivial

theorem asksOnly_report (vis : Visualizer) (message : String) :
    (vis.report message).AsksOnly IsPlain := by
  rw [report]
  split
  · exact .put trivial
  · exact asksOnly_log _ _ _ _

theorem asksOnly_gate (v : Value) : (gate v).run.AsksOnly IsPlain := by
  apply asksOnly_optional_bind (asksOnly_lift (.put trivial))
  rintro (_ | runtime)
  · exact asksOnly_failure (asksOnly_log _ _ _ _)
  · trivial

theorem asksOnly_locate (vis : Visualizer) (v : Value) :
    (vis.locate v).run.AsksOnly IsPlain := by
  rw [locate]
  split
  · split <;> trivial
  · exact asksOnly_failure (asksOnly_report _ _)

theorem asksOnly_service (vis : Visualizer) (v : Value) :
    (vis.service v).run.AsksOnly IsPlain := by
  apply asksOnly_optional_bind (asksOnly_lift (.put trivial))
  rintro (_ | evaluator)
  · exact asksOnly_failure (asksOnly_report _ _)
  · trivial

theorem asksOnly_nameOfSymbol (v : Value) : (nameOfSymbol v).AsksOnly IsNaming := by
  refine .bind (.put trivial) ?_
  rintro (_ | symbol)
  · trivial
  · refine .bind (.put trivial) fun name => ?_
    exact .bind (.put trivial) fun _ => trivial

theorem asksOnly_typeName (hasSymbols : Bool) (v : Value) :
    (Hosted.typeName hasSymbols v).AsksOnly IsNaming := by
  have hlast (name : Option String) : (do
      log .trace Log.Target.symbols "resolved native type name"
        [("type_name", Text.optional (name.map Text.quoted))]
      return name : Hosted (Option String)).AsksOnly IsNaming :=
    .bind (.put rfl) fun _ => trivial
  rw [Hosted.typeName]
  cases TypeNameSource.ofValue v with
  | parentResult typeName => exact hlast _
  | absent => exact hlast _
  | debugSymbols =>
      cases hasSymbols with
      | false => exact hlast _
      | true => exact .bind (asksOnly_nameOfSymbol v) hlast

theorem asksOnly_materialize (v : Value) (a : Address) :
    (materialize v a).run.AsksOnly IsPlain := by
  apply asksOnly_optional_bind (asksOnly_lift (.translate (fun _ => .put trivial) _))
  rintro (e | _ | object)
  · exact asksOnly_failure (asksOnly_log _ _ _ _)
  · trivial
  · exact asksOnly_optional_bind (asksOnly_lift (asksOnly_log _ _ _ _)) fun _ => trivial

end Visualizer

end ObjectView
