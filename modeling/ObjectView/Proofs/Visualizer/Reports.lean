import ObjectView.Proofs.Visualizer.Outcome

/-!
# What is reported

Over a run of requests, whatever the host is like at each of them, there is one report for each
value that the host should not have asked about: where a runtime is loaded, one that has no address,
or has one but no evaluator serves its process.

A request that fails at the object leaves a note for debugging instead, and any other leaves none.
-/

namespace ObjectView.Visualizer

open Hosted Dialogue

inductive Request
  | evaluate (value : Value)
  | defaultBehavior (value : Value)
  | execute (request : IntrinsicRequest)
  | children (value : Value) (size : Nat)
  | items (value : Value) (start count : Nat)
  | underlyingString (value : Value)
  | setString (value : Value) (text : String)

abbrev Request.Answer : Request → Type
  | evaluate _ => Node
  | defaultBehavior _ => Except RequestError (Bool × Node)
  | execute _ => Except RequestError IntrinsicResponse
  | children _ _ => Except RequestError (List Node)
  | items _ _ _ => Except RequestError (List Node)
  | underlyingString _ => Except RequestError String
  | setString _ _ => Except RequestError Unit

def serve (vis : Visualizer) : (r : Request) → Hosted r.Answer
  | .evaluate v => vis.evaluate v
  | .defaultBehavior v => vis.defaultBehavior v
  | .execute request => vis.execute request
  | .children v size => pure (children v size)
  | .items v start count => pure (items v start count)
  | .underlyingString v => pure (underlyingString v)
  | .setString v text => pure (setString v text)

def Request.rendered? : Request → Option Value
  | evaluate v | defaultBehavior v => some v
  | _ => none

/-- A request with the host it meets. -/
structure Moment where
  request : Request
  host : Behaviour

/-- What is said at a request, earliest first. -/
def Moment.said (vis : Visualizer) (m : Moment) : List Spoken :=
  ((vis.serve m.request).converse m.host []).2.reverse

def reports (said : List Spoken) : List String :=
  said.filterMap fun x => reportOf? x.1

def noteOf? : Call → Option String
  | .log event => if event.level = .debug then some event.message else none
  | _ => none

/-- The messages of the events for debugging. -/
def notes (said : List Spoken) : List String :=
  said.filterMap fun x => noteOf? x.1

/-- The host should not have asked about this value. -/
def Unexpected (host : Behaviour) (v : Value) : Prop :=
  ∃ runtime, host [] (.runtime v.process.id) = some runtime ∧
    ((∃ kind, v.home = .other kind) ∨
      ∃ address, v.home = .pointer address ∧ address ≠ .null ∧
        host [⟨.runtime v.process.id, some runtime⟩] (.evaluator v.process.id) = none)

def isUnexpected (host : Behaviour) (v : Value) : Bool :=
  match host [] (.runtime v.process.id) with
  | none => false
  | some runtime =>
      match v.home with
      | .other _ => true
      | .pointer address => address != .null &&
          (host [⟨.runtime v.process.id, some runtime⟩] (.evaluator v.process.id)).isNone

theorem isUnexpected_iff {host : Behaviour} {v : Value} :
    isUnexpected host v = true ↔ Unexpected host v := by
  rw [isUnexpected, Unexpected]
  cases host [] (.runtime v.process.id) with
  | none => simp
  | some runtime =>
      cases v.home with
      | other kind => simp
      | pointer address => simp

instance (host : Behaviour) (v : Value) : Decidable (Unexpected host v) :=
  decidable_of_iff _ isUnexpected_iff

/-- The request is for the view of a value that the host should not have asked about. -/
def Moment.IsUnexpected (m : Moment) : Prop :=
  ∃ v, m.request.rendered? = some v ∧ Unexpected m.host v

instance (m : Moment) : Decidable m.IsUnexpected :=
  decidable_of_iff (m.request.rendered?.any (Unexpected m.host ·)) <| by
    simp [Moment.IsUnexpected, Option.any_eq_true]

def Ending.report? (v : Value) : Ending → Option String
  | notPointer kind => some s!"expected a pointer value home, got {kind}"
  | noEvaluator =>
      some s!"process {v.process.id} has a Python runtime but no expression evaluator"
  | _ => none

/-- The note for debugging that a request leaves at its end. -/
def Ending.note? : Ending → Option String
  | noObject e => some s!"not a Python object: {e.message}"
  | noNative e => some s!"native evaluator unavailable: {e.message}"
  | noNode e => some s!"Python view bridge failed: {e.message}"
  | _ => none

/-- A request that renders a value reports and notes what its ending says, and no other request
reports or notes anything. -/
def Moment.IsAccounted (vis : Visualizer) (m : Moment) : Prop :=
  match m.request.rendered? with
  | some v => ∃ ending, Course vis v ending (m.said vis) ∧
      reports (m.said vis) = (ending.report? v).toList ∧
      notes (m.said vis) = ending.note?.toList
  | none => reports (m.said vis) = [] ∧ notes (m.said vis) = []

variable {vis : Visualizer} {v : Value} {said first last : List Spoken}

/-! ## One request -/

/-- Nothing is reported or noted with this. -/
def IsQuiet (c : Call) : Prop :=
  reportOf? c = none ∧ noteOf? c = none

theorem reports_append : reports (first ++ last) = reports first ++ reports last :=
  List.filterMap_append

theorem notes_append : notes (first ++ last) = notes first ++ notes last :=
  List.filterMap_append

theorem reports_of_quiet (h : ∀ x ∈ said, IsQuiet x.1) : reports said = [] :=
  List.filterMap_eq_nil_iff.2 fun x hx => (h x hx).1

theorem notes_of_quiet (h : ∀ x ∈ said, IsQuiet x.1) : notes said = [] :=
  List.filterMap_eq_nil_iff.2 fun x hx => (h x hx).2

theorem isQuiet_noted {level : Log.Level} (message : String) (h : level ≠ .debug) :
    IsQuiet (noted level message).1 :=
  ⟨reportOf?_noted level message, if_neg h⟩

theorem isQuiet_resolved (name : Option String) : IsQuiet (resolved name).1 :=
  ⟨reportOf?_resolved name, rfl⟩

theorem noteOf?_reported (message : String) : noteOf? (vis.reported message).1 = none := by
  rw [reported]
  split
  · rfl
  · rfl

theorem Naming.isQuiet {name : Option String} (naming : Naming vis v name said) :
    ∀ x ∈ said, IsQuiet x.1 := by
  cases naming <;> simp [IsQuiet, reportOf?, noteOf?]

theorem Approach.Said.isQuiet {way : Approach} {result : Except ObjectError (Option Object)}
    (approach : way.Said vis v result said) : ∀ x ∈ said, IsQuiet x.1 := by
  obtain @⟨symbols, _, reads, -, -, naming, -⟩ := approach
  simp only [List.forall_mem_append, List.forall_mem_cons]
  refine ⟨⟨⟨⟨rfl, rfl⟩, ⟨rfl, rfl⟩, by simp⟩, naming.isQuiet, isQuiet_resolved _, by simp⟩, ?_⟩
  intro x hx
  obtain ⟨read, -, rfl⟩ := List.mem_map.1 hx
  exact ⟨rfl, rfl⟩

/-- The report or the note is the last that is said, and nothing is reported or noted before. -/
theorem Course.exists_quiet {ending : Ending} (course : Course vis v ending said) :
    ∃ quiet, (∀ x ∈ quiet, IsQuiet x.1) ∧
      said = quiet ++ (((ending.report? v).map vis.reported).toList ++
        (ending.note?.map (noted .debug)).toList) := by
  have hnil : ∀ x ∈ ([] : List Spoken), IsQuiet x.1 := fun x hx => absurd hx List.not_mem_nil
  have htrace (message : String) : IsQuiet (noted .trace message).1 :=
    isQuiet_noted message (by decide)
  cases course with
  | noRuntime =>
      refine ⟨[_, _], ?_, (List.append_nil _).symm⟩
      simp only [List.forall_mem_cons]
      exact ⟨⟨rfl, rfl⟩, htrace _, hnil⟩
  | notPointer home =>
      refine ⟨[_], ?_, rfl⟩
      exact List.forall_mem_singleton.2 ⟨rfl, rfl⟩
  | null home =>
      refine ⟨[_], ?_, rfl⟩
      exact List.forall_mem_singleton.2 ⟨rfl, rfl⟩
  | noEvaluator home notNull =>
      refine ⟨[_, _], ?_, rfl⟩
      simp only [List.forall_mem_cons]
      exact ⟨⟨rfl, rfl⟩, ⟨rfl, rfl⟩, hnil⟩
  | nothing approach => exact ⟨said, approach.isQuiet, (List.append_nil said).symm⟩
  | noObject approach => exact ⟨_, approach.isQuiet, rfl⟩
  | @noNative way before object e approach =>
      refine ⟨before ++ [_, _], ?_, List.append_assoc before [_, _] _ |>.symm⟩
      simp only [List.forall_mem_append, List.forall_mem_cons]
      exact ⟨approach.isQuiet, htrace _, ⟨rfl, rfl⟩, hnil⟩
  | @noNode way before object native e approach =>
      refine ⟨before ++ [_, _, _], ?_, List.append_assoc before [_, _, _] _ |>.symm⟩
      simp only [List.forall_mem_append, List.forall_mem_cons]
      exact ⟨approach.isQuiet, htrace _, ⟨rfl, rfl⟩, ⟨rfl, rfl⟩, hnil⟩
  | @node way before object native n approach =>
      refine ⟨before ++ [_, _, _], ?_, (List.append_nil _).symm⟩
      simp only [List.forall_mem_append, List.forall_mem_cons]
      exact ⟨approach.isQuiet, htrace _, ⟨rfl, rfl⟩, ⟨rfl, rfl⟩, hnil⟩

theorem Course.reports_eq {ending : Ending} (course : Course vis v ending said) :
    reports said = (ending.report? v).toList := by
  obtain ⟨quiet, hquiet, rfl⟩ := course.exists_quiet
  rw [reports_append, reports_append, reports_of_quiet hquiet, List.nil_append]
  have hnote : reports (ending.note?.map (noted .debug)).toList = [] := by
    cases ending.note? with
    | none => rfl
    | some message => exact List.filterMap_cons_none (reportOf?_noted _ _)
  rw [hnote, List.append_nil]
  cases ending.report? v with
  | none => rfl
  | some message => exact List.filterMap_cons_some (reportOf?_reported vis message)

theorem Course.notes_eq {ending : Ending} (course : Course vis v ending said) :
    notes said = ending.note?.toList := by
  obtain ⟨quiet, hquiet, rfl⟩ := course.exists_quiet
  rw [notes_append, notes_append, notes_of_quiet hquiet, List.nil_append]
  have hreport : notes ((ending.report? v).map vis.reported).toList = [] := by
    cases ending.report? v with
    | none => rfl
    | some message => exact List.filterMap_cons_none (noteOf?_reported message)
  rw [hreport, List.nil_append]
  cases ending.note? with
  | none => rfl
  | some message => rfl

/-- A request comes to the object only if nothing was unexpected before. -/
theorem Approach.Said.not_unexpected {way : Approach} {host : Behaviour}
    {result : Except ObjectError (Option Object)} {rest : List Spoken}
    (approach : way.Said vis v result said) (follows : Follows host [] (said ++ rest)) :
    ¬ Unexpected host v := by
  obtain ⟨hhome, hnull, -, -⟩ := approach
  obtain ⟨hruntime, hevaluator, -⟩ := follows
  rintro ⟨runtime, hloaded, ⟨kind, hother⟩ | ⟨address, -, -, hnone⟩⟩
  · cases hhome.symm.trans hother
  · obtain rfl : way.runtime = runtime := Option.some.inj (hruntime.trans hloaded)
    cases hevaluator.trans hnone

/-- There is a report exactly for what the host should not have asked. -/
theorem Course.isSome_report?_iff {host : Behaviour} {ending : Ending}
    (course : Course vis v ending said) (follows : Follows host [] said) :
    (ending.report? v).isSome ↔ Unexpected host v := by
  cases course with
  | noRuntime =>
      apply iff_of_false Bool.false_ne_true
      rintro ⟨runtime, hloaded, -⟩
      cases follows.1.trans hloaded
  | @notPointer runtime kind home =>
      apply iff_of_true rfl
      exact ⟨runtime, follows.1.symm, .inl ⟨kind, home⟩⟩
  | null home =>
      apply iff_of_false Bool.false_ne_true
      rintro ⟨runtime, -, ⟨kind, hother⟩ | ⟨address, hpointer, hne, -⟩⟩
      · cases home.symm.trans hother
      · exact hne (Home.pointer.inj (hpointer.symm.trans home))
  | @noEvaluator runtime address home notNull =>
      apply iff_of_true rfl
      exact ⟨runtime, follows.1.symm, .inr ⟨address, home, notNull, follows.2.1.symm⟩⟩
  | nothing approach =>
      rw [← List.append_nil said] at follows
      exact iff_of_false Bool.false_ne_true (approach.not_unexpected follows)
  | noObject approach =>
      exact iff_of_false Bool.false_ne_true (approach.not_unexpected follows)
  | noNative approach =>
      exact iff_of_false Bool.false_ne_true (approach.not_unexpected follows)
  | noNode approach =>
      exact iff_of_false Bool.false_ne_true (approach.not_unexpected follows)
  | node approach =>
      exact iff_of_false Bool.false_ne_true (approach.not_unexpected follows)

theorem Moment.course_of_rendered (vis : Visualizer) {m : Moment}
    (h : m.request.rendered? = some v) :
    ∃ ending, Course vis v ending (m.said vis) ∧ Follows m.host [] (m.said vis) := by
  obtain ⟨said, hsaid, hruns, hfollows⟩ := exists_runs m.host (vis.render v).run
  obtain ⟨ending, course, -⟩ := runs_render_iff.1 hruns
  have hserve : ((vis.serve m.request).converse m.host []).2 = said.reverse := by
    obtain ⟨request, host⟩ := m
    cases request with
    | evaluate v' =>
        obtain rfl : v' = v := Option.some.inj h
        exact (congrArg Prod.snd (converse_evaluate host vis v')).trans hsaid
    | defaultBehavior v' =>
        obtain rfl : v' = v := Option.some.inj h
        exact (congrArg Prod.snd (converse_defaultBehavior host vis v')).trans hsaid
    | _ => cases h
  have hsame : m.said vis = said := by
    rw [Moment.said, hserve, List.reverse_reverse]
  rw [hsame]
  exact ⟨ending, course, hfollows⟩

theorem asksOnly_execute (request : IntrinsicRequest) :
    (vis.execute request).AsksOnly IsQuiet := by
  rw [execute]
  cases Intrinsic.ofId? request.id with
  | none => trivial
  | some i =>
      have hlog (shown : Bool) : IsQuiet (.log ⟨.trace, Log.Target.visualizer,
          s!"show Python view nodes for {request.frame.process}: {shown}", []⟩) :=
        isQuiet_noted _ (by decide)
      refine ⟨⟨rfl, rfl⟩, fun runtime => ?_⟩
      cases runtime with
      | none => exact ⟨hlog false, fun _ => trivial⟩
      | some runtime => exact ⟨⟨rfl, rfl⟩, fun shown => ⟨hlog shown, fun _ => trivial⟩⟩

theorem Moment.isQuiet_of_not_rendered (vis : Visualizer) {m : Moment}
    (h : m.request.rendered? = none) :
    ∀ x ∈ m.said vis, IsQuiet x.1 := by
  have hserve : (vis.serve m.request).AsksOnly IsQuiet := by
    cases hrequest : m.request with
    | evaluate v => cases (congrArg Request.rendered? hrequest).symm.trans h
    | defaultBehavior v => cases (congrArg Request.rendered? hrequest).symm.trans h
    | execute request => exact asksOnly_execute request
    | children v size => trivial
    | items v start count => trivial
    | underlyingString v => trivial
    | setString v text => trivial
  obtain ⟨new, hsaid, hnew⟩ := hserve.exists_append (rfl : Says m.host [] _ _ _)
  intro x hx
  rw [Moment.said, hsaid, List.append_nil, List.mem_reverse] at hx
  exact hnew x hx

theorem Moment.isAccounted (vis : Visualizer) (m : Moment) : m.IsAccounted vis := by
  rw [IsAccounted]
  cases hrendered : m.request.rendered? with
  | none =>
      have hquiet := isQuiet_of_not_rendered vis hrendered
      exact ⟨reports_of_quiet hquiet, notes_of_quiet hquiet⟩
  | some v =>
      obtain ⟨ending, course, -⟩ := course_of_rendered vis hrendered
      exact ⟨ending, course, course.reports_eq, course.notes_eq⟩

/-! ## A run of requests -/

theorem Moment.length_reports (vis : Visualizer) (m : Moment) :
    (reports (m.said vis)).length = if m.IsUnexpected then 1 else 0 := by
  cases hrendered : m.request.rendered? with
  | none =>
      have hexpected : ¬ m.IsUnexpected := by
        rintro ⟨v, hsome, -⟩
        cases hrendered.symm.trans hsome
      have hquiet : reports (m.said vis) = [] :=
        reports_of_quiet (isQuiet_of_not_rendered vis hrendered)
      rw [if_neg hexpected, hquiet, List.length_nil]
  | some v =>
      obtain ⟨ending, course, follows⟩ := course_of_rendered vis hrendered
      have hreport : (ending.report? v).isSome ↔ m.IsUnexpected := by
        rw [course.isSome_report?_iff follows, IsUnexpected, hrendered]
        simp
      rw [course.reports_eq, Option.length_toList]
      simp only [hreport]

/-- Over a run of requests there is one report for each value that the host should not have asked
about.  What each request reports and notes depends on nothing but where it ends. -/
theorem reports_of_run (vis : Visualizer) (run : List Moment) :
    (reports (run.flatMap (Moment.said vis))).length = run.countP (·.IsUnexpected) ∧
      ∀ m : Moment, m.IsAccounted vis := by
  refine ⟨?_, Moment.isAccounted vis⟩
  induction run with
  | nil => rfl
  | cons m run ih =>
      rw [List.flatMap_cons, reports_append, List.length_append, m.length_reports, ih,
        List.countP_cons, Nat.add_comm]
      simp only [decide_eq_true_eq]

end ObjectView.Visualizer
