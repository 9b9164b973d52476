import ObjectView.Proofs.Visualizer.Outcome

/-!
# The order of a request

Only what is said to others counts here, not what is noted down: the order is that of the stages,
no stage is gone through twice, and a report is the last that is said.
-/

namespace ObjectView.Visualizer

open Hosted Dialogue

inductive Step
  | runtime
  | evaluator
  | findSymbol
  | symbolName
  | releaseSymbol
  | readMemory
  | nativeEvaluator
  | createResult
  | options
  | report
  deriving DecidableEq

/-- An event of the log is no step, but a report is one also where it goes to the log. -/
def Step.ofCall? : Call → Option Step
  | .runtime _ => some .runtime
  | .evaluator _ => some .evaluator
  | .findSymbol _ => some .findSymbol
  | .symbolName _ => some .symbolName
  | .releaseSymbol _ => some .releaseSymbol
  | .readMemory _ _ => some .readMemory
  | .nativeEvaluator _ _ _ => some .nativeEvaluator
  | .createResult _ _ => some .createResult
  | .showViewNodes _ => some .options
  | c => (reportOf? c).map fun _ => .report

def steps (said : List Spoken) : List Step :=
  said.filterMap fun x => Step.ofCall? x.1

/-- The steps to a type name. -/
inductive SymbolSteps (vis : Visualizer) (v : Value) : List Step → Prop
  | none (unasked : vis.hasSymbols = false ∨ ∃ typeName, v.origin = .child typeName) :
      SymbolSteps vis v []
  | missing {position : Option LexicalPosition} (asked : vis.hasSymbols = true)
      (origin : v.origin = .root position) : SymbolSteps vis v [.findSymbol]
  | named {position : Option LexicalPosition} (asked : vis.hasSymbols = true)
      (origin : v.origin = .root position) :
      SymbolSteps vis v [.findSymbol, .symbolName, .releaseSymbol]

/-- All steps of a request that is carried to its end. -/
def Step.all (symbols : List Step) (reads : Nat) : List Step :=
  [.runtime, .evaluator] ++ symbols ++ List.replicate reads .readMemory ++
    [.nativeEvaluator, .createResult]

/-- The steps are the first of all, with at most one report, which is the last one. -/
inductive InOrder (vis : Visualizer) (v : Value) : List Step → Prop
  | quiet {symbols done : List Step} {reads : Nat} (naming : SymbolSteps vis v symbols)
      (first : done <+: Step.all symbols reads) : InOrder vis v done
  | notPointer {kind : String} (home : v.home = .other kind) :
      InOrder vis v [.runtime, .report]
  | noEvaluator {address : Address} (home : v.home = .pointer address)
      (notNull : address ≠ .null) : InOrder vis v [.runtime, .evaluator, .report]

/-- What is held after a question and its answer.  A symbol is held once it is found, until it is
given back. -/
def hold (found : List Symbol) : Spoken → List Symbol
  | ⟨.findSymbol _, some symbol⟩ => symbol :: found
  | ⟨.releaseSymbol symbol, _⟩ => found.erase symbol
  | _ => found

def held (said : List Spoken) : List Symbol :=
  said.foldl hold []

def AtObject : Call → Prop
  | .readMemory _ _ | .nativeEvaluator _ _ _ | .createResult _ _ => True
  | _ => False

/-- The question changes what is held. -/
def AboutHolding : Call → Prop
  | .findSymbol _ | .releaseSymbol _ => True
  | _ => False

/-- No symbol is held at the end, nor at any question about the object. -/
def HoldsNothing (said : List Spoken) : Prop :=
  held said = [] ∧
    ∀ before x after, said = before ++ x :: after → AtObject x.1 → held before = []

variable {vis : Visualizer} {v : Value} {said first last : List Spoken}

@[simp] theorem steps_nil : steps [] = [] := rfl

@[simp] theorem steps_append : steps (first ++ last) = steps first ++ steps last :=
  List.filterMap_append

@[simp] theorem steps_cons (x : Spoken) :
    steps (x :: said) = (Step.ofCall? x.1).toList ++ steps said := by
  rw [steps, List.filterMap_cons]
  cases Step.ofCall? x.1 with
  | none => rfl
  | some step => rfl

@[simp] theorem ofCall?_noted (level : Log.Level) (message : String) :
    Step.ofCall? (noted level message).1 = none :=
  congrArg (Option.map fun _ => Step.report) (reportOf?_noted level message)

@[simp] theorem ofCall?_resolved (name : Option String) :
    Step.ofCall? (resolved name).1 = none :=
  congrArg (Option.map fun _ => Step.report) (reportOf?_resolved name)

@[simp] theorem ofCall?_reported (message : String) :
    Step.ofCall? (vis.reported message).1 = some .report := by
  have hreport := reportOf?_reported vis message
  cases hcall : (vis.reported message).1 with
  | report message' => rfl
  | log event =>
      rw [hcall] at hreport
      exact congrArg (Option.map fun _ => Step.report) hreport
  | _ =>
      rw [hcall] at hreport
      cases hreport

theorem steps_map_inProcess (p : Debuggee)
    (reads : List (Exchange Memory.Request Memory.Request.Answer)) :
    steps (reads.map (inProcess p)) = List.replicate reads.length .readMemory := by
  induction reads with
  | nil => rfl
  | cons x reads ih => exact congrArg (Step.readMemory :: ·) ih

theorem Naming.symbolSteps {name : Option String} (naming : Naming vis v name said) :
    SymbolSteps vis v (steps said) := by
  cases naming with
  | given origin => exact .none (.inr ⟨_, origin⟩)
  | absent origin => exact .none (.inr ⟨_, origin⟩)
  | unsearched origin symbols => exact .none (.inl symbols)
  | missing origin symbols => exact .missing symbols origin
  | named origin symbols => exact .named symbols origin

theorem exists_symbolSteps (vis : Visualizer) (v : Value) :
    ∃ symbols, SymbolSteps vis v symbols := by
  cases hsymbols : vis.hasSymbols with
  | false => exact ⟨[], .none (.inl hsymbols)⟩
  | true =>
      cases horigin : v.origin with
      | child typeName => exact ⟨[], .none (.inr ⟨typeName, horigin⟩)⟩
      | root position => exact ⟨_, .missing hsymbols horigin⟩

/-- At the object there are still the last two steps to be done. -/
theorem Approach.Said.inOrder {way : Approach} {result : Except ObjectError (Option Object)}
    {rest : List Step} (approach : way.Said vis v result said)
    (h : rest <+: [.nativeEvaluator, .createResult]) : InOrder vis v (steps said ++ rest) := by
  obtain @⟨symbols, _, reads, -, -, naming, -⟩ := approach
  have hall : InOrder vis v ([.runtime, .evaluator] ++ steps symbols ++
      List.replicate reads.length .readMemory ++ rest) :=
    .quiet naming.symbolSteps ((List.prefix_append_right_inj _).2 h)
  simp only [steps_append, steps_cons, steps_nil, ofCall?_resolved, steps_map_inProcess,
    Option.toList_none, List.append_nil]
  exact hall

theorem Course.inOrder {ending : Ending} (course : Course vis v ending said) :
    InOrder vis v (steps said) := by
  have start {done : List Step} (h : done <+: [.runtime, .evaluator]) : InOrder vis v done := by
    obtain ⟨symbols, naming⟩ := exists_symbolSteps vis v
    have hall : [.runtime, .evaluator] <+: Step.all symbols 0 :=
      ⟨symbols ++ [.nativeEvaluator, .createResult], by simp [Step.all]⟩
    exact .quiet naming (h.trans hall)
  cases course with
  | noRuntime => exact start ⟨[.evaluator], by simp; rfl⟩
  | notPointer home =>
      simp only [steps_cons, ofCall?_reported]
      exact .notPointer home
  | null home => exact start ⟨[.evaluator], by simp; rfl⟩
  | noEvaluator home notNull =>
      simp only [steps_cons, ofCall?_reported]
      exact .noEvaluator home notNull
  | nothing approach => simpa using approach.inOrder List.nil_prefix
  | noObject approach => simpa using approach.inOrder List.nil_prefix
  | noNative approach =>
      simp only [steps_append, steps_cons, ofCall?_noted]
      exact approach.inOrder ⟨[.createResult], rfl⟩
  | noNode approach =>
      simp only [steps_append, steps_cons, ofCall?_noted]
      exact approach.inOrder ⟨[], rfl⟩
  | node approach =>
      simp only [steps_append, steps_cons, ofCall?_noted]
      exact approach.inOrder ⟨[], rfl⟩

/-! ## What is held -/

theorem foldl_hold {found : List Symbol} (h : ∀ x ∈ said, ¬ AboutHolding x.1) :
    said.foldl hold found = found := by
  induction said with
  | nil => rfl
  | cons x said ih =>
      obtain ⟨hx, hsaid⟩ := List.forall_mem_cons.1 h
      have hsame : hold found x = found := by
        obtain ⟨c, given⟩ := x
        cases c with
        | findSymbol v => exact absurd trivial hx
        | releaseSymbol symbol => exact absurd trivial hx
        | _ => rfl
      rw [List.foldl_cons, hsame]
      exact ih hsaid

theorem held_append_of_not_aboutHolding (h : ∀ x ∈ last, ¬ AboutHolding x.1) :
    held (first ++ last) = held first := by
  rw [held, List.foldl_append]
  exact foldl_hold h

theorem holdsNothing_append (hfirst : ∀ x ∈ first, ¬ AtObject x.1) (hheld : held first = [])
    (hlast : ∀ x ∈ last, ¬ AboutHolding x.1) : HoldsNothing (first ++ last) := by
  refine ⟨(held_append_of_not_aboutHolding hlast).trans hheld, ?_⟩
  intro before x after hsplit hx
  obtain ⟨between, rfl, rfl⟩ | ⟨between, rfl, hrest⟩ := List.append_eq_append_iff.1 hsplit
  · have hbetween : ∀ y ∈ between, ¬ AboutHolding y.1 :=
      fun y hy => hlast y (List.mem_append_left _ hy)
    exact (held_append_of_not_aboutHolding hbetween).trans hheld
  · cases between with
    | nil => simpa using hheld
    | cons y between =>
        obtain rfl : x = y := (List.cons.inj hrest).1
        have hmem : x ∈ before ++ x :: between := List.mem_append_right _ List.mem_cons_self
        exact absurd hx (hfirst x hmem)

theorem not_aboutHolding_reported (message : String) :
    ¬ AboutHolding (vis.reported message).1 := by
  rw [reported]
  split <;> exact id

theorem Naming.not_atObject {name : Option String} (naming : Naming vis v name said) :
    ∀ x ∈ said, ¬ AtObject x.1 := by
  cases naming <;> simp [AtObject]

theorem Naming.foldl_hold {name : Option String} (naming : Naming vis v name said) :
    said.foldl hold [] = [] := by
  cases naming with
  | named => exact List.erase_cons_head ..
  | _ => rfl

/-- The symbol is given back before the object is read. -/
theorem Approach.Said.holdsNothing {way : Approach}
    {result : Except ObjectError (Option Object)} {rest : List Spoken}
    (approach : way.Said vis v result said) (h : ∀ x ∈ rest, ¬ AboutHolding x.1) :
    HoldsNothing (said ++ rest) := by
  obtain @⟨symbols, _, reads, -, -, naming, -⟩ := approach
  rw [List.append_assoc]
  apply holdsNothing_append
  · simp only [List.forall_mem_append, List.forall_mem_cons]
    exact ⟨⟨id, id, fun x hx => absurd hx List.not_mem_nil⟩, naming.not_atObject, id,
      fun x hx => absurd hx List.not_mem_nil⟩
  · have hheld : held ([⟨.runtime v.process.id, some way.runtime⟩,
        ⟨.evaluator v.process.id, some way.evaluator⟩] ++ symbols) = [] :=
      naming.foldl_hold
    rw [← List.append_assoc, held_append_of_not_aboutHolding, hheld]
    exact List.forall_mem_singleton.2 id
  · refine List.forall_mem_append.2 ⟨?_, h⟩
    intro x hx
    obtain ⟨read, -, rfl⟩ := List.mem_map.1 hx
    exact id

theorem Course.holdsNothing {ending : Ending} (course : Course vis v ending said) :
    HoldsNothing said := by
  have unasked {said : List Spoken} (h : ∀ x ∈ said, ¬ AboutHolding x.1) : HoldsNothing said := by
    have hnil : ∀ x ∈ ([] : List Spoken), ¬ AtObject x.1 := fun x hx => absurd hx List.not_mem_nil
    exact holdsNothing_append hnil rfl h
  cases course with
  | noRuntime => exact unasked (by simp [AboutHolding, noted])
  | notPointer home =>
      apply unasked
      simp only [List.forall_mem_cons]
      exact ⟨id, not_aboutHolding_reported _, by simp⟩
  | null home => exact unasked (by simp [AboutHolding])
  | noEvaluator home notNull =>
      apply unasked
      simp only [List.forall_mem_cons]
      exact ⟨id, id, not_aboutHolding_reported _, by simp⟩
  | nothing approach =>
      rw [← List.append_nil said]
      exact approach.holdsNothing (by simp)
  | noObject approach => exact approach.holdsNothing (by simp [AboutHolding, noted])
  | noNative approach => exact approach.holdsNothing (by simp [AboutHolding, noted])
  | noNode approach => exact approach.holdsNothing (by simp [AboutHolding, noted])
  | node approach => exact approach.holdsNothing (by simp [AboutHolding, noted])

/-- Whatever is answered, a request takes one of its courses, whose steps are in order, and holds no
symbol while it is at the object.  Both operations say the same. -/
theorem request_in_order (answer : Behaviour) (vis : Visualizer) (v : Value) :
    let evaluated := (vis.evaluate v).converse answer []
    let shown := (vis.defaultBehavior v).converse answer []
    shown.2 = evaluated.2 ∧
      ∃ ending said, evaluated.2 = said.reverse ∧ Follows answer [] said ∧
        evaluated.1 = ending.node?.getD (.unavailable v.context v.frame) ∧
        Course vis v ending said ∧ InOrder vis v (steps said) ∧ HoldsNothing said := by
  intro evaluated shown
  have hevaluated : evaluated = _ := converse_evaluate answer vis v
  have hshown : shown = _ := converse_defaultBehavior answer vis v
  obtain ⟨said, hsaid, hruns, hfollows⟩ := exists_runs answer (vis.render v).run
  obtain ⟨ending, course, hnode⟩ := runs_render_iff.1 hruns
  refine ⟨by rw [hshown, hevaluated], ending, said, ?_, hfollows, ?_, course, course.inOrder,
    course.holdsNothing⟩
  · rw [hevaluated]
    exact hsaid
  · rw [hevaluated, ← hnode]

end ObjectView.Visualizer
