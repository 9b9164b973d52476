import ObjectView.Proofs.Object.Recognition
import ObjectView.Proofs.Visualizer.Course

/-!
# What a request comes to

A request either passes all stages, and then the evaluator's node is its answer as it is, or it is
answered by the one node that says that there is no view.  The evaluator is asked for a node at
most once, and everything it is told is laid down by the value and by the stages before.
-/

namespace ObjectView.Visualizer

open Hosted Dialogue

/-- What a request is told at its stages, when it passes all of them. -/
structure Passage where
  runtime : Runtime
  address : Address
  evaluator : Evaluator
  typeName : Option String
  object : Object
  native : NativeEvaluator
  node : Node

/-- What the evaluator is asked for at the end.  The policy is that of the value's context. -/
def Passage.request (p : Passage) (v : Value) : ResultRequest where
  context :=
    { session := v.context.session
      runtime := some p.runtime.id
      thread := v.frame.thread
      timeoutMs := v.context.timeoutMs
      evaluationFlags := v.context.evaluationFlags
      callFlags := v.context.callFlags
      radix := v.context.radix
      language := .python }
  frame := v.frame
  parent := none
  view := ⟨"[Python view]", p.object, .property, .privateMember⟩
  nativeEvaluator := p.native
  typeName := p.typeName
  hasNativeView := true

/-- The note that an object was found. -/
def noteFound (object : Object) (address : Address) : Hosted Unit :=
  log .trace Log.Target.visualizer s!"materialized {object.typeName} at {address}"

/-- The request for `v` passes all stages: a runtime is loaded, the value has an address that is
not null, an evaluator serves the process, an object is found, and the native evaluator and the
node are given.  The type name is whatever the stage for it comes to. -/
def Passes (answer : Behaviour) (vis : Visualizer) (v : Value) (p : Passage) (said : Said) :
    Prop :=
  ∃ loaded served named found noted native,
    Says answer [] (call (.runtime v.process.id)) (some p.runtime) loaded ∧
    v.home = .pointer p.address ∧ p.address ≠ .null ∧
    Says answer loaded (call (.evaluator v.process.id)) (some p.evaluator) served ∧
    Says answer served (Hosted.typeName vis.hasSymbols v) p.typeName named ∧
    Says answer named (ofReading v.process (Object.find v.process p.address).run)
      (.ok (some p.object)) found ∧
    Says answer found (noteFound p.object p.address) () noted ∧
    Says answer noted (call (.nativeEvaluator p.evaluator v.context v.frame)) (.ok p.native)
      native ∧
    Says answer native (call (.createResult p.evaluator (p.request v))) (.ok p.node) said

variable {answer : Behaviour} {vis : Visualizer} {v : Value} {said : Hosted.Said}

/-! ## The course of a request that passes -/

/-- What is said to get to the object. -/
def Passage.way (p : Passage) : Approach :=
  ⟨p.runtime, p.address, p.evaluator, p.typeName⟩

/-- What is said once the object is found. -/
def Passage.last (p : Passage) (v : Value) : List Spoken :=
  [noted .trace s!"materialized {p.object.typeName} at {p.way.address}",
    ⟨.nativeEvaluator p.way.evaluator v.context v.frame, .ok p.native⟩,
    ⟨.createResult p.way.evaluator (p.way.request v p.object p.native), .ok p.node⟩]

theorem says_call_iff {before after : Said} {c : Call} {found : c.Answer} :
    Says answer before (call c) found after ↔
      answer before c = found ∧ after = ⟨c, found⟩ :: before :=
  says_put_iff

/-- A request passes if it takes the course to a node. -/
theorem passes_iff {p : Passage} :
    Passes answer vis v p said ↔
      ∃ front, p.way.Said vis v (.ok (some p.object)) front ∧
        said = (front ++ p.last v).reverse ∧ Follows answer [] (front ++ p.last v) := by
  constructor
  · rintro ⟨_, _, _, _, _, _, hruntime, hhome, hnull, hevaluator, hname, hfind, hnote, hnative,
      hcreate⟩
    obtain ⟨hloaded, rfl⟩ := says_call_iff.1 hruntime
    obtain ⟨hserved, rfl⟩ := says_call_iff.1 hevaluator
    obtain ⟨named, rfl, hnamed, hfollowsNamed⟩ := says_iff_runs.1 hname
    obtain ⟨read, rfl, hread, hfollowsRead⟩ := says_iff_runs.1 hfind
    obtain ⟨-, rfl⟩ := says_call_iff.1 hnote
    obtain ⟨hgranted, rfl⟩ := says_call_iff.1 hnative
    obtain ⟨hcreated, rfl⟩ := says_call_iff.1 hcreate
    refine ⟨_, Approach.said_iff.2 ⟨named, read, hhome, hnull, hnamed, hread, rfl⟩, ?_, ?_⟩
    · simp only [List.reverse_append, List.append_assoc]
      rfl
    · simp only [follows_append_iff, List.reverse_append, List.append_nil]
      exact ⟨⟨⟨⟨hloaded.symm, hserved.symm, trivial⟩, hfollowsNamed⟩, hfollowsRead⟩, rfl,
        hgranted.symm, hcreated.symm, trivial⟩
  · rintro ⟨front, approach, rfl, hfollows⟩
    obtain ⟨named, read, hhome, hnull, hnamed, hread, rfl⟩ := Approach.said_iff.1 approach
    simp only [follows_append_iff, List.reverse_append, List.append_nil] at hfollows
    obtain ⟨⟨⟨⟨hruntime, hevaluator, -⟩, hname⟩, hfind⟩, -, hnative, hcreate, -⟩ := hfollows
    refine ⟨_, _, _, _, _, _, says_call_iff.2 ⟨hruntime.symm, rfl⟩, hhome, hnull,
      says_call_iff.2 ⟨hevaluator.symm, rfl⟩, says_iff_runs.2 ⟨named, rfl, hnamed, hname⟩,
      says_iff_runs.2 ⟨read, rfl, hread, hfind⟩, says_call_iff.2 ⟨rfl, rfl⟩,
      says_call_iff.2 ⟨hnative.symm, rfl⟩, says_call_iff.2 ⟨hcreate.symm, ?_⟩⟩
    simp only [List.reverse_append, List.append_assoc]
    rfl

theorem says_render_iff {node : Node} :
    Says answer [] (vis.render v).run (some node) said ↔
      ∃ p, Passes answer vis v p said ∧ p.node = node := by
  rw [says_iff_runs]
  constructor
  · rintro ⟨heard, rfl, hruns, hfollows⟩
    obtain ⟨ending, course, hnode⟩ := runs_render_iff.1 hruns
    cases course with
    | @node way front object native n approach =>
        obtain rfl : node = n := Option.some.inj hnode
        let p : Passage :=
          ⟨way.runtime, way.address, way.evaluator, way.typeName, object, native, node⟩
        have hpasses : Passes answer vis v p (front ++ p.last v).reverse :=
          passes_iff.2 ⟨front, approach, rfl, hfollows⟩
        rw [List.append_nil]
        exact ⟨p, hpasses, rfl⟩
    | _ => cases hnode
  · rintro ⟨p, hp, rfl⟩
    obtain ⟨front, approach, rfl, hfollows⟩ := passes_iff.1 hp
    have hcourse : Course vis v (.node p.node) (front ++ p.last v) := .node approach
    exact ⟨_, (List.append_nil _).symm, runs_render_iff.2 ⟨_, hcourse, rfl⟩, hfollows⟩

/-! ## How often the evaluator is asked -/

/-- The requests for a node that were made, with their answers, latest first. -/
def results (said : Said) : List (Evaluator × ResultRequest × Except BridgeError Node) :=
  said.filterMap fun
    | ⟨.createResult evaluator request, found⟩ => some (evaluator, request, found)
    | _ => none

theorem results_append_of_preparation {new before : Said} (h : ∀ x ∈ new, IsPreparation x.1) :
    results (new ++ before) = results before := by
  rw [results, List.filterMap_append, List.filterMap_eq_nil_iff.2, List.nil_append]
  · rfl
  · rintro ⟨c, found⟩ hx
    cases c with
    | createResult evaluator request => exact (h _ hx).elim
    | _ => rfl

theorem mem_results {evaluator : Evaluator} {request : ResultRequest}
    {found : Except BridgeError Node} :
    (evaluator, request, found) ∈ results said ↔
      ⟨.createResult evaluator request, found⟩ ∈ said := by
  rw [results, List.mem_filterMap]
  constructor
  · rintro ⟨⟨c, given⟩, hmem, hc⟩
    cases c with
    | createResult evaluator' request' =>
        cases hc
        exact hmem
    | _ => cases hc
  · intro hmem
    exact ⟨_, hmem, rfl⟩

theorem Naming.isPreparation {name : Option String} {symbols : List Spoken}
    (naming : Naming vis v name symbols) : ∀ x ∈ symbols, IsPreparation x.1 := by
  cases naming <;> simp [IsPreparation]

/-- On the way to the object no node is asked for. -/
theorem Approach.Said.isPreparation {way : Approach} {found : Except ObjectError (Option Object)}
    {front : List Spoken} (approach : way.Said vis v found front) :
    ∀ x ∈ front, IsPreparation x.1 := by
  obtain @⟨symbols, _, reads, -, -, naming, -⟩ := approach
  have hreads : ∀ x ∈ reads.map (inProcess v.process), IsPreparation x.1 := by
    intro x hx
    obtain ⟨read, -, rfl⟩ := List.mem_map.1 hx
    trivial
  simp only [List.forall_mem_append, List.forall_mem_cons]
  exact ⟨⟨⟨trivial, trivial, List.forall_mem_nil _⟩, naming.isPreparation, trivial,
    List.forall_mem_nil _⟩, hreads⟩

theorem results_of_passes {p : Passage} (h : Passes answer vis v p said) :
    results said = [(p.evaluator, p.request v, .ok p.node)] := by
  obtain ⟨front, approach, rfl, -⟩ := passes_iff.1 h
  have hfront : results front.reverse = [] := by
    rw [← List.append_nil front.reverse, results_append_of_preparation]
    · rfl
    · intro x hx
      exact approach.isPreparation x (List.mem_reverse.1 hx)
  rw [List.reverse_append]
  exact congrArg (_ :: ·) hfront

theorem converse_evaluate (answer : Behaviour) (vis : Visualizer) (v : Value) :
    (vis.evaluate v).converse answer [] =
      (((vis.render v).run.converse answer []).1.getD (.unavailable v.context v.frame),
        ((vis.render v).run.converse answer []).2) := by
  rw [evaluate, converse_bind]
  rfl

theorem converse_defaultBehavior (answer : Behaviour) (vis : Visualizer) (v : Value) :
    (vis.defaultBehavior v).converse answer [] =
      (match ((vis.render v).run.converse answer []).1 with
        | some node => .ok (true, node)
        | none => .error (.notSupported s!"no Python view for value at {v.home.describe}"),
        ((vis.render v).run.converse answer []).2) := by
  rw [defaultBehavior, converse_bind]
  cases ((vis.render v).run.converse answer []).1 <;> rfl

theorem render_of_passes {p : Passage} (h : Passes answer vis v p said) :
    (vis.render v).run.converse answer [] = (some p.node, said) :=
  says_render_iff.2 ⟨p, h, rfl⟩

/-- A course that does not end with a node was not given one by anyone. -/
theorem Course.not_created {ending : Ending} {heard : List Spoken}
    (course : Course vis v ending heard) (h : ending.node? = none) {evaluator : Evaluator}
    {request : ResultRequest} {node : Node} :
    ⟨.createResult evaluator request, .ok node⟩ ∉ heard := by
  have hreported (message : String) : ⟨.createResult evaluator request, .ok node⟩ ≠
      vis.reported message := by
    rw [reported]
    split
    all_goals
      intro h
      cases h
  have hnoted (level : Log.Level) (message : String) :
      ⟨.createResult evaluator request, .ok node⟩ ≠ noted level message := by
    intro h
    cases h
  intro hmem
  cases course with
  | node => cases h
  | nothing approach => exact approach.isPreparation _ hmem
  | noRuntime | null | notPointer | noEvaluator =>
      simp [hreported, hnoted] at hmem
  | noObject approach | noNative approach | noNode approach =>
      obtain hmem | hmem := List.mem_append.1 hmem
      · exact approach.isPreparation _ hmem
      · simp [hnoted] at hmem

/-- A request that does not pass all stages was not given a node by anyone. -/
theorem render_of_not_passes (h : ¬ ∃ p said, Passes answer vis v p said) :
    ∃ said, (vis.render v).run.converse answer [] = (none, said) ∧
      ∀ evaluator request node, (evaluator, request, .ok node) ∉ results said := by
  rcases hrender : (vis.render v).run.converse answer [] with ⟨_ | node, said⟩
  · refine ⟨said, rfl, fun evaluator request node hmem => ?_⟩
    obtain ⟨heard, rfl, hruns, -⟩ := says_iff_runs.1 hrender
    obtain ⟨ending, course, hnone⟩ := runs_render_iff.1 hruns
    rw [List.append_nil, mem_results, List.mem_reverse] at hmem
    exact course.not_created hnone.symm hmem
  · obtain ⟨p, hp, -⟩ := says_render_iff.1 hrender
    exact absurd ⟨p, said, hp⟩ h

/-- A request that passes all stages is answered by the evaluator's node as it is, which was asked
for once, and with exactly this request.  Any other is answered by the node that says that there is
no view, or refused, and was given no node.  Both operations say the same. -/
theorem request_outcome (answer : Behaviour) (vis : Visualizer) (v : Value) :
    let evaluated := (vis.evaluate v).converse answer []
    let shown := (vis.defaultBehavior v).converse answer []
    shown.2 = evaluated.2 ∧
      (∀ p said, Passes answer vis v p said →
        evaluated = (p.node, said) ∧ shown.1 = .ok (true, p.node) ∧
          results said = [(p.evaluator, p.request v, .ok p.node)]) ∧
      ((¬ ∃ p said, Passes answer vis v p said) →
        evaluated.1 = .failed ⟨"[Python view]", "Python view is unavailable for this object",
          .invalid, v.context, v.frame⟩ ∧
        shown.1 = .error (.notSupported s!"no Python view for value at {v.home.describe}")) ∧
      ((∃ evaluator request, (evaluator, request, .ok evaluated.1) ∈ results evaluated.2) ↔
        ∃ p said, Passes answer vis v p said) := by
  intro evaluated shown
  have hevaluated : evaluated = _ := converse_evaluate answer vis v
  have hshown : shown = _ := converse_defaultBehavior answer vis v
  refine ⟨?_, fun p said hp => ?_, fun hnone => ?_, ?_, ?_⟩
  · rw [hshown, hevaluated]
  · rw [hshown, hevaluated, render_of_passes hp]
    exact ⟨rfl, rfl, results_of_passes hp⟩
  · obtain ⟨said, hrender, -⟩ := render_of_not_passes hnone
    rw [hshown, hevaluated, hrender]
    exact ⟨rfl, rfl⟩
  · rintro ⟨evaluator, request, hmem⟩
    apply Classical.byContradiction
    intro hnone
    obtain ⟨said, hrender, hnode⟩ := render_of_not_passes hnone
    rw [hevaluated, hrender] at hmem
    exact hnode _ _ _ hmem
  · rintro ⟨p, said, hp⟩
    rw [hevaluated, render_of_passes hp]
    refine ⟨p.evaluator, p.request v, ?_⟩
    rw [results_of_passes hp]
    exact List.mem_singleton.2 rfl

/-- A host of processes with a dictionary in memory, and of an evaluator that shows objects by
their type. -/
def dictionaryHost : Behaviour
  | _, .runtime process => some ⟨⟨1⟩, process⟩
  | _, .evaluator _ => some ⟨1⟩
  | _, .findSymbol _ => none
  | _, .symbolName _ => none
  | _, .releaseSymbol _ => ()
  | _, .readMemory _ request => Object.dictionary.answer request
  | _, .nativeEvaluator _ _ _ => .ok ⟨1⟩
  | _, .createResult _ request => .ok <| .success ⟨request.view.name, request.view.object.typeName,
      request.typeName, some request.view.object.address, request.view.category,
      request.view.access, .expandable, request.context, request.frame⟩
  | _, .showViewNodes _ => true
  | _, .report _ => ()
  | _, .log _ => ()

/-- A variable that holds an address. -/
def pointerVariable (a : Address) : Value where
  process := ⟨⟨1⟩, .x86_64⟩
  frame := ⟨⟨1⟩, ⟨2⟩, 0, ⟨0x4000⟩⟩
  context := .native ⟨3⟩ ⟨2⟩
  home := .pointer a
  origin := .root none

/-- The node that `dictionaryHost` shows for its dictionary. -/
def dictionaryNode : Node :=
  .success ⟨"[Python view]", "dict", none, some ⟨0x1000⟩, .property, .privateMember, .expandable,
    (Context.native ⟨3⟩ ⟨2⟩).secondary ⟨3⟩ ⟨⟨1⟩, ⟨1⟩⟩ ⟨2⟩, ⟨⟨1⟩, ⟨2⟩, 0, ⟨0x4000⟩⟩⟩

theorem request_outcome_dictionary :
    (∃ p said, Passes dictionaryHost {} (pointerVariable ⟨0x1000⟩) p said ∧
      p.node = dictionaryNode ∧
      (evaluate {} (pointerVariable ⟨0x1000⟩)).converse dictionaryHost [] = (p.node, said)) ∧
    (¬ ∃ p said, Passes dictionaryHost {} (pointerVariable .null) p said) ∧
      ((evaluate {} (pointerVariable .null)).converse dictionaryHost []).1 =
        .unavailable (.native ⟨3⟩ ⟨2⟩) ⟨⟨1⟩, ⟨2⟩, 0, ⟨0x4000⟩⟩ := by
  constructor
  · have hrender : ((render {} (pointerVariable ⟨0x1000⟩)).run.converse dictionaryHost []).1 =
        some dictionaryNode := by
      decide +kernel
    obtain ⟨p, hp, hnode⟩ := says_render_iff.1 (Prod.ext hrender rfl)
    have hpassed := (request_outcome dictionaryHost {} (pointerVariable ⟨0x1000⟩)).2.1 p _ hp
    exact ⟨p, _, hp, hnode, hpassed.1⟩
  · have hnone : ¬ ∃ p said, Passes dictionaryHost {} (pointerVariable .null) p said := by
      rintro ⟨p, said, _, _, _, _, _, _, -, hhome, hnull, -⟩
      exact hnull (Home.pointer.inj hhome).symm
    have hfailed := (request_outcome dictionaryHost {} (pointerVariable .null)).2.2.1 hnone
    exact ⟨hnone, hfailed.1⟩

end ObjectView.Visualizer
