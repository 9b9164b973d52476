import ObjectView.Proofs.Visualizer.Stages

/-!
# The course of a request

All that a request says, from its first question to its last, with the events it logs.  A request
takes one of nine courses, each the beginning of the one that ends with a node, but for the note or
the report of what kept it from going on.

In the whole of it, the host is asked for a runtime and for an evaluator, a symbol is found, named
and given back, the object is read, and the evaluator is asked for an evaluator of native
expressions and for a node.
-/

namespace ObjectView.Visualizer

open Hosted Dialogue

/-- What a request is told on its way to the object. -/
structure Approach where
  runtime : Runtime
  address : Address
  evaluator : Evaluator
  typeName : Option String

/-- What is said on the way to the object, up to the reads that tell whether there is one. -/
inductive Approach.Said (vis : Visualizer) (v : Value) (way : Approach) :
    Except ObjectError (Option Object) → List Spoken → Prop
  | intro {symbols : List Spoken} {found : Except ObjectError (Option Object)}
      {reads : List (Exchange Memory.Request Memory.Request.Answer)}
      (home : v.home = .pointer way.address) (notNull : way.address ≠ .null)
      (naming : Naming vis v way.typeName symbols)
      (search : Runs (Object.find v.process way.address).run reads found) :
      Said vis v way found
        ([⟨.runtime v.process.id, some way.runtime⟩,
            ⟨.evaluator v.process.id, some way.evaluator⟩] ++
          (symbols ++ [resolved way.typeName]) ++ reads.map (inProcess v.process))

/-- The request for a node at the end of the way. -/
def Approach.request (way : Approach) (v : Value) (object : Object) (native : NativeEvaluator) :
    ResultRequest :=
  resultRequest v object (v.context.secondary v.context.session way.runtime v.frame.thread)
    way.typeName native

/-- Where a request ends. -/
inductive Ending
  | noRuntime
  | notPointer (kind : String)
  | null
  | noEvaluator
  | nothing
  | noObject (e : ObjectError)
  | noNative (e : BridgeError)
  | noNode (e : BridgeError)
  | node (n : Node)

/-- The node that a request ends with. -/
def Ending.node? : Ending → Option Node
  | node n => some n
  | _ => none

/-- What a request says until it ends, earliest first. -/
inductive Course (vis : Visualizer) (v : Value) : Ending → List Spoken → Prop
  | noRuntime :
      Course vis v .noRuntime
        [⟨.runtime v.process.id, none⟩,
          noted .trace s!"no Python runtime in process {v.process.id}"]
  | notPointer {runtime : Runtime} {kind : String} (home : v.home = .other kind) :
      Course vis v (.notPointer kind)
        [⟨.runtime v.process.id, some runtime⟩,
          vis.reported s!"expected a pointer value home, got {kind}"]
  | null {runtime : Runtime} (home : v.home = .pointer .null) :
      Course vis v .null [⟨.runtime v.process.id, some runtime⟩]
  | noEvaluator {runtime : Runtime} {address : Address} (home : v.home = .pointer address)
      (notNull : address ≠ .null) :
      Course vis v .noEvaluator
        [⟨.runtime v.process.id, some runtime⟩, ⟨.evaluator v.process.id, none⟩,
          vis.reported s!"process {v.process.id} has a Python runtime but no expression evaluator"]
  | nothing {way : Approach} {said : List Spoken} (approach : way.Said vis v (.ok none) said) :
      Course vis v .nothing said
  | noObject {way : Approach} {said : List Spoken} {e : ObjectError}
      (approach : way.Said vis v (.error e) said) :
      Course vis v (.noObject e) (said ++ [noted .debug s!"not a Python object: {e.message}"])
  | noNative {way : Approach} {said : List Spoken} {object : Object} {e : BridgeError}
      (approach : way.Said vis v (.ok (some object)) said) :
      Course vis v (.noNative e)
        (said ++ [noted .trace s!"materialized {object.typeName} at {way.address}",
          ⟨.nativeEvaluator way.evaluator v.context v.frame, .error e⟩,
          noted .debug s!"native evaluator unavailable: {e.message}"])
  | noNode {way : Approach} {said : List Spoken} {object : Object} {native : NativeEvaluator}
      {e : BridgeError} (approach : way.Said vis v (.ok (some object)) said) :
      Course vis v (.noNode e)
        (said ++ [noted .trace s!"materialized {object.typeName} at {way.address}",
          ⟨.nativeEvaluator way.evaluator v.context v.frame, .ok native⟩,
          ⟨.createResult way.evaluator (way.request v object native), .error e⟩,
          noted .debug s!"Python view bridge failed: {e.message}"])
  | node {way : Approach} {said : List Spoken} {object : Object} {native : NativeEvaluator}
      {n : Node} (approach : way.Said vis v (.ok (some object)) said) :
      Course vis v (.node n)
        (said ++ [noted .trace s!"materialized {object.typeName} at {way.address}",
          ⟨.nativeEvaluator way.evaluator v.context v.frame, .ok native⟩,
          ⟨.createResult way.evaluator (way.request v object native), .ok n⟩])

variable {vis : Visualizer} {v : Value} {said : List Spoken}

theorem Approach.said_iff {way : Approach} {found : Except ObjectError (Option Object)} :
    way.Said vis v found said ↔
      ∃ named read, v.home = .pointer way.address ∧ way.address ≠ .null ∧
        Runs (Hosted.typeName vis.hasSymbols v) named way.typeName ∧
        Runs (ofReading v.process (Object.find v.process way.address).run) read found ∧
        said = [⟨.runtime v.process.id, some way.runtime⟩,
          ⟨.evaluator v.process.id, some way.evaluator⟩] ++ named ++ read := by
  constructor
  · rintro @⟨symbols, _, reads, hhome, hnull, hnaming, hreads⟩
    exact ⟨_, _, hhome, hnull, runs_typeName_iff.2 ⟨symbols, hnaming, rfl⟩,
      runs_ofReading_iff.2 ⟨reads, hreads, rfl⟩, rfl⟩
  · rintro ⟨named, read, hhome, hnull, hnamed, hread, rfl⟩
    obtain ⟨symbols, hnaming, rfl⟩ := runs_typeName_iff.1 hnamed
    obtain ⟨reads, hreads, rfl⟩ := runs_ofReading_iff.1 hread
    exact .intro hhome hnull hnaming hreads

/-- What the last two stages say goes on behind what is said up to the evaluator and the type
name. -/
theorem Approach.Said.runs_render {way : Approach} {result : Except ObjectError (Option Object)}
    (approach : way.Said vis v result said) :
    ∃ reads, Runs (Object.find v.process way.address).run reads result ∧
      ∃ first, said = first ++ reads.map (inProcess v.process) ∧
        ∀ {rest found},
          Runs (materialize v way.address >>= fun object => bridge way.evaluator v object
            (v.context.secondary v.context.session way.runtime v.frame.thread)
            way.typeName).run rest found →
          Runs (vis.render v).run (first ++ rest) found := by
  obtain @⟨symbols, _, reads, hhome, hnull, hnaming, hreads⟩ := approach
  refine ⟨reads, hreads, _, rfl, fun {rest found} hrest => ?_⟩
  have hname := runs_typeName_iff.2 ⟨symbols, hnaming, rfl⟩
  rw [render, runs_stage_bind_iff fun _ _ => runs_gate_iff]
  refine .inr ⟨way.runtime, [⟨.runtime v.process.id, some way.runtime⟩],
    ⟨.evaluator v.process.id, some way.evaluator⟩ :: (symbols ++ [resolved way.typeName] ++ rest),
    rfl, rfl, ?_⟩
  rw [runs_stage_bind_iff fun _ _ => runs_locate_iff]
  refine .inr ⟨way.address, [], _, rfl, ⟨hhome, hnull, rfl⟩, ?_⟩
  rw [runs_stage_bind_iff fun _ _ => runs_service_iff]
  refine .inr ⟨way.evaluator, [_], _, rfl, rfl, runs_lift_bind_iff.2 ?_⟩
  exact ⟨way.typeName, _, rest, rfl, hname, hrest⟩

theorem Approach.Said.runs_render_of_bridge {way : Approach} {object : Object}
    {rest : List Spoken} {found : Option Node} (approach : way.Said vis v (.ok (some object)) said)
    (hrest : Runs (bridge way.evaluator v object
      (v.context.secondary v.context.session way.runtime v.frame.thread)
      way.typeName).run rest found) :
    Runs (vis.render v).run
      (said ++ noted .trace s!"materialized {object.typeName} at {way.address}" :: rest) found := by
  obtain ⟨reads, hreads, first, rfl, hback⟩ := approach.runs_render
  rw [List.append_assoc]
  apply hback
  rw [runs_stage_bind_iff fun _ _ => runs_materialize_iff]
  exact .inr ⟨object, _, rest, List.append_cons .., ⟨reads, hreads, rfl⟩, hrest⟩

/-- All stages together take exactly the courses of a request. -/
theorem runs_render_iff {found : Option Node} :
    Runs (vis.render v).run said found ↔
      ∃ ending, Course vis v ending said ∧ found = ending.node? := by
  constructor
  · intro hrun
    rw [render, runs_stage_bind_iff fun _ _ => runs_gate_iff] at hrun
    obtain ⟨rfl, rfl⟩ | ⟨runtime, _, rest, rfl, rfl, hlocate⟩ := hrun
    · exact ⟨.noRuntime, .noRuntime, rfl⟩
    rw [runs_stage_bind_iff fun _ _ => runs_locate_iff] at hlocate
    obtain ⟨⟨hhome, rfl⟩ | ⟨kind, hhome, rfl⟩, rfl⟩ |
      ⟨address, _, rest, rfl, ⟨hhome, hnull, rfl⟩, hservice⟩ := hlocate
    · exact ⟨.null, .null hhome, rfl⟩
    · exact ⟨.notPointer kind, .notPointer hhome, rfl⟩
    rw [runs_stage_bind_iff fun _ _ => runs_service_iff] at hservice
    obtain ⟨rfl, rfl⟩ | ⟨evaluator, _, rest, rfl, rfl, htyped⟩ := hservice
    · exact ⟨.noEvaluator, .noEvaluator hhome hnull, rfl⟩
    obtain ⟨typeName, named, rest, rfl, hname, hobject⟩ := runs_lift_bind_iff.1 htyped
    obtain ⟨symbols, hnaming, rfl⟩ := runs_typeName_iff.1 hname
    have approach {found reads} (hreads : Runs (Object.find v.process address).run reads found) :
        Approach.Said vis v ⟨runtime, address, evaluator, typeName⟩ found _ :=
      .intro hhome hnull hnaming hreads
    rw [runs_stage_bind_iff fun _ _ => runs_materialize_iff] at hobject
    obtain ⟨⟨reads, hreads, rfl⟩ | ⟨reads, e, hreads, rfl⟩, rfl⟩ |
      ⟨object, _, rest, rfl, ⟨reads, hreads, rfl⟩, hbridge⟩ := hobject
    · refine ⟨.nothing, ?_, rfl⟩
      simpa using Course.nothing (approach hreads)
    · refine ⟨.noObject e, ?_, rfl⟩
      simpa using Course.noObject (approach hreads)
    obtain ⟨e, rfl, rfl⟩ | ⟨native, e, rfl, rfl⟩ | ⟨native, n, rfl, rfl⟩ :=
      runs_bridge_iff.1 hbridge
    · refine ⟨.noNative e, ?_, rfl⟩
      simpa using Course.noNative (approach hreads)
    · refine ⟨.noNode e, ?_, rfl⟩
      simpa [Approach.request] using Course.noNode (approach hreads)
    · refine ⟨.node n, ?_, rfl⟩
      simpa [Approach.request] using Course.node (approach hreads)
  · rintro ⟨ending, hcourse, rfl⟩
    cases hcourse with
    | noRuntime =>
        rw [render, runs_stage_bind_iff fun _ _ => runs_gate_iff]
        exact .inl ⟨rfl, rfl⟩
    | @notPointer runtime kind home =>
        rw [render, runs_stage_bind_iff fun _ _ => runs_gate_iff]
        refine .inr ⟨runtime, [_], _, rfl, rfl, ?_⟩
        rw [runs_stage_bind_iff fun _ _ => runs_locate_iff]
        exact .inl ⟨.inr ⟨kind, home, rfl⟩, rfl⟩
    | @null runtime home =>
        rw [render, runs_stage_bind_iff fun _ _ => runs_gate_iff]
        refine .inr ⟨runtime, [_], _, rfl, rfl, ?_⟩
        rw [runs_stage_bind_iff fun _ _ => runs_locate_iff]
        exact .inl ⟨.inl ⟨home, rfl⟩, rfl⟩
    | @noEvaluator runtime address home notNull =>
        rw [render, runs_stage_bind_iff fun _ _ => runs_gate_iff]
        refine .inr ⟨runtime, [_], _, rfl, rfl, ?_⟩
        rw [runs_stage_bind_iff fun _ _ => runs_locate_iff]
        refine .inr ⟨address, [], _, rfl, ⟨home, notNull, rfl⟩, ?_⟩
        rw [runs_stage_bind_iff fun _ _ => runs_service_iff]
        exact .inl ⟨rfl, rfl⟩
    | nothing approach =>
        obtain ⟨reads, hreads, first, rfl, hback⟩ := approach.runs_render
        apply hback
        rw [runs_stage_bind_iff fun _ _ => runs_materialize_iff]
        exact .inl ⟨.inl ⟨reads, hreads, rfl⟩, rfl⟩
    | @noObject way said e approach =>
        obtain ⟨reads, hreads, first, rfl, hback⟩ := approach.runs_render
        rw [List.append_assoc]
        apply hback
        rw [runs_stage_bind_iff fun _ _ => runs_materialize_iff]
        exact .inl ⟨.inr ⟨reads, e, hreads, rfl⟩, rfl⟩
    | noNative approach =>
        exact approach.runs_render_of_bridge (runs_bridge_iff.2 (.inl ⟨_, rfl, rfl⟩))
    | noNode approach =>
        exact approach.runs_render_of_bridge (runs_bridge_iff.2 (.inr (.inl ⟨_, _, rfl, rfl⟩)))
    | node approach =>
        exact approach.runs_render_of_bridge (runs_bridge_iff.2 (.inr (.inr ⟨_, _, rfl, rfl⟩)))

end ObjectView.Visualizer
