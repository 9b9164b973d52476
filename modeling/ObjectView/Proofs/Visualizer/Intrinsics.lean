import Mathlib.Logic.Function.Basic
import ObjectView.DisplayOptions
import ObjectView.Proofs.SideBySide
import ObjectView.Proofs.Visualizer.Reports

/-!
# Intrinsics in a session

A visualizer serves requests for as long as its host lives, and meanwhile runtimes are loaded and
unloaded, the display options are switched, and the rest of the host changes too.  The intrinsic for
view nodes tells of two of these only: of the last runtime in the process and of the last switch.
The visualizer itself carries nothing over from one request to the next.
-/

namespace ObjectView.Visualizer

open Hosted Dialogue

/-- What a request finds at a moment.  The rest of the host answers what is not asked about options
or runtimes, and may remember everything that was said. -/
structure Settings where
  options : OptionsSource → DisplayOptions
  runtimes : ProcessId → Option Runtime
  rest : Behaviour

def Settings.host (s : Settings) : Behaviour
  | _, .runtime process => s.runtimes process
  | _, .showViewNodes source => (s.options source).showViewNodes
  | said, c => s.rest said c

inductive Act
  | switch (source : OptionsSource) (isShown : Bool)
  | load (process : ProcessId) (runtime : Runtime)
  | unload (process : ProcessId)
  | change (rest : Behaviour)
  | request (r : Request)

namespace Act

def isRequest : Act → Bool
  | request _ => true
  | _ => false

/-- What some options are switched to. -/
def switched? (source : OptionsSource) : Act → Option Bool
  | switch source' isShown => if source' = source then some isShown else none
  | _ => none

/-- What is in a process from now on. -/
def loaded? (process : ProcessId) : Act → Option (Option Runtime)
  | load process' runtime => if process' = process then some (some runtime) else none
  | unload process' => if process' = process then some none else none
  | _ => none

def withoutArguments : Act → Act
  | request (.execute r) => request (.execute { r with arguments := [] })
  | act => act

end Act

def withoutRequests (acts : List Act) : List Act :=
  acts.filter fun act => !act.isRequest

def Settings.next (s : Settings) : Act → Settings
  | .switch source isShown =>
      let switched := (s.options source).setShowViewNodes isShown
      { s with options := Function.update s.options source switched }
  | .load process runtime =>
      { s with runtimes := Function.update s.runtimes process (some runtime) }
  | .unload process => { s with runtimes := Function.update s.runtimes process none }
  | .change rest => { s with rest }
  | .request _ => s

structure Session where
  settings : Settings
  said : Said

namespace Session

def reply (vis : Visualizer) (s : Session) (r : Request) : r.Answer :=
  ((vis.serve r).converse s.settings.host s.said).1

/-- What was said behind an act. -/
def saidBehind (vis : Visualizer) (s : Session) : Act → Said
  | .request r => ((vis.serve r).converse s.settings.host s.said).2
  | _ => s.said

def next (vis : Visualizer) (s : Session) (act : Act) : Session :=
  ⟨s.settings.next act, s.saidBehind vis act⟩

def after (vis : Visualizer) (s : Session) (acts : List Act) : Session :=
  acts.foldl (next vis) s

/-- The rest of the host goes on alike from two sessions. -/
def AnswersAlike (s s' : Session) : Prop :=
  ∀ later c, s.settings.rest (later ++ s.said) c = s'.settings.rest (later ++ s'.said) c

/-- Whether the options last said to show view nodes. -/
def isShownAfter (s : Session) (source : OptionsSource) (acts : List Act) : Bool :=
  (acts.filterMap (Act.switched? source)).getLastD (s.settings.options source).showViewNodes

/-- The runtime that was last loaded in a process, unless it was unloaded. -/
def runtimeAfter (s : Session) (process : ProcessId) (acts : List Act) : Option Runtime :=
  (acts.filterMap (Act.loaded? process)).getLastD (s.settings.runtimes process)

end Session

variable {vis : Visualizer}

/-! ## Settings -/

theorem update_eq_getD {ι α : Type} [DecidableEq ι] (f : ι → α) (i j : ι) (a : α) :
    Function.update f i a j = (if i = j then some a else none).getD (f j) := by
  by_cases h : i = j
  · subst h
    rw [Function.update_self, if_pos rfl, Option.getD_some]
  · rw [Function.update_of_ne (Ne.symm h), if_neg h, Option.getD_none]

theorem Settings.showViewNodes_next (s : Settings) (source : OptionsSource) (act : Act) :
    ((s.next act).options source).showViewNodes =
      (act.switched? source).getD (s.options source).showViewNodes := by
  cases act with
  | switch source' isShown =>
      have hupdate := update_eq_getD s.options source' source
        ((s.options source').setShowViewNodes isShown)
      apply (congrArg DisplayOptions.showViewNodes hupdate).trans
      rw [Act.switched?]
      by_cases hsource : source' = source
      · rw [if_pos hsource, if_pos hsource]
        rfl
      · rw [if_neg hsource, if_neg hsource]
        rfl
  | _ => rfl

theorem Settings.runtimes_next (s : Settings) (process : ProcessId) (act : Act) :
    (s.next act).runtimes process = (act.loaded? process).getD (s.runtimes process) := by
  cases act with
  | load process' runtime => exact update_eq_getD s.runtimes process' process (some runtime)
  | unload process' => exact update_eq_getD s.runtimes process' process none
  | _ => rfl

/-- The last of some values, where an act may bring another one. -/
theorem getLastD_filterMap_cons {α β : Type} (f : α → Option β) (a : α) (rest : List α) (b : β) :
    ((a :: rest).filterMap f).getLastD b = (rest.filterMap f).getLastD ((f a).getD b) := by
  cases hfound : f a with
  | none => rw [List.filterMap_cons_none hfound, Option.getD_none]
  | some found => rw [List.filterMap_cons_some hfound, List.getLastD_cons, Option.getD_some]

namespace Session

theorem showViewNodes_after (s : Session) (source : OptionsSource) (acts : List Act) :
    ((s.after vis acts).settings.options source).showViewNodes = s.isShownAfter source acts := by
  induction acts generalizing s with
  | nil => rfl
  | cons act rest ih =>
      rw [isShownAfter, getLastD_filterMap_cons, ← Settings.showViewNodes_next]
      exact ih (s.next vis act)

theorem runtimes_after (s : Session) (process : ProcessId) (acts : List Act) :
    (s.after vis acts).settings.runtimes process = s.runtimeAfter process acts := by
  induction acts generalizing s with
  | nil => rfl
  | cons act rest ih =>
      rw [runtimeAfter, getLastD_filterMap_cons, ← Settings.runtimes_next]
      exact ih (s.next vis act)

/-- Requests change nothing that a later request finds, but for what was said. -/
theorem settings_after (s : Session) (acts : List Act) :
    (s.after vis acts).settings = (withoutRequests acts).foldl Settings.next s.settings := by
  induction acts generalizing s with
  | nil => rfl
  | cons act rest ih =>
      have hrest := ih (s.next vis act)
      cases act with
      | request r => exact hrest
      | _ => exact hrest

theorem settings_after_requests (s : Session) (requests : List Request) :
    (s.after vis (requests.map .request)).settings = s.settings := by
  have hnone : withoutRequests (requests.map Act.request) = [] := by
    rw [withoutRequests, List.filter_eq_nil_iff]
    intro act hact
    obtain ⟨r, -, rfl⟩ := List.mem_map.1 hact
    exact Bool.false_ne_true
  rw [settings_after, hnone, List.foldl_nil]

theorem settings_after_congr (s : Session) {acts acts' : List Act}
    (same : withoutRequests acts' = withoutRequests acts) :
    (s.after vis acts').settings = (s.after vis acts).settings := by
  rw [settings_after, settings_after, same]

theorem after_append (s : Session) (first last : List Act) :
    s.after vis (first ++ last) = (s.after vis first).after vis last :=
  List.foldl_append

theorem next_withoutArguments (s : Session) (act : Act) :
    s.next vis act.withoutArguments = s.next vis act := by
  cases act with
  | request r =>
      cases r with
      | execute request => rfl
      | _ => rfl
  | _ => rfl

theorem after_withoutArguments (s : Session) (acts : List Act) :
    s.after vis (acts.map Act.withoutArguments) = s.after vis acts := by
  induction acts generalizing s with
  | nil => rfl
  | cons act rest ih =>
      rw [List.map_cons, after, List.foldl_cons, next_withoutArguments]
      exact ih (s.next vis act)

end Session

/-! ## Replies -/

theorem reply_eq_of_alike {s s' : Session} (settings : s.settings = s'.settings)
    (alike : s.AnswersAlike s') (r : Request) : s.reply vis r = s'.reply vis r := by
  apply fst_converse_eq_of_alike
  intro later c
  have hrest := alike later c
  rw [settings] at hrest ⊢
  cases c with
  | runtime process => rfl
  | showViewNodes source => rfl
  | _ => exact hrest

theorem reply_execute (s : Session) (request : IntrinsicRequest) :
    s.reply vis (.execute request) =
      if request.id = 1 then
        .ok (.ofFlag request.source ((s.settings.runtimes request.frame.process).isSome &&
          (s.settings.options vis.options).showViewNodes))
      else .error (.unknownIntrinsic request.id) := by
  rw [Session.reply, serve, execute, Intrinsic.ofId?]
  by_cases hid : request.id = 1
  · rw [if_pos hid, if_pos hid]
    have hruntime : s.settings.host s.said (.runtime request.frame.process) =
        s.settings.runtimes request.frame.process := rfl
    cases hloaded : s.settings.runtimes request.frame.process with
    | none => simp [call, log, hruntime, hloaded]
    | some runtime => simp [call, log, hloaded, Settings.host]
  · rw [if_neg hid, if_neg hid]
    rfl

theorem reply_evaluate_of_not_loaded {s : Session} {v : Value}
    (notLoaded : s.settings.runtimes v.process.id = none) :
    s.reply vis (.evaluate v) = .unavailable v.context v.frame := by
  have hasks : ∃ resume, vis.evaluate v = ask (.runtime v.process.id) resume ∧
      ∃ event, resume none = ask (.log event) fun _ => done (.unavailable v.context v.frame) :=
    ⟨_, rfl, _, rfl⟩
  obtain ⟨resume, hevaluate, event, hnone⟩ := hasks
  have hruntime : s.settings.host s.said (.runtime v.process.id) = none := notLoaded
  rw [Session.reply, serve, hevaluate, converse_ask, hruntime, hnone]
  rfl

/-- At every moment of a session the intrinsic for view nodes tells whether there is a runtime in
the process of the frame and the options were last switched on.  It tells nothing else, no other
intrinsic is known, and arguments are not looked at.  Where it says no although the options are on,
no value of the process has a view until the next act that is no request.

A request can reach a later one only through what the rest of the host remembers of it, and an
intrinsic not even so. -/
theorem execute_in_session (vis : Visualizer) (start : Session) (acts : List Act)
    (request : IntrinsicRequest) :
    (request.id = 1 → ∃ response,
      (start.after vis acts).reply vis (.execute request) = .ok response ∧
        response.source = request.source ∧ response.bytes.length = 1 ∧
        response.flag? = some ((start.runtimeAfter request.frame.process acts).isSome &&
          start.isShownAfter vis.options acts) ∧
        (response.flag? = some false → start.isShownAfter vis.options acts = true →
          ∀ (v : Value) (requests : List Request), v.process.id = request.frame.process →
            (start.after vis (acts ++ requests.map .request)).reply vis (.evaluate v) =
              .unavailable v.context v.frame)) ∧
    (request.id ≠ 1 →
      (start.after vis acts).reply vis (.execute request) =
        .error (.unknownIntrinsic request.id)) ∧
    (start.after vis (acts.map Act.withoutArguments) = start.after vis acts ∧
      ∀ arguments, (start.after vis acts).reply vis (.execute { request with arguments }) =
        (start.after vis acts).reply vis (.execute request)) ∧
    ∀ acts', withoutRequests acts' = withoutRequests acts →
      (start.after vis acts').reply vis (.execute request) =
          (start.after vis acts).reply vis (.execute request) ∧
        ((start.after vis acts').AnswersAlike (start.after vis acts) →
          ∀ r, (start.after vis acts').reply vis r = (start.after vis acts).reply vis r) := by
  refine ⟨fun hid => ?_, fun hid => ?_, ⟨start.after_withoutArguments acts, fun _ => rfl⟩,
    fun acts' same => ⟨?_, fun alike r => ?_⟩⟩
  · refine ⟨_, (reply_execute _ request).trans (if_pos hid), rfl, rfl, ?_, ?_⟩
    · rw [IntrinsicResponse.flag?_ofFlag, Session.runtimes_after, Session.showViewNodes_after]
    · intro hfalse hshown v requests hv
      apply reply_evaluate_of_not_loaded
      rw [IntrinsicResponse.flag?_ofFlag, Session.showViewNodes_after, hshown, Bool.and_true,
        Option.some.injEq, ← Bool.not_eq_true, Option.not_isSome_iff_eq_none] at hfalse
      rw [Session.after_append, Session.settings_after_requests, hv, hfalse]
  · exact (reply_execute _ request).trans (if_neg hid)
  · rw [reply_execute, reply_execute, start.settings_after_congr same]
  · exact reply_eq_of_alike (start.settings_after_congr same) alike r

/-- A host that remembers nothing. -/
def Forgets (rest : Behaviour) : Prop :=
  ∀ said said' c, rest said c = rest said' c

theorem answersAlike_of_forgets {start : Session} {acts acts' : List Act}
    (same : withoutRequests acts' = withoutRequests acts)
    (forgets : Forgets (start.after vis acts).settings.rest) :
    (start.after vis acts').AnswersAlike (start.after vis acts) := by
  intro later c
  rw [start.settings_after_congr same]
  exact forgets _ _ c

/-- A session in the host of `dictionaryHost`, with options of its own that are off at first. -/
def dictionarySession : Session where
  settings :=
    { options := fun
        | .own => .ofEnvironment (some "off")
        | .shared => {}
      runtimes := fun _ => none
      rest := dictionaryHost }
  said := []

def shownActs : List Act :=
  [.load ⟨1⟩ ⟨⟨1⟩, ⟨1⟩⟩, .request (.evaluate (pointerVariable ⟨0x1000⟩)), .switch .own true]

def intrinsicOf (id : UInt32) : IntrinsicRequest :=
  ⟨id, ⟨9⟩, (pointerVariable .null).frame, [[1]]⟩

/-- Options that are off at first are switched on, and then the runtime is unloaded. -/
theorem execute_in_session_dictionary :
    let vis : Visualizer := { options := .own }
    let shown := dictionarySession.after vis shownActs
    let unloaded := dictionarySession.after vis (shownActs ++ [.unload ⟨1⟩])
    (∃ response, shown.reply vis (.execute (intrinsicOf 1)) = .ok response ∧
      response.flag? = some true) ∧
    (∃ response, unloaded.reply vis (.execute (intrinsicOf 1)) = .ok response ∧
      response.flag? = some false ∧
      unloaded.reply vis (.evaluate (pointerVariable ⟨0x1000⟩)) =
        .unavailable (.native ⟨3⟩ ⟨2⟩) ⟨⟨1⟩, ⟨2⟩, 0, ⟨0x4000⟩⟩) ∧
    shown.reply vis (.execute (intrinsicOf 2)) = .error (.unknownIntrinsic 2) ∧
    (dictionarySession.after vis (withoutRequests shownActs)).reply vis
        (.evaluate (pointerVariable ⟨0x1000⟩)) =
      shown.reply vis (.evaluate (pointerVariable ⟨0x1000⟩)) := by
  intro vis shown unloaded
  have hid : (intrinsicOf 1).id = 1 := rfl
  have hunknown : (intrinsicOf 2).id ≠ 1 := by decide
  have hforgets : Forgets shown.settings.rest := by
    intro said said' c
    cases c <;> rfl
  have hshown := execute_in_session vis dictionarySession shownActs
  have hunloaded := execute_in_session vis dictionarySession (shownActs ++ [.unload ⟨1⟩])
  refine ⟨?_, ?_, (hshown (intrinsicOf 2)).2.1 hunknown, ?_⟩
  · obtain ⟨response, hresponse, -, -, hflag, -⟩ := (hshown (intrinsicOf 1)).1 hid
    exact ⟨response, hresponse, hflag⟩
  · obtain ⟨response, hresponse, -, -, hflag, hnone⟩ := (hunloaded (intrinsicOf 1)).1 hid
    exact ⟨response, hresponse, hflag, hnone hflag rfl (pointerVariable ⟨0x1000⟩) [] rfl⟩
  · have hsame : withoutRequests (withoutRequests shownActs) = withoutRequests shownActs := rfl
    have halike := answersAlike_of_forgets hsame hforgets
    exact ((hshown (intrinsicOf 1)).2.2.2 _ hsame).2 halike _

end ObjectView.Visualizer
