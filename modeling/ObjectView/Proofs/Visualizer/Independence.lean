import ObjectView.Proofs.Debug.LoadedOnce
import ObjectView.Proofs.SideBySide
import ObjectView.Proofs.Visualizer.Outcome

/-!
# What a type name cannot change

A type name is a help for the evaluator and nothing else.  Whoever names the types, and whether or
not nodes are to be shown, a request puts the same questions to the services in the same order,
reports the same, and comes equally far.  The requests for a node differ in the type name at most.

The services may remember what they are asked.  They are not told what is asked about symbols, nor
what is noted in a log.
-/

namespace ObjectView.Visualizer

open Hosted Dialogue

/-- Who names the types, and what the display option is.  Symbols may depend on all that was said
before. -/
structure Setting where
  hasSymbols : Bool
  findSymbol : Said → Value → Option Symbol
  symbolName : Said → Symbol → Option String
  source : OptionsSource
  isShown : Bool

/-- A question to the services, up to the one for a node, or a report. -/
def isService : Call → Bool
  | .runtime _ | .evaluator _ | .readMemory _ _ | .nativeEvaluator _ _ _ => true
  | c => (reportOf? c).isSome

def serviced (said : Said) : Said :=
  said.filter fun x => isService x.1

namespace Setting

def visualizer (s : Setting) (hasDiagnostics : Bool) : Visualizer where
  hasSymbols := s.hasSymbols
  options := s.source
  hasDiagnostics

def host (s : Setting) (services : Behaviour) : Behaviour
  | said, .findSymbol v => s.findSymbol said v
  | said, .symbolName symbol => s.symbolName said symbol
  | _, .showViewNodes _ => s.isShown
  | said, c => services (serviced said) c

def withoutSymbols (s : Setting) : Setting :=
  { s with hasSymbols := false }

/-- The name that a symbol file has for a value. -/
def nameIn (file : Debug.SymbolFile) (files : Debug.Files) (v : Value) : Option String :=
  ((file.symbolName v).result files.answer).1

/-- The value that was looked up. -/
def lookedUp? : Spoken → Option Value
  | ⟨.findSymbol v, some _⟩ => some v
  | _ => none

/-- The types are named by a symbol file, one value after the other. -/
def withFile (s : Setting) (file : Debug.SymbolFile) (files : Debug.Files) : Setting :=
  { s with
    hasSymbols := true
    findSymbol := fun _ v => (nameIn file files v).map fun _ => ⟨0⟩
    symbolName := fun said _ => (said.findSome? lookedUp?).bind (nameIn file files) }

end Setting

/-- The evaluator makes the same node whatever the type name is. -/
def IgnoresTypeName (services : Behaviour) : Prop :=
  ∀ said evaluator (request : ResultRequest) typeName,
    services said (.createResult evaluator { request with typeName }) =
      services said (.createResult evaluator request)

/-- The services cannot tell the histories apart, and no node was asked for yet. -/
structure Indistinct (before before' : Said) : Prop where
  services : serviced before = serviced before'
  unasked : results before = []
  unasked' : results before' = []

/-- Two requests end without having asked for a node, or both behind having asked for one, where
the type names are in the relation `N` and all else is the same. -/
def EndsAlike (services : Behaviour) (N : Option String → Option String → Prop)
    (found found' : Option Node) (after after' : Said) : Prop :=
  serviced after = serviced after' ∧
    ((results after = [] ∧ results after' = [] ∧ found = none ∧ found' = none) ∨
      ∃ said evaluator request typeName, N request.typeName typeName ∧
        let given := services said (.createResult evaluator request)
        let given' := services said (.createResult evaluator { request with typeName })
        results after = [(evaluator, request, given)] ∧
          results after' = [(evaluator, { request with typeName }, given')] ∧
          found = given.toOption ∧ found' = given'.toOption)

variable {services : Behaviour} {s s' : Setting} {v : Value} {before before' after : Said}

theorem serviced_cons (x : Spoken) :
    serviced (x :: before) = if isService x.1 then x :: serviced before else serviced before :=
  List.filter_cons

theorem Indistinct.ended (h : Indistinct before before')
    (N : Option String → Option String → Prop) :
    EndsAlike services N none none before before' :=
  ⟨h.services, .inl ⟨h.unasked, h.unasked', rfl, rfl⟩⟩

/-! ## Stages that the setting has no part in -/

theorem Indistinct.cons (h : Indistinct before before') {c : Call} (hc : IsPlain c)
    (given : c.Answer) : Indistinct (⟨c, given⟩ :: before) (⟨c, given⟩ :: before') := by
  have hnew : ∀ x ∈ ([⟨c, given⟩] : Said), IsPreparation x.1 :=
    List.forall_mem_singleton.2 (isPreparation_of_isPlain c hc)
  have hresults (said : Said) : results (⟨c, given⟩ :: said) = results said :=
    results_append_of_preparation hnew
  refine ⟨?_, (hresults before).trans h.unasked, (hresults before').trans h.unasked'⟩
  rw [serviced_cons, serviced_cons, h.services]

theorem Indistinct.host_eq (h : Indistinct before before') {c : Call} (hc : IsPlain c) :
    s.host services before c = s'.host services before' c := by
  cases c with
  | findSymbol v => exact hc.elim
  | symbolName symbol => exact hc.elim
  | releaseSymbol symbol => exact hc.elim
  | createResult evaluator request => exact hc.elim
  | showViewNodes source => exact hc.elim
  | _ => exact congrArg (services · _) h.services

theorem matches_of_isPlain {α : Type} {d : Hosted α} (h : d.AsksOnly IsPlain) :
    Matches (s.host services) (s'.host services) Indistinct d d
      fun a b after after' => a = b ∧ Indistinct after after' :=
  .of_asksOnly h fun _ _ _ hc hbefore => ⟨hbefore.host_eq hc, hbefore.cons hc _⟩

/-- Both requests end with a stage that is not passed, or both go on behind it. -/
theorem matches_stage_bind {α : Type} {N : Option String → Option String → Prop}
    {d : OptionT Hosted α} {f f' : α → OptionT Hosted Node} (h : d.run.AsksOnly IsPlain)
    (next : ∀ a, Matches (s.host services) (s'.host services) Indistinct (f a).run (f' a).run
      (EndsAlike services N)) :
    Matches (s.host services) (s'.host services) Indistinct (d >>= f).run (d >>= f').run
      (EndsAlike services N) := by
  rw [OptionT.run_bind, OptionT.run_bind, Option.elimM, Option.elimM]
  refine (matches_of_isPlain h).bind ?_
  rintro a b between between' ⟨rfl, hbetween⟩
  cases a with
  | none => exact Matches.done (fun _ _ hlevel => hlevel.ended N) between between' hbetween
  | some a => exact next a between between' hbetween

/-! ## The stage for the type name -/

theorem isService_of_isNaming {c : Call} (h : IsNaming c) : isService c = false := by
  cases c with
  | log event =>
      have hne : event.target ≠ Log.Target.diagnostics := by
        rw [show event.target = Log.Target.symbols from h]
        decide
      change (reportOf? (.log event)).isSome = false
      rw [reportOf?_log, if_neg hne, Option.isSome_none]
  | findSymbol v => rfl
  | symbolName symbol => rfl
  | releaseSymbol symbol => rfl
  | _ => exact h.elim

theorem serviced_append_of_isNaming {new : Said} (h : ∀ x ∈ new, IsNaming x.1) :
    serviced (new ++ before) = serviced before := by
  have hnew : serviced new = [] := by
    apply List.filter_eq_nil_iff.2
    intro x hx
    rw [isService_of_isNaming (h x hx)]
    exact Bool.false_ne_true
  rw [serviced, List.filter_append]
  exact congrArg (· ++ serviced before) hnew

theorem matches_typeName (b b' : Bool) :
    Matches (s.host services) (s'.host services) Indistinct (Hosted.typeName b v)
      (Hosted.typeName b' v) fun _ _ => Indistinct := by
  apply Matches.of_unseen (asksOnly_typeName b v) (asksOnly_typeName b' v)
  intro new new' before before' hnew hnew' hbefore
  have hresults {new said : Said} (h : ∀ x ∈ new, IsNaming x.1) :
      results (new ++ said) = results said :=
    results_append_of_preparation fun x hx => isPreparation_of_isNaming x.1 (h x hx)
  refine ⟨?_, (hresults hnew).trans hbefore.unasked, (hresults hnew').trans hbefore.unasked'⟩
  rw [serviced_append_of_isNaming hnew, serviced_append_of_isNaming hnew', hbefore.services]

section Name

variable {answer : Behaviour} {hasSymbols : Bool} {name : Option String}

theorem exists_naming (h : Says answer before (Hosted.typeName hasSymbols v) name after) :
    ∃ symbols, Naming { hasSymbols } v name symbols ∧
      Follows answer before (symbols ++ [resolved name]) := by
  obtain ⟨said, -, hruns, hfollows⟩ := says_iff_runs.1 h
  have hcourse : ∃ symbols, Naming { hasSymbols } v name symbols ∧
      said = symbols ++ [resolved name] := runs_typeName_iff.1 hruns
  obtain ⟨symbols, naming, rfl⟩ := hcourse
  exact ⟨symbols, naming, hfollows⟩

/-- A child has the type that its parent's evaluation reported. -/
theorem name_of_child {resultType : Option String} (horigin : v.origin = .child resultType)
    (h : Says answer before (Hosted.typeName hasSymbols v) name after) : name = resultType := by
  obtain ⟨symbols, naming, -⟩ := exists_naming h
  exact ((naming_child_iff horigin).1 naming).2

/-- A variable has no type name if no symbol is found for it. -/
theorem name_of_nothing {position : Option LexicalPosition} (horigin : v.origin = .root position)
    (hnothing : hasSymbols = false ∨ answer before (.findSymbol v) = none)
    (h : Says answer before (Hosted.typeName hasSymbols v) name after) : name = none := by
  obtain ⟨symbols, naming, hfollows⟩ := exists_naming h
  cases naming with
  | given hchild => cases horigin.symm.trans hchild
  | absent hchild => rfl
  | unsearched => rfl
  | missing => rfl
  | named _ hsymbols =>
      obtain hfalse | hnone := hnothing
      · cases hsymbols.symm.trans hfalse
      · cases hfollows.1.trans hnone

end Name

/-! ## All stages -/

theorem isService_noted (level : Log.Level) (message : String) :
    isService (noted level message).1 = false := by
  change (reportOf? (noted level message).1).isSome = false
  rw [reportOf?_noted, Option.isSome_none]

/-- What the last stage leaves behind: it ends with the native evaluator, or behind the one request
for a node. -/
theorem left_by_bridge {answer : Behaviour} {evaluator : Evaluator} {object : Object}
    {context : Context} {typeName : Option String} {found : Option Node}
    (h : Says answer before (bridge evaluator v object context typeName).run found after) :
    let c := Call.nativeEvaluator evaluator v.context v.frame
    (∃ e, answer before c = .error e ∧ found = none ∧ results after = results before ∧
        serviced after = serviced (⟨c, .error e⟩ :: before)) ∨
      ∃ native, answer before c = .ok native ∧
        let asked : Said := ⟨c, .ok native⟩ :: before
        let request := resultRequest v object context typeName native
        let given := answer asked (.createResult evaluator request)
        found = given.toOption ∧ results after = (evaluator, request, given) :: results before ∧
          serviced after = serviced asked := by
  intro c
  obtain ⟨said, rfl, hruns, hfollows⟩ := says_iff_runs.1 h
  have hquiet (message : String) (said : Said) :
      serviced (noted .debug message :: said) = serviced said := by
    rw [serviced_cons, isService_noted]
    exact if_neg Bool.false_ne_true
  obtain ⟨e, rfl, rfl⟩ | ⟨native, e, rfl, rfl⟩ | ⟨native, n, rfl, rfl⟩ := runs_bridge_iff.1 hruns
  · exact .inl ⟨e, hfollows.1.symm, rfl, rfl, hquiet _ _⟩
  · have hgiven : answer (⟨c, .ok native⟩ :: before)
        (.createResult evaluator (resultRequest v object context typeName native)) = .error e :=
      hfollows.2.1.symm
    refine .inr ⟨native, hfollows.1.symm, ?_⟩
    simp only [hgiven]
    exact ⟨rfl, rfl, hquiet _ _⟩
  · have hgiven : answer (⟨c, .ok native⟩ :: before)
        (.createResult evaluator (resultRequest v object context typeName native)) = .ok n :=
      hfollows.2.1.symm
    refine .inr ⟨native, hfollows.1.symm, ?_⟩
    simp only [hgiven]
    exact ⟨rfl, rfl, rfl⟩

theorem matches_bridge {N : Option String → Option String → Prop} {name name' : Option String}
    (hname : N name name') (evaluator : Evaluator) (object : Object) (context : Context) :
    Matches (s.host services) (s'.host services) Indistinct
      (bridge evaluator v object context name).run (bridge evaluator v object context name').run
      (EndsAlike services N) := by
  intro before before' hbefore found found' after after' hsaid hsaid'
  let c := Call.nativeEvaluator evaluator v.context v.frame
  have hplain : IsPlain c := trivial
  have hsame : s.host services before c = s'.host services before' c := hbefore.host_eq hplain
  obtain ⟨e, he, rfl, hresults, hserviced⟩ | ⟨native, hok, hfound, hresults, hserviced⟩ :=
    left_by_bridge hsaid
  · obtain ⟨e', he', rfl, hresults', hserviced'⟩ | ⟨native', hok', -⟩ := left_by_bridge hsaid'
    · obtain rfl : e = e' := Except.error.inj (he.symm.trans (hsame.trans he'))
      have hasked := hbefore.cons hplain (.error e)
      have hserved : serviced after = serviced after' := by
        rw [hserviced, hserviced']
        exact hasked.services
      exact ⟨hserved, .inl ⟨hresults.trans hbefore.unasked, hresults'.trans hbefore.unasked', rfl,
        rfl⟩⟩
    · cases he.symm.trans (hsame.trans hok')
  · obtain ⟨e', he', -⟩ | ⟨native', hok', hfound', hresults', hserviced'⟩ := left_by_bridge hsaid'
    · cases hok.symm.trans (hsame.trans he')
    · obtain rfl : native = native' := Except.ok.inj (hok.symm.trans (hsame.trans hok'))
      have hasked := hbefore.cons hplain (.ok native)
      have hserved : serviced after = serviced after' := by
        rw [hserviced, hserviced']
        exact hasked.services
      -- Both nodes are asked for behind the same questions to the services.
      have hgiven (request : ResultRequest) :
          s'.host services (⟨c, .ok native⟩ :: before') (.createResult evaluator request) =
            services (serviced (⟨c, .ok native⟩ :: before)) (.createResult evaluator request) :=
        congrArg (services · (.createResult evaluator request)) hasked.services.symm
      rw [hgiven] at hfound' hresults'
      rw [hbefore.unasked] at hresults
      rw [hbefore.unasked'] at hresults'
      exact ⟨hserved, .inr ⟨serviced (⟨c, .ok native⟩ :: before), evaluator,
        resultRequest v object context name native, name', hname, hresults, hresults', hfound,
        hfound'⟩⟩

theorem matches_render {N : Option String → Option String → Prop} (hasDiagnostics : Bool)
    (naming : Matches (s.host services) (s'.host services) Indistinct
      (Hosted.typeName s.hasSymbols v) (Hosted.typeName s'.hasSymbols v)
      fun name name' after after' => N name name' ∧ Indistinct after after') :
    Matches (s.host services) (s'.host services) Indistinct
      ((s.visualizer hasDiagnostics).render v).run ((s'.visualizer hasDiagnostics).render v).run
      (EndsAlike services N) := by
  rw [render, render]
  apply matches_stage_bind (asksOnly_gate v)
  intro runtime
  -- Where reports go is no part of the setting, so these two stages are the same in both.
  apply matches_stage_bind (asksOnly_locate (s.visualizer hasDiagnostics) v)
  intro address
  apply matches_stage_bind (asksOnly_service (s.visualizer hasDiagnostics) v)
  intro evaluator
  rw [run_lift_bind, run_lift_bind]
  refine naming.bind ?_
  rintro name name' between between' ⟨hname, hbetween⟩
  exact matches_stage_bind (asksOnly_materialize v address)
    (fun object => matches_bridge hname evaluator object _) between between' hbetween

theorem EndsAlike.mono {N N' : Option String → Option String → Prop} {found found' : Option Node}
    {after after' : Said} (h : EndsAlike services N found found' after after')
    (weaker : ∀ name name', N name name' → N' name name') :
    EndsAlike services N' found found' after after' := by
  obtain ⟨hserved, hnone | ⟨said, evaluator, request, typeName, hname, hends⟩⟩ := h
  · exact ⟨hserved, .inl hnone⟩
  · exact ⟨hserved, .inr ⟨said, evaluator, request, typeName, weaker _ _ hname, hends⟩⟩

theorem EndsAlike.eq_of_names {found found' : Option Node} {after after' : Said}
    (h : EndsAlike services (· = ·) found found' after after') :
    found = found' ∧ results after = results after' := by
  obtain ⟨-, ⟨hnil, hnil', rfl, rfl⟩ | ⟨said, evaluator, request, typeName, hname, hresults,
    hresults', rfl, rfl⟩⟩ := h
  · exact ⟨rfl, hnil.trans hnil'.symm⟩
  · obtain rfl : request.typeName = typeName := hname
    exact ⟨rfl, hresults.trans hresults'.symm⟩

theorem EndsAlike.eq_of_ignores {N : Option String → Option String → Prop}
    {found found' : Option Node} {after after' : Said} (hignores : IgnoresTypeName services)
    (h : EndsAlike services N found found' after after') : found = found' := by
  obtain ⟨-, ⟨-, -, rfl, rfl⟩ | ⟨said, evaluator, request, typeName, -, -, -, rfl, rfl⟩⟩ := h
  · rfl
  · exact congrArg Except.toOption (hignores said evaluator request typeName).symm

theorem evaluate_alike {N : Option String → Option String → Prop} (services : Behaviour)
    (hasDiagnostics : Bool)
    (naming : Matches (s.host services) (s'.host services) Indistinct
      (Hosted.typeName s.hasSymbols v) (Hosted.typeName s'.hasSymbols v)
      fun name name' after after' => N name name' ∧ Indistinct after after') :
    let run (s : Setting) :=
      ((s.visualizer hasDiagnostics).evaluate v).converse (s.host services) []
    ∃ found found', (run s).1 = found.getD (.unavailable v.context v.frame) ∧
      (run s').1 = found'.getD (.unavailable v.context v.frame) ∧
      EndsAlike services N found found' (run s).2 (run s').2 := by
  intro run
  have hrun (s : Setting) : run s = _ :=
    converse_evaluate (s.host services) (s.visualizer hasDiagnostics) v
  have hends := matches_render hasDiagnostics naming [] [] ⟨rfl, rfl, rfl⟩ _ _ _ _ rfl rfl
  rw [hrun s, hrun s']
  exact ⟨_, _, rfl, rfl, hends⟩

theorem matches_typeName_of_origin (b b' : Bool) :
    Matches (s.host services) (s'.host services) Indistinct (Hosted.typeName b v)
      (Hosted.typeName b' v) fun name name' after after' =>
        (∀ resultType, v.origin = .child resultType → name = name') ∧ Indistinct after after' := by
  intro before before' hbefore name name' after after' hsaid hsaid'
  have hafter := matches_typeName b b' before before' hbefore name name' after after' hsaid hsaid'
  refine ⟨fun resultType horigin => ?_, hafter⟩
  have hname : name = resultType := name_of_child horigin hsaid
  have hname' : name' = resultType := name_of_child horigin hsaid'
  rw [hname, hname']

theorem matches_typeName_of_nothing {file : Debug.SymbolFile} {files : Debug.Files}
    (h : file.HasNothing files) :
    Matches ((s.withFile file files).host services) (s'.withoutSymbols.host services) Indistinct
      (Hosted.typeName true v) (Hosted.typeName false v)
      fun name name' after after' => name = name' ∧ Indistinct after after' := by
  intro before before' hbefore name name' after after' hsaid hsaid'
  have hafter := matches_typeName true false before before' hbefore name name' after after' hsaid
    hsaid'
  refine ⟨?_, hafter⟩
  cases horigin : v.origin with
  | child resultType =>
      have hname : name = resultType := name_of_child horigin hsaid
      have hname' : name' = resultType := name_of_child horigin hsaid'
      rw [hname, hname']
  | root position =>
      have hfound : (s.withFile file files).host services before (.findSymbol v) = none :=
        congrArg (Option.map fun _ => Symbol.mk 0) (h.result_symbolName v)
      have hname : name = none := name_of_nothing horigin (.inr hfound) hsaid
      have hname' : name' = none := name_of_nothing horigin (.inl rfl) hsaid'
      rw [hname, hname']

/-- Whoever names the types and whatever the display option is, a request asks the services the
same, reports the same, and asks for the same node or for none, but for the type name, which a
child has from its parent.  Where the evaluator does not look at the name, or the value is a child,
the answer is the same.  A file without anything in it is the same to any evaluator as no symbols
at all. -/
theorem evaluate_independent_of_names (services : Behaviour) (hasDiagnostics : Bool) (v : Value) :
    let run (s : Setting) :=
      ((s.visualizer hasDiagnostics).evaluate v).converse (s.host services) []
    (∀ s s' : Setting,
      serviced (run s).2 = serviced (run s').2 ∧
      (results (run s).2 = [] ∧ results (run s').2 = [] ∨
        ∃ evaluator request typeName given given',
          results (run s).2 = [(evaluator, request, given)] ∧
          results (run s').2 = [(evaluator, { request with typeName }, given')] ∧
          ∀ resultType, v.origin = .child resultType → request.typeName = typeName) ∧
      (IgnoresTypeName services ∨ (∃ resultType, v.origin = .child resultType) →
        (run s).1 = (run s').1)) ∧
    ∀ (s s' : Setting) (file : Debug.SymbolFile) (files : Debug.Files), file.HasNothing files →
      (run (s.withFile file files)).1 = (run s'.withoutSymbols).1 ∧
        results (run (s.withFile file files)).2 = results (run s'.withoutSymbols).2 := by
  intro run
  constructor
  · intro s s'
    obtain ⟨found, found', hrun, hrun', hends⟩ := evaluate_alike services hasDiagnostics
      (matches_typeName_of_origin (v := v) s.hasSymbols s'.hasSymbols)
    refine ⟨hends.1, ?_, ?_⟩
    · obtain ⟨-, ⟨hnil, hnil', -⟩ | ⟨said, evaluator, request, typeName, hname, hresults, hresults',
        -⟩⟩ := hends
      · exact .inl ⟨hnil, hnil'⟩
      · exact .inr ⟨evaluator, request, typeName, _, _, hresults, hresults', hname⟩
    · rintro (hignores | ⟨resultType, horigin⟩)
      · rw [hrun, hrun', hends.eq_of_ignores hignores]
      · have hsame := hends.mono fun name name' hname => hname resultType horigin
        rw [hrun, hrun', hsame.eq_of_names.1]
  · intro s s' file files hnothing
    obtain ⟨found, found', hrun, hrun', hends⟩ := evaluate_alike services hasDiagnostics
      (matches_typeName_of_nothing (s := s) (v := v) hnothing)
    obtain ⟨hfound, hresults⟩ := hends.eq_of_names
    refine ⟨?_, hresults⟩
    rw [hrun, hrun', hfound]

/-- The host of `dictionaryHost`, with an evaluator that does not look at type names. -/
def namelessHost : Behaviour
  | said, .createResult evaluator request =>
      dictionaryHost said (.createResult evaluator { request with typeName := none })
  | said, c => dictionaryHost said c

/-- Every variable is declared as a pointer to a dictionary. -/
def dictionarySymbols : Setting where
  hasSymbols := true
  findSymbol _ _ := some ⟨7⟩
  symbolName _ _ := some "PyDictObject *"
  source := .own
  isShown := false

def missingFile : Debug.Files :=
  fun _ => .error "No such file or directory (os error 2)"

def unreadable : Debug.SymbolFile :=
  .ofImage ⟨fun _ => none, fun _ => none⟩ "a.out"

def missingSymbols : Setting :=
  dictionarySymbols.withFile unreadable missingFile

/-- The view of the variable `op` that points to the dictionary. -/
def viewOfOp (s : Setting) : Node × Said :=
  ((s.visualizer true).evaluate
    { pointerVariable ⟨0x1000⟩ with origin := .root (some ⟨⟨0x4000⟩, "op"⟩) }).converse
      (s.host namelessHost) []

/-- The type names in requests for a node. -/
def typeNames (said : Said) : List (Option String) :=
  (results said).map (·.2.1.typeName)

/-- The type name goes into the request for a node where symbols name it, and is missing where the
file of the symbols is.  The node is the same. -/
theorem evaluate_independent_of_names_dictionary :
    IgnoresTypeName namelessHost ∧
      unreadable.HasNothing missingFile ∧
      typeNames (viewOfOp dictionarySymbols).2 = [some "PyDictObject *"] ∧
      typeNames (viewOfOp missingSymbols).2 = [none] ∧
      (viewOfOp dictionarySymbols).1 = dictionaryNode ∧
      (viewOfOp missingSymbols).1 = dictionaryNode ∧
      results (viewOfOp missingSymbols).2 =
        results (viewOfOp dictionarySymbols.withoutSymbols).2 := by
  have hignores : IgnoresTypeName namelessHost := fun _ _ _ _ => rfl
  have hnothing : unreadable.HasNothing missingFile := rfl
  have hsettings := evaluate_independent_of_names namelessHost true
    { pointerVariable ⟨0x1000⟩ with origin := .root (some ⟨⟨0x4000⟩, "op"⟩) }
  have hsame : (viewOfOp dictionarySymbols).1 = (viewOfOp missingSymbols).1 :=
    (hsettings.1 dictionarySymbols missingSymbols).2.2 (.inl hignores)
  have hmissing := hsettings.2 dictionarySymbols dictionarySymbols _ _ hnothing
  have hnode : (viewOfOp dictionarySymbols).1 = dictionaryNode := by decide +kernel
  refine ⟨hignores, hnothing, ?_, ?_, hnode, hsame.symm.trans hnode, hmissing.2⟩
  · decide +kernel
  · decide +kernel

end ObjectView.Visualizer
