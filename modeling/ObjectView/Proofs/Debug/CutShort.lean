import ObjectView.Proofs.Debug.TypeWalk

/-!
# Walks that are cut short

A walk may stop although its last entry refers to another one: the reference leads nowhere, or no
levels are left to follow it, as is always the case in a circle.  What the last entry refers to is
then unknown.  The text of the walk does not tell this from an entry that refers to nothing: the
nearest pointer or `const` without a name takes `void` in both cases.

So `void` stands for no type wherever a walk comes to its end, and also wherever one is cut short
without such a pointer or `const` on it, since there is no text at all then.  Everywhere else it
stands for a type that was not looked at.
-/

namespace ObjectView.Debug.TypeEntries

variable {E : Type} {ts : TypeEntries E}

/-- The entry that a walk stops at, which is the one it starts from if it has no steps. -/
def lastEntry : E → List (Step E) → E
  | e, [] => e
  | _, step :: walk => lastEntry step.2 walk

/-- The levels that the steps of a walk use up. -/
def levelsUsed : List (Step E) → Nat
  | [] => 0
  | step :: walk => step.1.cost + levelsUsed walk

/-- A walk comes to no name, and its last entry refers on. -/
structure CutShort (ts : TypeEntries E) (e : E) (walk : List (Step E)) (base : Option String) :
    Prop where
  nameless : base = none
  refers : ∃ r, ts.type (lastEntry e walk) = some (some r)

/-- The chain of references goes on from an entry through an entry without a name. -/
def Passes (ts : TypeEntries E) (e e' : E) : Prop :=
  ts.Refers e e' ∧ ts.name e' = .ok none

/-- The chain of references from an entry runs into a circle. -/
def Circular (ts : TypeEntries E) (e : E) : Prop :=
  ∃ e', Relation.ReflTransGen ts.Passes e e' ∧ Relation.TransGen ts.Passes e' e'

/-- The modifiers without a name on a walk, which are what a text is written around. -/
def modifiers (ts : TypeEntries E) (walk : List (Step E)) : Nat :=
  ts.unnamed Tag.constType walk + ts.unnamed Tag.pointerType walk

/-! ## Where a walk stops -/

/-- How a walk stops: at a name, at an entry that refers to nothing, or in front of a reference
that is not followed. -/
inductive Stops (ts : TypeEntries E) (level : Nat) (e : E) (walk : List (Step E)) :
    Option String → Prop
  | named {name : String} (named : ts.name (lastEntry e walk) = .ok (some name)) :
      Stops ts level e walk (some name)
  | untyped (nonempty : walk ≠ []) (unnamed : ts.name (lastEntry e walk) = .ok none)
      (untyped : ts.type (lastEntry e walk) = some none) : Stops ts level e walk none
  | lost {r : TypeReference} (typed : ts.type (lastEntry e walk) = some (some r))
      (lost : ts.follow (lastEntry e walk) r = .ok none) : Stops ts level e walk none
  | used {r : TypeReference} (typed : ts.type (lastEntry e walk) = some (some r))
      (used : 32 ≤ level + levelsUsed walk) : Stops ts level e walk none

theorem levelsUsed_cons (r : TypeReference) (e : E) (walk : List (Step E)) :
    levelsUsed ((r, e) :: walk) = (2 + r.isSignature.toNat) + levelsUsed walk := by
  rw [levelsUsed, r.cost_eq]

theorem Stops.cons {level : Nat} {source e : E} {r : TypeReference} {walk : List (Step E)}
    {base : Option String} (h : ts.Stops (level + (2 + r.isSignature.toNat)) e walk base) :
    ts.Stops level source ((r, e) :: walk) base := by
  cases h with
  | named named => exact .named named
  | untyped _ unnamed untyped => exact .untyped (List.cons_ne_nil _ _) unnamed untyped
  | lost typed lost => exact .lost typed lost
  | used typed used =>
      have hused : 32 ≤ level + levelsUsed ((r, e) :: walk) := by
        rw [levelsUsed_cons]
        omega
      exact .used typed hused

theorem Walks.stops {level : Nat} {source : E} {r : TypeReference} {walk : List (Step E)}
    {base : Option String} (h : ts.Walks level source r walk base)
    (htype : ts.type source = some (some r)) : ts.Stops level source walk base := by
  induction h with
  | used hused => exact .used htype hused
  | lost _ hlost => exact .lost htype hlost
  | named _ _ hnamed => exact .named hnamed
  | untyped _ _ hunnamed huntyped => exact .untyped (List.cons_ne_nil _ _) hunnamed huntyped
  | on _ _ _ htyped _ ih => exact (ih htyped).cons

/-- A walk in a circle never comes to a name or to an entry that refers to nothing. -/
theorem Circular.exists_passes {e : E} (h : ts.Circular e) :
    ∃ e', ts.Passes e e' ∧ ts.Circular e' := by
  obtain ⟨e', hreaches, hreturns⟩ := h
  rcases Relation.ReflTransGen.cases_head hreaches with rfl | ⟨next, hpasses, hreaches⟩
  · obtain ⟨next, hpasses, hback⟩ := Relation.TransGen.head'_iff.1 hreturns
    exact ⟨next, hpasses, e, hback, hreturns⟩
  · exact ⟨next, hpasses, e', hreaches, hreturns⟩

theorem Circular.of_follow {source e : E} {r : TypeReference} (h : ts.Circular source)
    (htype : ts.type source = some (some r)) (hfollow : ts.follow source r = .ok (some e)) :
    ts.name e = .ok none ∧ ts.Circular e := by
  obtain ⟨next, ⟨⟨r', htype', hfollow'⟩, hunnamed⟩, hcircular⟩ := h.exists_passes
  obtain rfl : r = r' := Option.some.inj (Option.some.inj (htype.symm.trans htype'))
  obtain rfl : e = next := Option.some.inj (Except.ok.inj (hfollow.symm.trans hfollow'))
  exact ⟨hunnamed, hcircular⟩

theorem Circular.type {e : E} (h : ts.Circular e) : ∃ r, ts.type e = some (some r) := by
  obtain ⟨next, ⟨⟨r, htype, -⟩, -⟩, -⟩ := h.exists_passes
  exact ⟨r, htype⟩

theorem Walks.cutShort_of_circular {level : Nat} {source : E} {r : TypeReference}
    {walk : List (Step E)} {base : Option String} (h : ts.Walks level source r walk base)
    (htype : ts.type source = some (some r)) (hcircular : ts.Circular source) :
    ts.CutShort source walk base := by
  induction h with
  | used | lost => exact ⟨rfl, _, htype⟩
  | named _ hfollow hnamed =>
      have hunnamed := (hcircular.of_follow htype hfollow).1
      cases hnamed.symm.trans hunnamed
  | untyped _ hfollow _ huntyped =>
      obtain ⟨r', htyped⟩ := (hcircular.of_follow htype hfollow).2.type
      cases huntyped.symm.trans htyped
  | on _ hfollow _ htyped _ ih =>
      obtain ⟨hnameless, hrefers⟩ := ih htyped (hcircular.of_follow htype hfollow).2
      exact ⟨hnameless, hrefers⟩

section WalksFrom

variable {e : E} {walk : List (Step E)} {base : Option String}

theorem WalksFrom.stops (h : ts.WalksFrom e walk base) :
    ts.type e = some none ∧ walk = [] ∧ base = none ∨ ts.Stops 0 e walk base := by
  cases h with
  | untyped huntyped => exact .inl ⟨huntyped, rfl, rfl⟩
  | typed htyped hwalks => exact .inr (hwalks.stops htyped)

theorem WalksFrom.cutShort_of_circular (h : ts.WalksFrom e walk base) (hcircular : ts.Circular e) :
    ts.CutShort e walk base := by
  cases h with
  | untyped huntyped =>
      obtain ⟨r, htyped⟩ := hcircular.type
      cases huntyped.symm.trans htyped
  | typed htyped hwalks => exact hwalks.cutShort_of_circular htyped hcircular

/-- The reasons for which a walk is cut short. -/
theorem WalksFrom.cutShort_iff (h : ts.WalksFrom e walk base) :
    ts.CutShort e walk base ↔
      base = none ∧ ∃ r, ts.type (lastEntry e walk) = some (some r) ∧
        (ts.follow (lastEntry e walk) r = .ok none ∨ 32 ≤ levelsUsed walk) := by
  constructor
  · rintro ⟨rfl, r, htype⟩
    refine ⟨rfl, r, htype, ?_⟩
    rcases h.stops with ⟨huntyped, rfl, -⟩ | hstops
    · cases huntyped.symm.trans htype
    · cases hstops with
      | untyped _ _ huntyped => cases huntyped.symm.trans htype
      | lost htype' hlost =>
          obtain rfl := Option.some.inj (Option.some.inj (htype.symm.trans htype'))
          exact .inl hlost
      | used _ hused => exact .inr (by omega)
  · rintro ⟨rfl, r, htype, -⟩
    exact ⟨rfl, r, htype⟩

/-- A walk without a name at its end has steps and ends at an entry that refers to nothing, if it
is not cut short and modifiers stand on it. -/
theorem WalksFrom.ends_at_untyped (h : ts.WalksFrom e walk none) (hcut : ¬ ts.CutShort e walk none)
    (hmodifiers : ts.modifiers walk ≠ 0) :
    ts.name (lastEntry e walk) = .ok none ∧ ts.type (lastEntry e walk) = some none := by
  rcases h.stops with ⟨-, rfl, -⟩ | hstops
  · exact absurd rfl hmodifiers
  · cases hstops with
    | untyped _ hunnamed huntyped => exact ⟨hunnamed, huntyped⟩
    | lost htype | used htype => exact absurd ⟨rfl, _, htype⟩ hcut

end WalksFrom

/-! ## What is written for no name -/

theorem rendered_none_eq_none_iff {consts pointers : Nat} :
    rendered consts pointers none = none ↔ consts + pointers = 0 := by
  rw [rendered]
  split
  next h => exact iff_of_true rfl h.2
  next h => exact iff_of_false (Option.some_ne_none _) fun hsum => h ⟨rfl, hsum⟩

theorem rendered_none_of_pos {consts pointers : Nat} (h : consts + pointers ≠ 0) :
    rendered consts pointers none = some (String.join (List.replicate consts "const ") ++ "void" ++
      String.join (List.replicate pointers " *")) := by
  rw [rendered, if_neg fun hnone => h hnone.2]
  rfl

/-- No type is named where the walk is cut short, and `void` is only written for a last entry
that has neither a name nor a type. -/
def VoidOnlyForVoid (ts : TypeEntries E) (e : E) (walk : List (Step E)) (base : Option String) :
    Prop :=
  (ts.CutShort e walk base → ts.declaredType e = .ok none) ∧
    ∀ text, ts.declaredType e = .ok (some text) → base = none →
      ts.name (lastEntry e walk) = .ok none ∧ ts.type (lastEntry e walk) = some none

theorem WalksFrom.declaredType_none_iff {e : E} {walk : List (Step E)}
    (h : ts.WalksFrom e walk none) : ts.declaredType e = .ok none ↔ ts.modifiers walk = 0 := by
  rw [h.declaredType, Except.ok.injEq, walkText, rendered_none_eq_none_iff, modifiers]

theorem WalksFrom.voidOnlyForVoid_iff {e : E} {walk : List (Step E)} {base : Option String}
    (h : ts.WalksFrom e walk base) :
    ts.VoidOnlyForVoid e walk base ↔ (ts.CutShort e walk base → ts.modifiers walk = 0) := by
  constructor
  · rintro ⟨hnone, -⟩ hcut
    obtain rfl := hcut.nameless
    exact h.declaredType_none_iff.1 (hnone hcut)
  · intro hcutModifiers
    refine ⟨fun hcut => ?_, fun text htext hnameless => ?_⟩
    · obtain rfl := hcut.nameless
      exact h.declaredType_none_iff.2 (hcutModifiers hcut)
    · subst hnameless
      have hmodifiers : ts.modifiers walk ≠ 0 := by
        intro hzero
        cases htext.symm.trans (h.declaredType_none_iff.2 hzero)
      exact h.ends_at_untyped (fun hcut => hmodifiers (hcutModifiers hcut)) hmodifiers

/-- Where no entry fails to be read, `void` is only shown for void unless the walk is cut short
behind a pointer or a `const` without a name.  There, the text is that of a walk to an entry that
refers to nothing.  A walk is cut short where a reference leads nowhere or no levels are left for
it, and always in a circle. -/
theorem void_only_for_void_iff (ts : TypeEntries E) (e : E) (readable : ¬ ts.MeetsError e) :
    (∃ walk base, ts.WalksFrom e walk base ∧
      (ts.VoidOnlyForVoid e walk base ↔ (ts.CutShort e walk base → ts.modifiers walk = 0)) ∧
      (ts.CutShort e walk base → ts.modifiers walk ≠ 0 →
        ts.declaredType e = .ok (some
          (String.join (List.replicate (ts.unnamed Tag.constType walk) "const ") ++ "void" ++
            String.join (List.replicate (ts.unnamed Tag.pointerType walk) " *")))) ∧
      (ts.CutShort e walk base ↔
        base = none ∧ ∃ r, ts.type (lastEntry e walk) = some (some r) ∧
          (ts.follow (lastEntry e walk) r = .ok none ∨ 32 ≤ levelsUsed walk)) ∧
      (ts.Circular e → ts.CutShort e walk base)) ∧
      ∀ (info : Info) (pc : UInt64) (variableName : String) (best : Candidate Entry),
        Info.entries.search pc variableName info.fuel (info.units.map Entry.root?) =
            .ok (some best) →
          info.declaredType pc variableName = info.typeEntries.declaredType best.entry ∧
            ∀ source r,
              info.typeEntries.follow source r = .ok none ↔ info.LeadsNowhere r := by
  obtain ⟨walk, base, hwalks⟩ := (walksFrom_or_error ts e).resolve_right fun h => readable h.2
  refine ⟨⟨walk, base, hwalks, hwalks.voidOnlyForVoid_iff, fun hcut hmodifiers => ?_,
    hwalks.cutShort_iff, hwalks.cutShort_of_circular⟩, fun info pc variableName best h => ?_⟩
  · obtain rfl := hcut.nameless
    rw [hwalks.declaredType, walkText, rendered_none_of_pos hmodifiers]
  · refine ⟨?_, fun _ _ => Info.follow_eq_none_iff⟩
    rw [Info.declaredType, h]
    rfl

theorem void_only_for_void_iff_circular :
    ¬ circular.MeetsError 0 ∧
      ∃ walk base, circular.WalksFrom 0 walk base ∧ circular.CutShort 0 walk base ∧
        (circular.VoidOnlyForVoid 0 walk base ↔
          (circular.CutShort 0 walk base → circular.modifiers walk = 0)) := by
  have hcircular : circular.Circular 0 := by
    have hconst : circular.Passes 0 1 := ⟨⟨.inUnit 1, rfl, rfl⟩, rfl⟩
    have hpointer : circular.Passes 1 2 := ⟨⟨.signature 2, rfl, rfl⟩, rfl⟩
    have hback : circular.Passes 2 1 := ⟨⟨.inUnit 1, rfl, rfl⟩, rfl⟩
    exact ⟨1, .single hconst, .tail (.single hpointer) hback⟩
  obtain ⟨⟨walk, base, hwalks, hiff, -, -, hcut⟩, -⟩ :=
    void_only_for_void_iff circular 0 not_meetsError_circular
  exact ⟨not_meetsError_circular, walk, base, hwalks, hcut hcircular, hiff⟩

/-- A variable behind a number of pointers without a name to `int`. -/
def pointerChain (pointers : Nat) : TypeEntries Nat where
  tag e := if e = 0 then Tag.variableDecl else if e ≤ pointers then Tag.pointerType else 0x24
  name e := .ok (if e = 0 then some "x" else if e ≤ pointers then none else some "int")
  type e := some (if e ≤ pointers then some (.inUnit (e + 1)) else none)
  follow
    | _, .inUnit offset => .ok (some offset)
    | _, _ => .ok none

/-- The steps through a number of the pointers, from the given one on. -/
def pointerSteps (first count : Nat) : List (Step Nat) :=
  (List.range' first count).map fun i => (.inUnit i, i)

theorem walks_pointerChain {pointers : Nat} (h : 16 ≤ pointers) {e left : Nat}
    (hleft : e + left = 16) :
    (pointerChain pointers).Walks (2 * e) e (.inUnit (e + 1)) (pointerSteps (e + 1) left)
      none := by
  induction left generalizing e with
  | zero => exact .used (by omega)
  | succ left ih =>
      have hle : e + 1 ≤ pointers := by omega
      have hunnamed : (pointerChain pointers).name (e + 1) = .ok none := by
        simp only [pointerChain, if_neg (Nat.succ_ne_zero e), if_pos hle]
      have htyped : (pointerChain pointers).type (e + 1) = some (some (.inUnit (e + 2))) := by
        simp only [pointerChain, if_pos hle]
      rw [pointerSteps, List.range'_succ, List.map_cons]
      exact .on (by omega) rfl hunnamed htyped (ih (e := e + 1) (by omega))

/-- Seventeen pointers to `int` are shown as sixteen pointers to `void`. -/
theorem void_behind_seventeen_pointers :
    ¬ (pointerChain 17).MeetsError 0 ∧ (pointerChain 17).name 18 = .ok (some "int") ∧
      (pointerChain 17).declaredType 0 = .ok (some "void * * * * * * * * * * * * * * * *") ∧
      ∃ walk, (pointerChain 17).WalksFrom 0 walk none ∧
        (pointerChain 17).CutShort 0 walk none ∧
        ¬ (pointerChain 17).VoidOnlyForVoid 0 walk none := by
  have hwalks : (pointerChain 17).WalksFrom 0 (pointerSteps 1 16) none :=
    .typed rfl (walks_pointerChain (Nat.le_succ 16) (Nat.zero_add 16))
  have hcut : (pointerChain 17).CutShort 0 (pointerSteps 1 16) none := ⟨rfl, .inUnit 17, rfl⟩
  refine ⟨?_, rfl, by cbv, _, hwalks, hcut, fun hvoid => ?_⟩
  · apply not_meetsError (fun _ => ⟨_, rfl⟩) (fun _ => ⟨_, rfl⟩)
    intro _ r
    cases r <;> exact ⟨_, rfl⟩
  · have hmodifiers := hwalks.voidOnlyForVoid_iff.1 hvoid hcut
    revert hmodifiers
    decide

end ObjectView.Debug.TypeEntries
