import Mathlib.Logic.Relation
import ObjectView.Debug.Info

/-!
# Type names in closed form

The references of a variable's type lead from entry to entry, possibly in circles.  The walk along
them ends at the first name, or at an entry without a type, or at a reference that is not
followed.  The name of the type is known from the walk: there is one `const ` in front of the name
for each `const` without a name on the walk, and one star behind it for each pointer, in whatever
order they were met.
-/

namespace ObjectView.Debug

/-- References by signature cost more than others. -/
def TypeReference.isSignature : TypeReference → Bool
  | signature _ => true
  | _ => false

theorem TypeReference.cost_eq (r : TypeReference) : r.cost = 2 + r.isSignature.toNat := by
  cases r <;> rfl

namespace TypeEntries

variable {E : Type} {ts : TypeEntries E}

/-- A step of a walk: a reference, and the entry it leads to. -/
abbrev Step (E : Type) := TypeReference × E

/-- Some levels deep, a reference in an entry leads along a walk, and to the name of its last
entry if that has one. -/
inductive Walks (ts : TypeEntries E) :
    (level : Nat) → E → TypeReference → List (Step E) → Option String → Prop
  | used {level : Nat} {source : E} {r : TypeReference} (used : 32 ≤ level) :
      Walks ts level source r [] none
  | lost {level : Nat} {source : E} {r : TypeReference} (left : level < 32)
      (lost : ts.follow source r = .ok none) : Walks ts level source r [] none
  | named {level : Nat} {source e : E} {r : TypeReference} {name : String} (left : level < 32)
      (follow : ts.follow source r = .ok (some e)) (named : ts.name e = .ok (some name)) :
      Walks ts level source r [(r, e)] (some name)
  | untyped {level : Nat} {source e : E} {r : TypeReference} (left : level < 32)
      (follow : ts.follow source r = .ok (some e)) (unnamed : ts.name e = .ok none)
      (untyped : ts.type e = some none) : Walks ts level source r [(r, e)] none
  | on {level : Nat} {source e : E} {r next : TypeReference} {walk : List (Step E)}
      {base : Option String} (left : level < 32) (follow : ts.follow source r = .ok (some e))
      (unnamed : ts.name e = .ok none) (typed : ts.type e = some (some next))
      (rest : Walks ts (level + (2 + r.isSignature.toNat)) e next walk base) :
      Walks ts level source r ((r, e) :: walk) base

/-- The walk from the declared type of an entry, which is empty if none is declared. -/
inductive WalksFrom (ts : TypeEntries E) (e : E) : List (Step E) → Option String → Prop
  | untyped (untyped : ts.type e = some none) : WalksFrom ts e [] none
  | typed {r : TypeReference} {walk : List (Step E)} {base : Option String}
      (typed : ts.type e = some (some r)) (walks : ts.Walks 0 e r walk base) :
      WalksFrom ts e walk base

def isUnnamed (ts : TypeEntries E) (e : E) : Bool :=
  match ts.name e with
  | .ok none => true
  | _ => false

/-- The number of steps to an entry of a kind that has no name. -/
def unnamed (ts : TypeEntries E) (tag : Tag) (walk : List (Step E)) : Nat :=
  walk.countP fun step => ts.tag step.2 = tag && ts.isUnnamed step.2

/-- What is written around a name, or around `void` where there is none. -/
def rendered (consts pointers : Nat) (base : Option String) : Option String :=
  if base = none ∧ consts + pointers = 0 then none
  else some (String.join (List.replicate consts "const ") ++ base.getD "void" ++
    String.join (List.replicate pointers " *"))

/-- The text of a walk. -/
def walkText (ts : TypeEntries E) (walk : List (Step E)) (base : Option String) : Option String :=
  rendered (ts.unnamed Tag.constType walk) (ts.unnamed Tag.pointerType walk) base

/-! ## The text around a name -/

theorem join_replicate_succ (n : Nat) (s : String) :
    String.join (List.replicate (n + 1) s) = s ++ String.join (List.replicate n s) := by
  rw [List.replicate_succ, String.join_cons]

theorem join_replicate_succ' (n : Nat) (s : String) :
    String.join (List.replicate (n + 1) s) = String.join (List.replicate n s) ++ s := by
  rw [List.replicate_succ', String.join_append]
  simp

theorem getD_rendered (consts pointers : Nat) (base : Option String) :
    (rendered consts pointers base).getD "void" =
      String.join (List.replicate consts "const ") ++ base.getD "void" ++
        String.join (List.replicate pointers " *") := by
  unfold rendered
  split
  next h =>
    obtain ⟨rfl, hsum⟩ := h
    obtain ⟨rfl, rfl⟩ := Nat.add_eq_zero_iff.1 hsum
    simp
  next => rfl

theorem rendered_const (consts pointers : Nat) (base : Option String) :
    modified Tag.constType (rendered consts pointers base) =
      rendered (consts + 1) pointers base := by
  have hsome : ¬ (base = none ∧ consts + 1 + pointers = 0) := by omega
  rw [modified, if_neg (by decide), if_pos rfl, getD_rendered, rendered, if_neg hsome,
    join_replicate_succ, String.append_assoc, String.append_assoc, String.append_assoc]

theorem rendered_pointer (consts pointers : Nat) (base : Option String) :
    modified Tag.pointerType (rendered consts pointers base) =
      rendered consts (pointers + 1) base := by
  have hsome : ¬ (base = none ∧ consts + (pointers + 1) = 0) := by omega
  rw [modified, if_pos rfl, getD_rendered, rendered, if_neg hsome, join_replicate_succ',
    ← String.append_assoc]

section Unnamed

variable {e : E} {walk : List (Step E)} {base : Option String}

theorem walkText_of_named {name : String} (h : ts.name e = .ok (some name)) (r : TypeReference) :
    ts.walkText [(r, e)] (some name) = some name := by
  have hunnamed (tag : Tag) : ts.unnamed tag [(r, e)] = 0 := by simp [unnamed, isUnnamed, h]
  rw [walkText, hunnamed, hunnamed]
  simp [rendered]

theorem unnamed_cons (h : ts.name e = .ok none) (tag : Tag) (r : TypeReference) :
    ts.unnamed tag ((r, e) :: walk) = ts.unnamed tag walk + if ts.tag e = tag then 1 else 0 := by
  rw [unnamed, List.countP_cons, ← unnamed]
  simp [isUnnamed, h]

/-- An entry without a name adds to the text of what is behind it. -/
theorem modified_walkText (h : ts.name e = .ok none) (r : TypeReference) :
    modified (ts.tag e) (ts.walkText walk base) = ts.walkText ((r, e) :: walk) base := by
  rw [walkText, walkText, unnamed_cons h, unnamed_cons h]
  by_cases hconst : ts.tag e = Tag.constType
  · have hpointer : ts.tag e ≠ Tag.pointerType := by
      rw [hconst]
      decide
    rw [if_pos hconst, if_neg hpointer, hconst, rendered_const]
    rfl
  · by_cases hpointer : ts.tag e = Tag.pointerType
    · rw [if_neg hconst, if_pos hpointer, hpointer, rendered_pointer]
      rfl
    · rw [if_neg hconst, if_neg hpointer, modified, if_neg hpointer, if_neg hconst]
      rfl

end Unnamed

/-! ## The walk that a name is read along -/

section TypeName

variable {level : Nat} {source e : E} {r next : TypeReference}

theorem typeName_of_used (h : 32 ≤ level) : ts.typeName (32 - level) source r = .ok none := by
  rw [typeName, dif_pos (Nat.sub_eq_zero_of_le h)]

variable (left : level < 32)
include left

theorem typeName_of_lost (h : ts.follow source r = .ok none) :
    ts.typeName (32 - level) source r = .ok none := by
  rw [typeName, dif_neg (Nat.sub_ne_zero_of_lt left), h]
  rfl

/-- What becomes of a reference that is followed. -/
theorem typeName_of_followed (h : ts.follow source r = .ok (some e)) :
    ts.typeName (32 - level) source r = do
      match ← ts.name e with
      | some name => return some name
      | none =>
          match ← Activity.readingNestedType.orFail (ts.type e) with
          | none => return modified (ts.tag e) none
          | some next =>
              return modified (ts.tag e)
                (← ts.typeName (32 - (level + (2 + r.isSignature.toNat))) e next) := by
  have hlevels : 32 - level - r.cost = 32 - (level + (2 + r.isSignature.toNat)) := by
    rw [r.cost_eq, Nat.sub_sub]
  rw [← hlevels, typeName, dif_neg (Nat.sub_ne_zero_of_lt left), h]
  rfl

end TypeName

/-- The name of a type is the text of the walk to it. -/
theorem Walks.typeName {level : Nat} {source : E} {r : TypeReference} {walk : List (Step E)}
    {base : Option String} (h : ts.Walks level source r walk base) :
    ts.typeName (32 - level) source r = .ok (ts.walkText walk base) := by
  induction h with
  | used hused => exact typeName_of_used hused
  | lost hleft hlost => exact typeName_of_lost hleft hlost
  | named hleft hfollow hnamed =>
      rw [typeName_of_followed hleft hfollow, hnamed, walkText_of_named hnamed]
      rfl
  | untyped hleft hfollow hunnamed huntyped =>
      rw [typeName_of_followed hleft hfollow, hunnamed, huntyped, ← modified_walkText hunnamed]
      rfl
  | on hleft hfollow hunnamed htyped hrest ih =>
      rw [typeName_of_followed hleft hfollow, hunnamed, htyped, ← modified_walkText hunnamed]
      change (do return modified _ (← ts.typeName _ _ _)) = _
      rw [ih]
      rfl

theorem Walks.unique {level : Nat} {source : E} {r : TypeReference} {walk walk' : List (Step E)}
    {base base' : Option String} (h : ts.Walks level source r walk base)
    (h' : ts.Walks level source r walk' base') : walk = walk' ∧ base = base' := by
  induction h generalizing walk' base' with
  | used hused => cases h' <;> first | omega | exact ⟨rfl, rfl⟩
  | lost hleft hlost => cases h' <;> simp_all
  | named hleft hfollow hnamed => cases h' <;> grind
  | untyped hleft hfollow hunnamed huntyped => cases h' <;> grind
  | on hleft hfollow hunnamed htyped hrest ih => cases h' <;> grind

/-- A reference is followed only while there are levels left, and each one before it has used
some. -/
theorem Walks.levels {level : Nat} {source : E} {r : TypeReference} {walk : List (Step E)}
    {base : Option String} (h : ts.Walks level source r walk base) {front back : List (Step E)}
    {x : Step E} (hsplit : walk = front ++ x :: back) :
    level + 2 * front.length + front.countP (·.1.isSignature) < 32 := by
  induction h generalizing front with
  | used | lost => simp at hsplit
  | named hleft | untyped hleft =>
      obtain ⟨rfl, -⟩ : front = [] ∧ _ := by simpa using List.append_eq_singleton_iff.1 hsplit.symm
      simpa using hleft
  | on hleft _ _ _ _ ih =>
      cases front with
      | nil => simpa using hleft
      | cons y front =>
          obtain ⟨rfl, hrest⟩ := List.cons.inj hsplit
          have hlt := ih hrest
          rw [List.length_cons, List.countP_cons]
          split
          next hr =>
            rw [hr] at hlt
            simp only [Bool.toNat_true] at hlt
            omega
          next hr => omega

/-! ## Entries that can be read -/

/-- The type of an entry refers to another entry. -/
def Refers (ts : TypeEntries E) (e e' : E) : Prop :=
  ∃ r, ts.type e = some (some r) ∧ ts.follow e r = .ok (some e')

/-- An entry is read, and its reference followed, without an error. -/
structure Answers (ts : TypeEntries E) (e : E) : Prop where
  name : ∃ name, ts.name e = .ok name
  type : ∃ type, ts.type e = some type
  follow : ∀ r, ts.type e = some (some r) → ∃ next, ts.follow e r = .ok next

/-- The entry refers to one that cannot be read, in one step or more, or is one itself. -/
def MeetsError (ts : TypeEntries E) (e : E) : Prop :=
  ∃ e', Relation.ReflTransGen ts.Refers e e' ∧ ¬ ts.Answers e'

theorem not_meetsError (hname : ∀ e, ∃ name, ts.name e = .ok name)
    (htype : ∀ e, ∃ type, ts.type e = some type)
    (hfollow : ∀ e r, ∃ next, ts.follow e r = .ok next) (e : E) : ¬ ts.MeetsError e := by
  rintro ⟨e', -, hunread⟩
  exact hunread ⟨hname e', htype e', fun r _ => hfollow e' r⟩

/-- An entry that is referred to leads further on the walk, or the walk ends in an error. -/
theorem walks_or_error_of_followed {level : Nat} {source e : E} {r : TypeReference}
    (left : level < 32) (hfollow : ts.follow source r = .ok (some e))
    (hnext : ∀ next, ts.type e = some (some next) →
      (∃ walk base, ts.Walks (level + (2 + r.isSignature.toNat)) e next walk base) ∨
        (∃ activity, ts.typeName (32 - (level + (2 + r.isSignature.toNat))) e next =
          .error activity) ∧ ts.MeetsError e) :
    (∃ walk base, ts.Walks level source r walk base) ∨
      (∃ activity, ts.typeName (32 - level) source r = .error activity) ∧ ts.MeetsError e := by
  have hname := typeName_of_followed left hfollow
  cases hread : ts.name e with
  | error activity =>
      refine .inr ⟨⟨activity, by rw [hname, hread]; rfl⟩, e, .refl, fun hanswers => ?_⟩
      obtain ⟨name, hok⟩ := hanswers.name
      cases hread.symm.trans hok
  | ok name =>
      cases name with
      | some name => exact .inl ⟨_, _, .named left hfollow hread⟩
      | none =>
          cases htype : ts.type e with
          | none =>
              refine .inr ⟨⟨.readingNestedType, by rw [hname, hread, htype]; rfl⟩, e, .refl,
                fun hanswers => ?_⟩
              obtain ⟨type, hok⟩ := hanswers.type
              cases htype.symm.trans hok
          | some type =>
              cases type with
              | none => exact .inl ⟨_, _, .untyped left hfollow hread htype⟩
              | some next =>
                  rcases hnext next htype with ⟨walk, base, hwalks⟩ | ⟨⟨activity, herror⟩, hmeets⟩
                  · exact .inl ⟨_, _, .on left hfollow hread htype hwalks⟩
                  · refine .inr ⟨⟨activity, ?_⟩, hmeets⟩
                    rw [hname, hread, htype]
                    change (do return modified _ (← ts.typeName _ _ _)) = _
                    rw [herror]
                    rfl

/-- A reference leads along a walk, unless the walk meets an entry that cannot be read. -/
theorem walks_or_error {source : E} {r : TypeReference} (htype : ts.type source = some (some r))
    (level : Nat) :
    (∃ walk base, ts.Walks level source r walk base) ∨
      (∃ activity, ts.typeName (32 - level) source r = .error activity) ∧
        ts.MeetsError source := by
  -- Each step leaves fewer levels, so the walk comes to an end in circles too.
  induction hlevels : 32 - level using Nat.strongRecOn generalizing level source r with
  | ind levels ih =>
      subst hlevels
      rcases Nat.lt_or_ge level 32 with left | used
      · cases hfollow : ts.follow source r with
        | error activity =>
            refine .inr ⟨⟨activity, ?_⟩, source, .refl, fun hanswers => ?_⟩
            · rw [typeName, dif_neg (Nat.sub_ne_zero_of_lt left), hfollow]
              rfl
            · obtain ⟨next, hnext⟩ := hanswers.follow r htype
              cases hfollow.symm.trans hnext
        | ok found =>
            cases found with
            | none => exact .inl ⟨[], none, .lost left hfollow⟩
            | some e =>
                have hstep := walks_or_error_of_followed left hfollow fun next hnext =>
                  ih _ (by omega) hnext _ rfl
                refine hstep.imp_right (And.imp_right ?_)
                rintro ⟨e', hreaches, hunread⟩
                exact ⟨e', .head ⟨r, htype, hfollow⟩ hreaches, hunread⟩
      · exact .inl ⟨[], none, .used used⟩

/-! ## The declared type of a variable -/

section WalksFrom

variable {e : E} {walk walk' : List (Step E)} {base base' : Option String}

theorem WalksFrom.declaredType (h : ts.WalksFrom e walk base) :
    ts.declaredType e = .ok (ts.walkText walk base) := by
  cases h with
  | untyped huntyped =>
      rw [TypeEntries.declaredType, huntyped]
      rfl
  | typed htyped hwalks =>
      rw [TypeEntries.declaredType, htyped]
      exact hwalks.typeName

theorem WalksFrom.unique (h : ts.WalksFrom e walk base) (h' : ts.WalksFrom e walk' base') :
    walk = walk' ∧ base = base' := by
  rcases h with huntyped | ⟨htyped, hwalks⟩ <;> rcases h' with huntyped' | ⟨htyped', hwalks'⟩
  · exact ⟨rfl, rfl⟩
  · cases huntyped.symm.trans htyped'
  · cases htyped.symm.trans huntyped'
  · cases htyped.symm.trans htyped'
    exact hwalks.unique hwalks'

theorem WalksFrom.levels (h : ts.WalksFrom e walk base) {front back : List (Step E)} {x : Step E}
    (hsplit : walk = front ++ x :: back) :
    2 * front.length + front.countP (·.1.isSignature) < 32 := by
  cases h with
  | untyped => simp at hsplit
  | typed _ hwalks => simpa using hwalks.levels hsplit

theorem WalksFrom.length_le (h : ts.WalksFrom e walk base) : walk.length ≤ 16 := by
  rcases List.eq_nil_or_concat walk with rfl | ⟨front, x, rfl⟩
  · exact Nat.zero_le 16
  · have hlevels := h.levels (List.concat_eq_append ..)
    rw [List.length_concat]
    omega

theorem walksFrom_or_error (ts : TypeEntries E) (e : E) :
    (∃ walk base, ts.WalksFrom e walk base) ∨
      (∃ activity, ts.declaredType e = .error activity) ∧ ts.MeetsError e := by
  cases htype : ts.type e with
  | none =>
      refine .inr ⟨⟨.readingVariableType, by rw [declaredType, htype]; rfl⟩, e, .refl,
        fun hanswers => ?_⟩
      obtain ⟨type, hok⟩ := hanswers.type
      cases htype.symm.trans hok
  | some type =>
      cases type with
      | none => exact .inl ⟨[], none, .untyped htype⟩
      | some r =>
          have hdeclared : ts.declaredType e = ts.typeName (32 - 0) e r := by
            rw [declaredType, htype]
            rfl
          rw [hdeclared]
          apply (walks_or_error htype 0).imp_left
          rintro ⟨walk, base, hwalks⟩
          exact ⟨walk, base, .typed htype hwalks⟩

end WalksFrom

end TypeEntries

/-- A reference that leads nowhere in an image: to an offset that no unit has an entry at, by a
signature that no unit has, or of an unknown kind. -/
def Info.LeadsNowhere (info : Info) : TypeReference → Prop
  | .inUnit _ => False
  | .inInfo offset => ∀ u ∈ info.units, u.inTypes = false → u.offset ≤ offset →
      u.place? (offset - u.offset) = none
  | .signature signature => ∀ u ∈ info.units, ∀ t, u.typeSignature = some t →
      t.signature ≠ signature
  | .unsupported => True

theorem map_some_ne_none {E : Type} (x : Except Activity E) :
    some <$> x ≠ (.ok none : Except Activity (Option E)) := by
  cases x <;> simp [Functor.map, Except.map]

theorem Info.unitAt?_eq_none_iff {info : Info} {offset : Nat} :
    info.unitAt? offset = none ↔ info.LeadsNowhere (.inInfo offset) := by
  simp [unitAt?, LeadsNowhere]

theorem Info.signed?_eq_none_iff {info : Info} {signature : Nat} :
    info.signed? signature = none ↔ info.LeadsNowhere (.signature signature) := by
  simp only [signed?, LeadsNowhere, List.findSome?_eq_none_iff]
  refine forall₂_congr fun u _ => ?_
  cases u.typeSignature <;> simp

theorem Info.follow_eq_none_iff {info : Info} {source : Entry} {r : TypeReference} :
    info.follow source r = .ok none ↔ info.LeadsNowhere r := by
  cases r with
  | inUnit offset => exact iff_of_false (map_some_ne_none _) id
  | inInfo offset =>
      rw [← unitAt?_eq_none_iff, follow]
      cases info.unitAt? offset with
      | none => exact iff_of_true rfl rfl
      | some u => exact iff_of_false (map_some_ne_none _) (Option.some_ne_none u)
  | signature signature =>
      rw [← signed?_eq_none_iff, follow]
      cases info.signed? signature with
      | none => exact iff_of_true rfl rfl
      | some found => exact iff_of_false (map_some_ne_none _) (Option.some_ne_none found)
  | unsupported => exact iff_of_true rfl trivial

namespace TypeEntries

variable {E : Type}

/-- Whatever entries refer to each other, in circles or not, there is one walk from an entry unless
it meets an error, and the name of the declared type is known from it: from the numbers of `const`
and of pointers without a name, and from the name at its end.  Neither their order nor any other
entry counts.  A walk has at most sixteen steps, as each costs two levels, or three by signature. -/
theorem declaredType_closed_form (ts : TypeEntries E) (e : E) :
    (∀ result, ts.declaredType e = .ok result ↔
      ∃ walk base, ts.WalksFrom e walk base ∧
        result = rendered (ts.unnamed Tag.constType walk) (ts.unnamed Tag.pointerType walk) base) ∧
      (∀ walk base walk' base', ts.WalksFrom e walk base → ts.WalksFrom e walk' base' →
        walk = walk' ∧ base = base') ∧
      (¬ ts.MeetsError e → ∃ walk base, ts.WalksFrom e walk base) ∧
      (∀ walk base, ts.WalksFrom e walk base → walk.length ≤ 16 ∧
        ∀ front x back, walk = front ++ x :: back →
          2 * front.length + front.countP (·.1.isSignature) < 32) ∧
      (∀ e' walk walk' base, ts.WalksFrom e walk base → ts.WalksFrom e' walk' base →
        ts.unnamed Tag.constType walk = ts.unnamed Tag.constType walk' →
        ts.unnamed Tag.pointerType walk = ts.unnamed Tag.pointerType walk' →
          ts.declaredType e = ts.declaredType e') ∧
      ∀ (info : Info) source r,
        info.typeEntries.follow source r = .ok none ↔ info.LeadsNowhere r := by
  refine ⟨fun result => ?_, fun _ _ _ _ h h' => h.unique h', fun hreadable => ?_,
    fun _ _ h => ⟨h.length_le, fun _ _ _ => h.levels⟩, fun e' walk walk' base h h' hc hp => ?_,
    fun _ _ _ => Info.follow_eq_none_iff⟩
  · constructor
    · intro hresult
      rcases walksFrom_or_error ts e with ⟨walk, base, hwalks⟩ | ⟨⟨activity, herror⟩, -⟩
      · exact ⟨walk, base, hwalks, Except.ok.inj (hresult.symm.trans hwalks.declaredType)⟩
      · cases hresult.symm.trans herror
    · rintro ⟨walk, base, hwalks, rfl⟩
      exact hwalks.declaredType
  · exact (walksFrom_or_error ts e).resolve_right fun h => hreadable h.2
  · rw [h.declaredType, h'.declaredType, walkText, walkText, hc, hp]

/-- A variable whose type is a `const` pointer to itself. -/
def circular : TypeEntries (Fin 3) where
  tag e := [Tag.variableDecl, Tag.constType, Tag.pointerType][e]
  name e := .ok ([some "x", none, none][e])
  type e := some [some (.inUnit 1), some (.signature 2), some (.inUnit 1)][e]
  follow
    | _, .inUnit offset | _, .signature offset => .ok (if offset = 1 then some 1 else some 2)
    | _, _ => .ok none

theorem not_meetsError_circular : ¬ circular.MeetsError 0 := by
  apply not_meetsError (fun _ => ⟨_, rfl⟩) (fun _ => ⟨_, rfl⟩)
  intro _ r
  cases r <;> exact ⟨_, rfl⟩

theorem declaredType_closed_form_circular :
    ¬ circular.MeetsError 0 ∧
      circular.declaredType 0 =
        .ok (some "const const const const const const const void * * * * * *") ∧
      ∃ walk base, circular.WalksFrom 0 walk base ∧ walk.length ≤ 16 ∧
        some "const const const const const const const void * * * * * *" =
          rendered (circular.unnamed Tag.constType walk) (circular.unnamed Tag.pointerType walk)
            base := by
  have hclosed := declaredType_closed_form circular 0
  have hname : circular.declaredType 0 =
      .ok (some "const const const const const const const void * * * * * *") := by cbv
  obtain ⟨walk, base, hwalks, htext⟩ := (hclosed.1 _).1 hname
  exact ⟨not_meetsError_circular, hname, walk, base, hwalks,
    (hclosed.2.2.2.1 walk base hwalks).1, htext⟩

end TypeEntries

end ObjectView.Debug
