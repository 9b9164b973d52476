import ObjectView.Proofs.Debug.Innermost

/-!
# Declarations in nested scopes

The search enters a scope only if the scope covers the address, so of the declarations in scopes it
comes to those all of whose scopes cover it.  A scope need not lie within what the scope around it
covers: the code of a function that is written inside another one lies elsewhere.  What such a
scope declares is passed over, even at an address of its own, and a declaration of the same name
that is in no scope is taken for it.

Beside the search stands one that enters every scope and asks only of the innermost one whether it
covers the address.  The two differ only for that reason.
-/

namespace ObjectView.Debug

variable {E : Type} {pc : UInt64} {wanted : String}

/-- The first entry of a row is its entry `i`, and `path` leads from there to a declaration inside
these scopes of the row, the outermost of which is the first.  What they cover is left open. -/
inductive Row.Enclosed {E : Type} :
    Row E → (i : Nat) → (scopes : List (Die E)) → (path : List Nat) → Die E → Prop
  | here {d inside behind i} (h : d.tag.isDeclaration) :
      Enclosed (.die d inside behind) i [] [i] d
  | scope {d inside behind i scopes path e} (hscope : d.tag.isScope)
      (h : Enclosed inside 0 scopes path e) :
      Enclosed (.die d inside behind) i (d :: scopes) (i :: path) e
  | group {d inside behind i scopes path e} (hgroup : d.tag = Tag.namespaceDecl)
      (h : Enclosed inside 0 scopes path e) :
      Enclosed (.die d inside behind) i scopes (i :: path) e
  | behind {d inside behind i scopes path e} (h : Enclosed behind (i + 1) scopes path e) :
      Enclosed (.die d inside behind) i scopes path e

/-- A declaration inside scopes of a unit.  The path begins with the number of the unit. -/
inductive Enclosed (units : List (Row E)) : List (Die E) → List Nat → Die E → Prop
  | inUnit {k unit scopes path e} (hunit : units[k]? = some unit)
      (h : unit.Enclosed 0 scopes path e) : Enclosed units scopes (k :: path) e

/-! ## What is visible of them -/

theorem Row.visible_iff_enclosed {row : Row E} {i depth : Nat} {path : List Nat} {e : Die E} :
    row.Visible pc i depth path e ↔
      ∃ scopes, row.Enclosed i scopes path e ∧ scopes.length = depth ∧
        ∀ s ∈ scopes, s.covers pc = true := by
  constructor
  · intro h
    induction h with
    | here hdecl => exact ⟨[], .here hdecl, rfl, by simp⟩
    | scope hscope hcovers _ ih =>
        obtain ⟨scopes, henclosed, rfl, hall⟩ := ih
        exact ⟨_, .scope hscope henclosed, rfl, List.forall_mem_cons.2 ⟨hcovers, hall⟩⟩
    | group hgroup _ ih =>
        obtain ⟨scopes, henclosed, hlength, hall⟩ := ih
        exact ⟨scopes, .group hgroup henclosed, hlength, hall⟩
    | behind _ ih =>
        obtain ⟨scopes, henclosed, hlength, hall⟩ := ih
        exact ⟨scopes, .behind henclosed, hlength, hall⟩
  · rintro ⟨scopes, henclosed, rfl, hall⟩
    induction henclosed with
    | here hdecl => exact .here hdecl
    | scope hscope _ ih =>
        obtain ⟨hcovers, hall⟩ := List.forall_mem_cons.1 hall
        exact .scope hscope hcovers (ih hall)
    | group hgroup _ ih => exact .group hgroup (ih hall)
    | behind _ ih => exact .behind (ih hall)

theorem visible_iff_enclosed {units : List (Row E)} {depth : Nat} {path : List Nat} {e : Die E} :
    Visible pc units depth path e ↔
      ∃ scopes, Enclosed units scopes path e ∧ scopes.length = depth ∧
        ∀ s ∈ scopes, s.covers pc = true := by
  constructor
  · rintro ⟨hunit, h⟩
    obtain ⟨scopes, henclosed, hlength, hall⟩ := Row.visible_iff_enclosed.1 h
    exact ⟨scopes, .inUnit hunit henclosed, hlength, hall⟩
  · rintro ⟨scopes, ⟨hunit, h⟩, hlength, hall⟩
    exact .inUnit hunit (Row.visible_iff_enclosed.2 ⟨scopes, h, hlength, hall⟩)

/-! ## One declaration at the end of a path -/

theorem Row.Enclosed.exists_cons {row : Row E} {i : Nat} {scopes : List (Die E)} {path : List Nat}
    {e : Die E} (h : row.Enclosed i scopes path e) : ∃ j rest, path = j :: rest ∧ i ≤ j := by
  induction h with
  | here => exact ⟨_, _, rfl, Nat.le_refl _⟩
  | scope => exact ⟨_, _, rfl, Nat.le_refl _⟩
  | group => exact ⟨_, _, rfl, Nat.le_refl _⟩
  | behind _ ih =>
      obtain ⟨j, rest, hpath, hj⟩ := ih
      exact ⟨j, rest, hpath, Nat.le_of_succ_le hj⟩

/-- A path of entry `i` does not lead behind it. -/
theorem Row.Enclosed.head_ne {row : Row E} {i : Nat} {scopes : List (Die E)} {path : List Nat}
    {e : Die E} (h : row.Enclosed (i + 1) scopes (i :: path) e) : False := by
  obtain ⟨j, rest, hpath, hj⟩ := h.exists_cons
  cases hpath
  exact Nat.not_succ_le_self i hj

theorem Row.Enclosed.ne_nil {row : Row E} {i : Nat} {scopes : List (Die E)} {e : Die E}
    (h : row.Enclosed i scopes [] e) : False := by
  obtain ⟨j, rest, hpath, -⟩ := h.exists_cons
  cases hpath

theorem Row.Enclosed.unique {row : Row E} {i : Nat} {scopes scopes' : List (Die E)}
    {path : List Nat} {e e' : Die E} (h : row.Enclosed i scopes path e)
    (h' : row.Enclosed i scopes' path e') : scopes' = scopes ∧ e' = e := by
  induction h generalizing scopes' e' with
  | here hdecl =>
      cases h' with
      | here => exact ⟨rfl, rfl⟩
      | scope _ hinside => exact hinside.ne_nil.elim
      | group _ hinside => exact hinside.ne_nil.elim
      | behind hbehind => exact hbehind.head_ne.elim
  | scope hscope hinside ih =>
      cases h' with
      | here => exact hinside.ne_nil.elim
      | scope _ hinside' =>
          obtain ⟨rfl, rfl⟩ := ih hinside'
          exact ⟨rfl, rfl⟩
      | group hgroup =>
          rw [hgroup] at hscope
          cases hscope
      | behind hbehind => exact hbehind.head_ne.elim
  | group hgroup hinside ih =>
      cases h' with
      | here => exact hinside.ne_nil.elim
      | scope hscope =>
          rw [hgroup] at hscope
          cases hscope
      | group _ hinside' => exact ih hinside'
      | behind hbehind => exact hbehind.head_ne.elim
  | behind hbehind ih =>
      cases h' with
      | here => exact hbehind.head_ne.elim
      | scope => exact hbehind.head_ne.elim
      | group => exact hbehind.head_ne.elim
      | behind hbehind' => exact ih hbehind'

theorem Enclosed.unique {units : List (Row E)} {scopes scopes' : List (Die E)} {path : List Nat}
    {e e' : Die E} (h : Enclosed units scopes path e) (h' : Enclosed units scopes' path e') :
    scopes' = scopes ∧ e' = e := by
  obtain ⟨hunit, h⟩ := h
  obtain ⟨hunit', h'⟩ := h'
  rw [hunit] at hunit'
  obtain rfl := Option.some.inj hunit'
  exact h.unique h'

theorem Before.trichotomy (p q : List Nat) : Before p q ∨ p = q ∨ Before q p := by
  induction p generalizing q with
  | nil =>
      cases q with
      | nil => exact .inr (.inl rfl)
      | cons j q => exact .inl .inside
  | cons i p ih =>
      cases q with
      | nil => exact .inr (.inr .inside)
      | cons j q =>
          rcases Nat.lt_trichotomy i j with hij | rfl | hji
          · exact .inl (.behind hij)
          · rcases ih q with h | rfl | h
            · exact .inl (.same h)
            · exact .inr (.inl rfl)
            · exact .inr (.inr (.same h))
          · exact .inr (.inr (.behind hji))

theorem Innermost.unique {units : List (Row E)} {depth depth' : Nat} {path path' : List Nat}
    {d d' : Die E} (h : Innermost pc wanted units depth path d)
    (h' : Innermost pc wanted units depth' path' d') : depth' = depth ∧ path' = path ∧ d' = d := by
  obtain rfl : depth' = depth :=
    Nat.le_antisymm (h.deepest h'.visible h'.named) (h'.deepest h.visible h.named)
  obtain rfl : path' = path := by
    rcases Before.trichotomy path' path with hbefore | hpath | hbefore
    · exact absurd hbefore (h.first h'.visible h'.named)
    · exact hpath
    · exact absurd hbefore (h'.first h.visible h.named)
  obtain ⟨scopes, henclosed, -, -⟩ := visible_iff_enclosed.1 h.visible
  obtain ⟨scopes', henclosed', -, -⟩ := visible_iff_enclosed.1 h'.visible
  exact ⟨rfl, rfl, (henclosed.unique henclosed').2⟩

/-! ## A search that enters every scope -/

/-- The scopes of a declaration, of which only the innermost one is asked whether it covers the
address.  A declaration in no scope is there at every address. -/
def CoveredWithin (pc : UInt64) (scopes : List (Die E)) : Prop :=
  ∀ s ∈ scopes.getLast?, s.covers pc = true

theorem coveredWithin_of_all {scopes : List (Die E)} (h : ∀ s ∈ scopes, s.covers pc = true) :
    CoveredWithin pc scopes :=
  fun s hs => h s (List.mem_of_getLast? hs)

/-- Of the declarations of the name that are in no scope or in one that covers the address, the
first of those in the most scopes. -/
structure InnermostCovered (pc : UInt64) (wanted : String) (units : List (Row E))
    (scopes : List (Die E)) (path : List Nat) (d : Die E) : Prop where
  enclosed : Enclosed units scopes path d
  covered : CoveredWithin pc scopes
  named : d.name = some wanted
  deepest {scopes' path' d'} : Enclosed units scopes' path' d' → CoveredWithin pc scopes' →
    d'.name = some wanted → scopes'.length ≤ scopes.length
  first {scopes' path' d'} : Enclosed units scopes' path' d' → CoveredWithin pc scopes' →
    d'.name = some wanted → scopes'.length = scopes.length → ¬ Before path' path

/-- Where all its scopes cover the address, it is what is found by entering only such scopes. -/
theorem InnermostCovered.innermost_iff {units : List (Row E)} {scopes : List (Die E)}
    {path : List Nat} {d : Die E} (h : InnermostCovered pc wanted units scopes path d) :
    Innermost pc wanted units scopes.length path d ↔ ∀ s ∈ scopes, s.covers pc = true := by
  constructor
  · intro hinnermost
    obtain ⟨scopes', henclosed', -, hall⟩ := visible_iff_enclosed.1 hinnermost.visible
    obtain ⟨rfl, -⟩ := h.enclosed.unique henclosed'
    exact hall
  · intro hall
    refine ⟨visible_iff_enclosed.2 ⟨scopes, h.enclosed, rfl, hall⟩, h.named, ?_, ?_⟩
    · intro depth' path' d' hvisible hname
      obtain ⟨scopes', henclosed', rfl, hall'⟩ := visible_iff_enclosed.1 hvisible
      exact h.deepest henclosed' (coveredWithin_of_all hall') hname
    · intro path' d' hvisible hname
      obtain ⟨scopes', henclosed', hlength, hall'⟩ := visible_iff_enclosed.1 hvisible
      exact h.first henclosed' (coveredWithin_of_all hall') hname hlength

namespace Info

/-- What is found is a declaration all of whose scopes cover the address, and one in a scope is
found exactly if there is such a one of the name in a scope.  The declaration that a search would
find that enters every scope is found exactly if not only the innermost of its scopes covers the
address, but all of them. -/
theorem declaration_in_scope_found_iff {info : Info} {units : List (Row Entry)}
    (h : info.Reads units) (pc : UInt64) (wanted : String) :
    let found := entries.search pc wanted info.fuel (info.units.map Entry.root?)
    (∀ best, found = .ok (some best) → ∃ scopes path d, Enclosed units scopes path d ∧
        d.name = some wanted ∧ (∀ s ∈ scopes, s.covers pc = true) ∧
        best = ⟨scopes.length, d.entry⟩) ∧
      ((∃ best, found = .ok (some best) ∧ 0 < best.depth) ↔
        ∃ scopes path d, Enclosed units scopes path d ∧ d.name = some wanted ∧ scopes ≠ [] ∧
          ∀ s ∈ scopes, s.covers pc = true) ∧
      ∀ scopes path d, InnermostCovered pc wanted units scopes path d →
        (Innermost pc wanted units scopes.length path d ↔ ∀ s ∈ scopes, s.covers pc = true) ∧
          ((∀ s ∈ scopes, s.covers pc = true) →
            found = .ok (some ⟨scopes.length, d.entry⟩)) := by
  intro found
  have hshows : ∀ e d, Entry.Reads e d → entries.Shows e d := fun _ _ => shows_of_reads
  rcases Entries.search_innermost pc wanted hshows h.readsRoot with
    ⟨hnone, hhidden⟩ | ⟨depth, path, d, hd, hfound⟩
  · have hnone : found = .ok none := hnone
    have hnothing {scopes path d} (henclosed : Enclosed units scopes path d)
        (hname : d.name = some wanted) : ¬ ∀ s ∈ scopes, s.covers pc = true := by
      intro hall
      exact hhidden _ _ _ (visible_iff_enclosed.2 ⟨scopes, henclosed, rfl, hall⟩) hname
    rw [hnone]
    refine ⟨nofun, iff_of_false nofun ?_,
      fun scopes path d hd => ⟨hd.innermost_iff, fun hall => ?_⟩⟩
    · rintro ⟨scopes, path, d, henclosed, hname, -, hall⟩
      exact hnothing henclosed hname hall
    · exact absurd hall (hnothing hd.enclosed hd.named)
  · have hfound : found = .ok (some ⟨depth, d.entry⟩) := hfound
    obtain ⟨scopes, henclosed, rfl, hall⟩ := visible_iff_enclosed.1 hd.visible
    rw [hfound]
    refine ⟨fun best hbest => ?_, ⟨?_, ?_⟩, fun scopes' path' d' hd' => ⟨hd'.innermost_iff, ?_⟩⟩
    · cases hbest
      exact ⟨scopes, path, d, henclosed, hd.named, hall, rfl⟩
    · rintro ⟨best, hbest, hpos⟩
      cases hbest
      exact ⟨scopes, path, d, henclosed, hd.named, List.ne_nil_of_length_pos hpos, hall⟩
    · rintro ⟨scopes', path', d', henclosed', hname', hne, hall'⟩
      have hvisible : Visible pc units scopes'.length path' d' :=
        visible_iff_enclosed.2 ⟨scopes', henclosed', rfl, hall'⟩
      have hle := hd.deepest hvisible hname'
      have hpos := List.length_pos_iff.2 hne
      exact ⟨_, rfl, Nat.lt_of_lt_of_le hpos hle⟩
    · intro hall'
      obtain ⟨hlength, -, rfl⟩ := hd.unique (hd'.innermost_iff.2 hall')
      rw [hlength]

theorem declaration_in_scope_found_iff_block :
    Reads ⟨[blockUnit]⟩ [outerRow] ∧
      ∃ best, entries.search 0x1008 "x" (fuel ⟨[blockUnit]⟩) [Entry.root? blockUnit] =
        .ok (some best) ∧ 0 < best.depth := by
  have hreads : Reads ⟨[blockUnit]⟩ [outerRow] :=
    .cons ⟨_, rfl, .parent rfl rfl reads_outerRow⟩ .nil
  have henclosed : Enclosed [outerRow]
      [dieAt blockUnit 9 block none none [⟨0x1000, 0x1010⟩]] [0, 2, 0]
      (dieAt blockUnit 19 typedVariable (some "x") (some (.inUnit 12)) []) :=
    .inUnit rfl (.behind (.behind (.scope rfl (.here rfl))))
  have hfound := (declaration_in_scope_found_iff hreads 0x1008 "x").2.1
  exact ⟨hreads, hfound.2 ⟨_, _, _, henclosed, rfl, List.cons_ne_nil _ _, by decide⟩⟩

/-! ## A function inside another one

A unit with the types `int` and `char`, a variable `x` of type `int`, and a function from `0x1000`
up to `0x1010`.  Inside this function is another one, the code of which is from `0x2000` up to
`0x2010`, with a variable `x` of type `char`. -/

def function : Abbreviation :=
  ⟨6, Tag.subprogram, true,
    [⟨AttributeName.lowAddress, 0x01, none⟩, ⟨AttributeName.highAddress, 0x0b, none⟩]⟩

def nestedUnit : InfoUnit where
  encoding := ⟨4, false, 8⟩
  inTypes := false
  offset := 0
  size := 11
  abbreviations := 0
  typeSignature := none
  entries := ⟨#[1, 2, 0x69, 0x6e, 0x74, 0, 2, 0x63, 0x68, 0x61, 0x72, 0, 5, 0x78, 0, 12,
    6, 0, 0x10, 0, 0, 0, 0, 0, 0, 0x10, 6, 0, 0x20, 0, 0, 0, 0, 0, 0, 0x10, 5, 0x78, 0, 17,
    0, 0, 0]⟩
  sections := { bigEndian := false }
  table := [⟨1, 0x11, true, []⟩, namedType, typedVariable, function]

def outerFunction : Die Entry :=
  dieAt nestedUnit 16 function none none [⟨0x1000, 0x1010⟩]

def innerFunction : Die Entry :=
  dieAt nestedUnit 26 function none none [⟨0x2000, 0x2010⟩]

def innerVariable : Die Entry :=
  dieAt nestedUnit 36 typedVariable (some "x") (some (.inUnit 17)) []

def nestedRow : Row Entry :=
  .die (dieAt nestedUnit 1 namedType (some "int") none []) .ended <|
    .die (dieAt nestedUnit 6 namedType (some "char") none []) .ended <|
      .die (dieAt nestedUnit 12 typedVariable (some "x") (some (.inUnit 12)) []) .ended <|
        .die outerFunction (.die innerFunction (.die innerVariable .ended .ended) .ended) .ended

theorem reads_innerFunction :
    entries.ReadsRow Entry.Reads (nestedUnit, 26)
      (.die innerFunction (.die innerVariable .ended .ended) .ended) (nestedUnit, 42) := by
  have hfunction : Entry.past? ⟨nestedUnit, 26, function, 27⟩ = some 41 := by decide +kernel
  have hlocal : Entry.past? ⟨nestedUnit, 36, typedVariable, 37⟩ = some 40 := by decide +kernel
  refine .parent rfl (reads_scope (by decide) ?_) rfl rfl
    (past_of_past? hfunction) ?_ (.ended rfl)
  · decide +kernel
  refine .leaf rfl (reads_declaration (by decide) ?_ ?_) rfl (past_of_past? hlocal)
    (.ended rfl)
  · decide +kernel
  · decide +kernel

theorem reads_nestedRow :
    entries.ReadsRow Entry.Reads (nestedUnit, 1) nestedRow (nestedUnit, 43) := by
  have hint : Entry.past? ⟨nestedUnit, 1, namedType, 2⟩ = some 6 := by decide +kernel
  have hchar : Entry.past? ⟨nestedUnit, 6, namedType, 7⟩ = some 12 := by decide +kernel
  have hglobal : Entry.past? ⟨nestedUnit, 12, typedVariable, 13⟩ = some 16 := by decide +kernel
  have hfunction : Entry.past? ⟨nestedUnit, 16, function, 17⟩ = some 42 := by decide +kernel
  refine .leaf rfl (reads_other (by decide) (by decide)) rfl (past_of_past? hint) ?_
  refine .leaf rfl (reads_other (by decide) (by decide)) rfl (past_of_past? hchar) ?_
  refine .leaf rfl (reads_declaration (by decide) ?_ ?_) rfl
    (past_of_past? hglobal) ?_
  · decide +kernel
  · decide +kernel
  refine .parent rfl (reads_scope (by decide) ?_) rfl rfl
    (past_of_past? hfunction) reads_innerFunction (.ended rfl)
  decide +kernel

/-- In the code of the inner function its own variable is passed over for the one that is in no
scope, because the outer function does not cover the code of the inner one. -/
theorem declaration_hidden_in_nested_function :
    Reads ⟨[nestedUnit]⟩ [nestedRow] ∧
      Enclosed [nestedRow] [outerFunction, innerFunction] [0, 3, 0, 0] innerVariable ∧
      innerFunction.covers 0x2008 = true ∧ innerVariable.name = some "x" ∧
      innerVariable.type = some (.inUnit 17) ∧
      (entries.search 0x2008 "x" (fuel ⟨[nestedUnit]⟩) [Entry.root? nestedUnit]).map
        (·.map Candidate.depth) = .ok (some 0) ∧
      declaredType ⟨[nestedUnit]⟩ 0x2008 "x" = .ok (some "int") := by
  have hreads : Reads ⟨[nestedUnit]⟩ [nestedRow] :=
    .cons ⟨_, rfl, .parent rfl rfl reads_nestedRow⟩ .nil
  have henclosed : Enclosed [nestedRow] [outerFunction, innerFunction] [0, 3, 0, 0]
      innerVariable :=
    .inUnit rfl (.behind (.behind (.behind (.scope rfl (.scope rfl (.here rfl))))))
  exact ⟨hreads, henclosed, by decide, rfl, rfl, by decide +kernel, by decide +kernel⟩

end Info

end ObjectView.Debug
