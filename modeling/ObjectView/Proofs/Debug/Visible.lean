import ObjectView.Debug.Ranges

/-!
# Visible declarations

Entries as trees, and the declarations among them that are visible at an address: those on whose
way from the root there are only namespaces and scopes that cover the address.  How deep one is
counts these scopes.  All of them are listed in the order in which the entries are written.
-/

namespace ObjectView.Debug

/-- What a reader yields of an entry. -/
structure Die (E : Type) where
  entry : E
  tag : Tag
  name : Option String
  type : Option TypeReference
  ranges : List Span

def Die.covers {E : Type} (d : Die E) (pc : UInt64) : Bool :=
  d.ranges.any (·.contains pc)

/-- A row of entries, each with the row inside it. -/
inductive Row (E : Type) where
  | ended
  | die (d : Die E) (inside behind : Row E)

/-- The first entry of a row is its entry `i`, and `path` leads from there to a declaration that
is visible at `pc` and inside `depth` scopes of the row. -/
inductive Row.Visible {E : Type} (pc : UInt64) :
    Row E → (i depth : Nat) → (path : List Nat) → Die E → Prop
  | here {d inside behind i} (h : d.tag.isDeclaration) :
      Visible pc (.die d inside behind) i 0 [i] d
  | scope {d inside behind i depth path e} (hscope : d.tag.isScope) (hcovers : d.covers pc)
      (h : Visible pc inside 0 depth path e) :
      Visible pc (.die d inside behind) i (depth + 1) (i :: path) e
  | group {d inside behind i depth path e} (hgroup : d.tag = Tag.namespaceDecl)
      (h : Visible pc inside 0 depth path e) :
      Visible pc (.die d inside behind) i depth (i :: path) e
  | behind {d inside behind i depth path e} (h : Visible pc behind (i + 1) depth path e) :
      Visible pc (.die d inside behind) i depth path e

variable {E : Type} {pc : UInt64} {wanted : String}

/-- Visibility in units, each of which is given by the row inside its root.  The path begins with
the number of the unit. -/
inductive Visible (pc : UInt64) (units : List (Row E)) : Nat → List Nat → Die E → Prop
  | inUnit {k unit depth path e} (hunit : units[k]? = some unit)
      (h : unit.Visible pc 0 depth path e) : Visible pc units depth (k :: path) e

theorem Row.Visible.isDeclaration {row : Row E} {i depth : Nat} {path : List Nat} {e : Die E}
    (h : row.Visible pc i depth path e) : e.tag.isDeclaration = true := by
  induction h with
  | here h => exact h
  | scope _ _ _ ih => exact ih
  | group _ _ ih => exact ih
  | behind _ ih => exact ih

theorem Visible.isDeclaration {units : List (Row E)} {depth : Nat} {path : List Nat} {e : Die E}
    (h : Visible pc units depth path e) : e.tag.isDeclaration = true := by
  obtain ⟨-, h⟩ := h
  exact h.isDeclaration

/-- The order in which entries are written: one comes before all inside it, and these come before
what is behind it. -/
inductive Before : List Nat → List Nat → Prop
  | inside {i path} : Before [] (i :: path)
  | behind {i j path path'} (h : i < j) : Before (i :: path) (j :: path')
  | same {i path path'} (h : Before path path') : Before (i :: path) (i :: path')

theorem Before.asymm {p q : List Nat} (h : Before p q) : ¬ Before q p := by
  induction h with
  | inside => nofun
  | behind hij =>
      intro h
      cases h with
      | behind hji => exact Nat.lt_asymm hij hji
      | same => exact Nat.lt_irrefl _ hij
  | same _ ih =>
      intro h
      cases h with
      | behind hii => exact Nat.lt_irrefl _ hii
      | same h => exact ih h

theorem Before.irrefl (p : List Nat) : ¬ Before p p :=
  fun h => h.asymm h

/-- Of the visible declarations with the name, the first of those in the most scopes. -/
structure Innermost (pc : UInt64) (wanted : String) (units : List (Row E)) (depth : Nat)
    (path : List Nat) (d : Die E) : Prop where
  visible : Visible pc units depth path d
  named : d.name = some wanted
  deepest {depth' path' d'} : Visible pc units depth' path' d' → d'.name = some wanted →
    depth' ≤ depth
  first {path' d'} : Visible pc units depth path' d' → d'.name = some wanted →
    ¬ Before path' path

/-! ## Listing what is visible -/

/-- A visible declaration with the way to it. -/
structure Sighting (E : Type) where
  depth : Nat
  path : List Nat
  die : Die E

/-- The sighting from outside entry `i`, which counts for `scopes`. -/
def Sighting.within (i scopes : Nat) (s : Sighting E) : Sighting E :=
  ⟨s.depth + scopes, i :: s.path, s.die⟩

/-- How many scopes more it is inside an entry, where it is looked into at all. -/
def Die.scopes? (d : Die E) (pc : UInt64) : Option Nat :=
  if d.tag.isScope then if d.covers pc then some 1 else none
  else if d.tag = Tag.namespaceDecl then some 0
  else none

/-- What is visible at an entry, given what is visible inside it. -/
def Die.sightings (d : Die E) (pc : UInt64) (i : Nat) (inside : List (Sighting E)) :
    List (Sighting E) :=
  if d.tag.isDeclaration then [⟨0, [i], d⟩]
  else
    match d.scopes? pc with
    | some scopes => inside.map (·.within i scopes)
    | none => []

def Row.sightings (pc : UInt64) : Row E → (i : Nat) → List (Sighting E)
  | .ended, _ => []
  | .die d inside behind, i =>
      d.sightings pc i (inside.sightings pc 0) ++ behind.sightings pc (i + 1)

/-- What is visible in units, the first of which is unit `k`. -/
def sightings (pc : UInt64) : List (Row E) → (k : Nat) → List (Sighting E)
  | [], _ => []
  | unit :: units, k =>
      (unit.sightings pc 0).map (·.within k 0) ++ sightings pc units (k + 1)

theorem Die.scopes?_eq_some_iff {d : Die E} {n : Nat} :
    d.scopes? pc = some n ↔
      d.tag.isScope = true ∧ d.covers pc = true ∧ n = 1 ∨ d.tag = Tag.namespaceDecl ∧ n = 0 := by
  rw [scopes?]
  by_cases hscope : d.tag.isScope
  · have hgroup : d.tag ≠ Tag.namespaceDecl := by
      intro h
      rw [h] at hscope
      cases hscope
    rw [if_pos hscope]
    by_cases hcovers : d.covers pc
    · simp [hscope, hcovers, hgroup, eq_comm]
    · simp [hcovers, hgroup]
  · rw [if_neg hscope]
    by_cases hgroup : d.tag = Tag.namespaceDecl
    · rw [if_pos hgroup, Option.some.injEq]
      constructor
      · rintro rfl
        exact .inr ⟨hgroup, rfl⟩
      · rintro (⟨h, -, -⟩ | ⟨-, rfl⟩)
        · exact absurd h hscope
        · rfl
    · simp [hscope, hgroup]

theorem Die.isDeclaration_eq_false {d : Die E} {n : Nat} (h : d.scopes? pc = some n) :
    d.tag.isDeclaration = false := by
  rcases scopes?_eq_some_iff.1 h with ⟨hscope, -, -⟩ | ⟨hgroup, -⟩
  · simp only [Tag.isScope, Bool.or_eq_true, decide_eq_true_eq] at hscope
    rcases hscope with (htag | htag) | htag
    all_goals
      rw [htag]
      rfl
  · rw [hgroup]
    rfl

theorem Die.mem_sightings_iff {d : Die E} {i : Nat} {inside : List (Sighting E)}
    {s : Sighting E} :
    s ∈ d.sightings pc i inside ↔
      d.tag.isDeclaration = true ∧ s = ⟨0, [i], d⟩ ∨
        ∃ scopes, d.scopes? pc = some scopes ∧ ∃ t ∈ inside, s = t.within i scopes := by
  cases hscopes : d.scopes? pc with
  | none => by_cases hdecl : d.tag.isDeclaration <;> simp [sightings, hdecl, hscopes]
  | some scopes =>
      have hdecl := isDeclaration_eq_false hscopes
      simp [sightings, hdecl, hscopes, eq_comm]

theorem Row.mem_sightings_iff {row : Row E} {i : Nat} {s : Sighting E} :
    s ∈ row.sightings pc i ↔ row.Visible pc i s.depth s.path s.die := by
  induction row generalizing i s with
  | ended =>
      refine iff_of_false List.not_mem_nil ?_
      rintro ⟨⟩
  | die d inside behind ihinside ihbehind =>
      rw [sightings, List.mem_append, Die.mem_sightings_iff, ihbehind]
      constructor
      · rintro ((⟨hdecl, rfl⟩ | ⟨scopes, hscopes, t, ht, rfl⟩) | h)
        · exact .here hdecl
        · have hvisible := ihinside.1 ht
          rcases Die.scopes?_eq_some_iff.1 hscopes with ⟨hscope, hcovers, rfl⟩ | ⟨hgroup, rfl⟩
          · exact .scope hscope hcovers hvisible
          · exact .group hgroup hvisible
        · exact .behind h
      · obtain ⟨depth, path, e⟩ := s
        intro h
        cases h with
        | here hdecl => exact .inl (.inl ⟨hdecl, rfl⟩)
        | @scope _ _ _ _ depth path _ hscope hcovers h =>
            have hmem : ⟨depth, path, e⟩ ∈ inside.sightings pc 0 := ihinside.2 h
            have hscopes : d.scopes? pc = some 1 :=
              Die.scopes?_eq_some_iff.2 (.inl ⟨hscope, hcovers, rfl⟩)
            exact .inl (.inr ⟨1, hscopes, _, hmem, rfl⟩)
        | @group _ _ _ _ _ path _ hgroup h =>
            have hmem : ⟨depth, path, e⟩ ∈ inside.sightings pc 0 := ihinside.2 h
            have hscopes : d.scopes? pc = some 0 :=
              Die.scopes?_eq_some_iff.2 (.inr ⟨hgroup, rfl⟩)
            exact .inl (.inr ⟨0, hscopes, _, hmem, rfl⟩)
        | behind h => exact .inr h

theorem mem_sightings_iff {units : List (Row E)} {s : Sighting E} :
    s ∈ sightings pc units 0 ↔ Visible pc units s.depth s.path s.die := by
  have hfrom (k : Nat) : s ∈ sightings pc units k ↔
      ∃ j path unit, units[j]? = some unit ∧ s.path = (k + j) :: path ∧
        unit.Visible pc 0 s.depth path s.die := by
    induction units generalizing k with
    | nil => simp [sightings]
    | cons unit units ih =>
        rw [sightings, List.mem_append, ih, List.mem_map]
        constructor
        · rintro (⟨t, ht, rfl⟩ | ⟨j, path, unit', hunit, hpath, h⟩)
          · exact ⟨0, t.path, unit, rfl, rfl, Row.mem_sightings_iff.1 ht⟩
          · exact ⟨j + 1, path, unit', hunit, by rw [hpath, Nat.add_right_comm]; rfl, h⟩
        · rintro ⟨_ | j, path, unit', hunit, hpath, h⟩
          · obtain rfl : unit = unit' := Option.some.inj hunit
            refine .inl ⟨⟨s.depth, path, s.die⟩, Row.mem_sightings_iff.2 h, ?_⟩
            rw [Sighting.within, ← Nat.add_zero k, ← hpath]
            rfl
          · exact .inr ⟨j, path, unit', hunit, by rw [hpath, Nat.add_right_comm]; rfl, h⟩
  rw [hfrom 0]
  constructor
  · rintro ⟨j, path, unit, hunit, hpath, h⟩
    rw [hpath, Nat.zero_add]
    exact .inUnit hunit h
  · obtain ⟨depth, path, d⟩ := s
    rintro ⟨hunit, h⟩
    exact ⟨_, _, _, hunit, by rw [Nat.zero_add], h⟩

/-! ## Their order -/

theorem pairwise_map_within {l : List (Sighting E)}
    (h : l.Pairwise fun s t => Before s.path t.path) (i scopes : Nat) :
    (l.map (·.within i scopes)).Pairwise fun s t => Before s.path t.path :=
  List.pairwise_map.2 (h.imp fun hst => .same hst)

/-- Lists in order, one of what is inside entry `i` and one of what is behind it. -/
theorem pairwise_append {i : Nat} {l m : List (Sighting E)}
    (hl : l.Pairwise fun s t => Before s.path t.path)
    (hm : m.Pairwise fun s t => Before s.path t.path)
    (hinside : ∀ s ∈ l, ∃ path, s.path = i :: path)
    (hbehind : ∀ s ∈ m, ∃ j path, s.path = j :: path ∧ i < j) :
    (l ++ m).Pairwise fun s t => Before s.path t.path := by
  apply List.pairwise_append.2
  refine ⟨hl, hm, ?_⟩
  intro s hs t ht
  obtain ⟨path, hpath⟩ := hinside s hs
  obtain ⟨j, path', hpath', hij⟩ := hbehind t ht
  rw [hpath, hpath']
  exact .behind hij

theorem Row.Visible.exists_cons {row : Row E} {i depth : Nat} {path : List Nat} {e : Die E}
    (h : row.Visible pc i depth path e) : ∃ j rest, path = j :: rest ∧ i ≤ j := by
  induction h with
  | here => exact ⟨_, _, rfl, Nat.le_refl _⟩
  | scope => exact ⟨_, _, rfl, Nat.le_refl _⟩
  | group => exact ⟨_, _, rfl, Nat.le_refl _⟩
  | behind _ ih =>
      obtain ⟨j, rest, hpath, hj⟩ := ih
      exact ⟨j, rest, hpath, Nat.le_of_succ_le hj⟩

theorem Row.pairwise_sightings (row : Row E) (i : Nat) :
    (row.sightings pc i).Pairwise fun s t => Before s.path t.path := by
  induction row generalizing i with
  | ended => exact .nil
  | die d inside behind ihinside ihbehind =>
      apply pairwise_append (i := i)
      · rw [Die.sightings]
        split
        · exact List.pairwise_singleton _ _
        · split
          next scopes _ => exact pairwise_map_within (ihinside 0) i scopes
          next => exact .nil
      · exact ihbehind (i + 1)
      · intro s hs
        rcases Die.mem_sightings_iff.1 hs with ⟨-, rfl⟩ | ⟨scopes, -, t, -, rfl⟩
        · exact ⟨[], rfl⟩
        · exact ⟨t.path, rfl⟩
      · intro s hs
        exact (mem_sightings_iff.1 hs).exists_cons

theorem pairwise_sightings (units : List (Row E)) (k : Nat) :
    (sightings pc units k).Pairwise fun s t => Before s.path t.path := by
  have hfirst (units : List (Row E)) (k : Nat) :
      ∀ s ∈ sightings pc units k, ∃ j path, s.path = j :: path ∧ k ≤ j := by
    induction units generalizing k with
    | nil => simp [sightings]
    | cons unit units ih =>
        intro s hs
        rcases List.mem_append.1 hs with hs | hs
        · obtain ⟨t, -, rfl⟩ := List.mem_map.1 hs
          exact ⟨k, t.path, rfl, Nat.le_refl _⟩
        · obtain ⟨j, path, hpath, hj⟩ := ih (k + 1) s hs
          exact ⟨j, path, hpath, Nat.le_of_succ_le hj⟩
  induction units generalizing k with
  | nil => exact .nil
  | cons unit units ih =>
      apply pairwise_append (i := k)
      · exact pairwise_map_within (unit.pairwise_sightings 0) k 0
      · exact ih (k + 1)
      · intro s hs
        obtain ⟨t, -, rfl⟩ := List.mem_map.1 hs
        exact ⟨t.path, rfl⟩
      · exact hfirst units (k + 1)

end ObjectView.Debug
