import Mathlib.Data.List.Forall2
import ObjectView.Proofs.Debug.Progress
import ObjectView.Proofs.Debug.Search
import ObjectView.Proofs.Debug.Spans

/-!
# The declared type of a variable

What the bytes of an image hold, where they can be read at all, is a list of units with a tree of
entries in each.  The declared type of a variable is that of the innermost declaration of its name
in these trees.
-/

namespace ObjectView.Debug

/-- What is read of an entry, as far as it is a declaration or a scope. -/
structure Entry.Reads (e : Entry) (d : Die Entry) : Prop where
  entry : d.entry = e
  tag : d.tag = e.abbreviation.tag
  name (h : d.tag.isDeclaration) : e.name = .ok d.name
  type (h : d.tag.isDeclaration) : e.type? = some d.type
  ranges (h : d.tag.isScope) : e.ranges? = some d.ranges

namespace Info

/-- The units of an image have roots, and `units` are the rows inside them. -/
def Reads (info : Info) (units : List (Row Entry)) : Prop :=
  List.Forall₂ (fun u row => ∃ root, Entry.root? u = some root ∧
    entries.ReadsUnit Entry.Reads root row) info.units units

theorem shows_of_reads {e : Entry} {d : Die Entry} (h : e.Reads d) : entries.Shows e d where
  entry := h.entry
  tag := h.tag
  name := h.name
  covers hscope := Entry.covers_of_ranges? (h.ranges hscope)

/-! ## Fuel -/

/-- A row has no more entries than bytes. -/
theorem steps_le {place next : InfoUnit × Nat} {row : Row Entry}
    (h : entries.ReadsRow Entry.Reads place row next) :
    row.steps ≤ place.1.entries.size - place.2 + 1 := by
  have hpast {place past : InfoUnit × Nat} {e : Entry}
      (hfound : entries.found place = some (.entry e)) (h : entries.past e = some past) :
      past.1 = place.1 ∧ place.2 < past.2 ∧ place.2 < place.1.entries.size := by
    obtain ⟨hunit, -, hplace, -⟩ := Entry.lt_of_found? hfound
    obtain ⟨next, hnext, h⟩ := Option.bind_eq_some_iff.1 h
    cases h
    exact ⟨hunit, Entry.lt_of_past? hfound hnext, hplace⟩
  -- An entry begins at `place`, so both rows that follow it have fewer bytes left.
  induction h with
  | ended => exact Nat.le_add_left _ _
  | leaf hfound _ _ hbehind _ ih =>
      obtain ⟨hunit, hlt, hsize⟩ := hpast hfound hbehind
      rw [hunit] at ih
      rw [Row.steps, Row.steps]
      omega
  | parent hfound _ _ hfirst hbehind _ _ ihinside ihbehind =>
      obtain ⟨hunit, hlt, hsize⟩ := hpast hfound hbehind
      obtain ⟨hunit', -, -, hattributes⟩ := Entry.lt_of_found? hfound
      obtain ⟨first, hinside, hfirst⟩ := Option.bind_eq_some_iff.1 hfirst
      cases hfirst
      have hforward := Entry.le_of_inside? hinside
      rw [hunit] at ihbehind
      dsimp only at ihinside
      rw [hunit'] at ihinside
      rw [Row.steps]
      omega

theorem size_lt_fuel {info : Info} {u : InfoUnit} (h : u ∈ info.units) :
    u.entries.size < info.fuel := by
  have hfrom (units : List InfoUnit) (n : Nat) :
      n ≤ units.foldl (fun n u => max n u.entries.size) n ∧
        ∀ u ∈ units, u.entries.size ≤ units.foldl (fun n u => max n u.entries.size) n := by
    induction units generalizing n with
    | nil => exact ⟨Nat.le_refl _, fun u hu => absurd hu List.not_mem_nil⟩
    | cons v units ih =>
        obtain ⟨hstart, hall⟩ := ih (max n v.entries.size)
        refine ⟨Nat.le_trans (Nat.le_max_left _ _) hstart, ?_⟩
        intro u hu
        rcases List.mem_cons.1 hu with rfl | hu
        · exact Nat.le_trans (Nat.le_max_right _ _) hstart
        · exact hall u hu
  exact Nat.lt_succ_of_le ((hfrom info.units 0).2 u h)

theorem steps_le_fuel {info : Info} {u : InfoUnit} (hu : u ∈ info.units) {root : Entry}
    {row : Row Entry} (hroot : Entry.root? u = some root)
    (h : entries.ReadsUnit Entry.Reads root row) : row.steps ≤ info.fuel := by
  have hsize := size_lt_fuel hu
  cases h with
  | leaf =>
      rw [Row.steps]
      omega
  | parent _ hfirst hinside =>
      have hunit : root.unit = u := by
        obtain ⟨found, hfound, h⟩ := Option.bind_eq_some_iff.1 hroot
        cases found with
        | ended next => cases h
        | entry e =>
            cases h
            exact (Entry.lt_of_found? hfound).1
      obtain ⟨first, -, hfirst⟩ := Option.bind_eq_some_iff.1 hfirst
      cases hfirst
      have hsteps := steps_le hinside
      dsimp only at hsteps
      rw [hunit] at hsteps
      omega

theorem Reads.readsRoot {info : Info} {units : List (Row Entry)} (h : info.Reads units) :
    List.Forall₂ (entries.ReadsRoot Entry.Reads info.fuel) (info.units.map Entry.root?) units := by
  rw [List.forall₂_map_left_iff]
  have hmem := (List.forall₂_and_left _ _).2 ⟨fun u (hu : u ∈ info.units) => hu, h⟩
  refine hmem.imp ?_
  rintro u row ⟨hu, root, hroot, hunit⟩
  exact ⟨root, hroot, hunit, steps_le_fuel hu hroot hunit⟩

/-- Where the bytes of an image can be read as trees, the declared type of a variable is the type
that the innermost of the visible declarations of the name has itself.  The types play no part in
finding it, and where nothing of the name is visible none is looked at. -/
theorem declaredType_innermost {info : Info} {units : List (Row Entry)} (h : info.Reads units)
    (pc : UInt64) (wanted : String) :
    let found := entries.search pc wanted info.fuel (info.units.map Entry.root?)
    let isDeclared := ∃ depth path d, Visible pc units depth path d ∧ d.name = some wanted
    (found = .ok none ↔ ¬ isDeclared) ∧
      (¬ isDeclared → info.declaredType pc wanted = .ok none) ∧
      (isDeclared → ∃ depth path d, Innermost pc wanted units depth path d ∧
        found = .ok (some ⟨depth, d.entry⟩) ∧
        info.declaredType pc wanted =
          match d.type with
          | none => .ok none
          | some reference => info.typeEntries.typeName maxTypeLevels d.entry reference) := by
  intro found isDeclared
  have hshows : ∀ e d, Entry.Reads e d → entries.Shows e d := fun _ _ => shows_of_reads
  rcases Entries.search_innermost pc wanted hshows h.readsRoot with
    ⟨hnone, hhidden⟩ | ⟨depth, path, d, hd, hfound⟩
  · have hundeclared : ¬ isDeclared := by
      rintro ⟨depth, path, d, hvisible, hname⟩
      exact hhidden depth path d hvisible hname
    refine ⟨iff_of_true hnone hundeclared, fun _ => ?_, fun h => absurd h hundeclared⟩
    rw [declaredType, hnone]
    rfl
  · have hdeclared : isDeclared := ⟨depth, path, d, hd.visible, hd.named⟩
    refine ⟨iff_of_false ?_ (not_not_intro hdeclared), fun h => absurd hdeclared h, fun _ => ?_⟩
    · intro hnone
      cases hfound.symm.trans hnone
    · refine ⟨depth, path, d, hd, hfound, ?_⟩
      obtain ⟨e, hread⟩ := Entries.exists_reads_of_visible h.readsRoot hd.visible
      have htype : d.entry.type? = some d.type := by
        rw [hread.entry]
        exact hread.type hd.visible.isDeclaration
      rw [declaredType, hfound]
      change info.typeEntries.declaredType d.entry = _
      rw [TypeEntries.declaredType, show info.typeEntries.type d.entry = some d.type from htype]
      cases d.type <;> rfl

/-! ## Entries of a small unit -/

/-- What is read of the entry at a place of a unit. -/
def dieAt (u : InfoUnit) (place : Nat) (a : Abbreviation) (name : Option String)
    (type : Option TypeReference) (ranges : List Span) : Die Entry :=
  ⟨⟨u, place, a, place + 1⟩, a.tag, name, type, ranges⟩

section

variable {u : InfoUnit} {place : Nat} {a : Abbreviation} {name : Option String}

theorem reads_declaration {type : Option TypeReference} (hscope : ¬ a.tag.isScope)
    (hname : Entry.name ⟨u, place, a, place + 1⟩ = .ok name)
    (htype : Entry.type? ⟨u, place, a, place + 1⟩ = some type) :
    Entry.Reads ⟨u, place, a, place + 1⟩ (dieAt u place a name type []) :=
  ⟨rfl, rfl, fun _ => hname, fun _ => htype, fun h => absurd h hscope⟩

theorem reads_scope {ranges : List Span} (hdeclaration : ¬ a.tag.isDeclaration)
    (hranges : Entry.ranges? ⟨u, place, a, place + 1⟩ = some ranges) :
    Entry.Reads ⟨u, place, a, place + 1⟩ (dieAt u place a name none ranges) :=
  ⟨rfl, rfl, fun h => absurd h hdeclaration, fun h => absurd h hdeclaration, fun _ => hranges⟩

/-- Of an entry that is neither a declaration nor a scope nothing else is read. -/
theorem reads_other (hdeclaration : ¬ a.tag.isDeclaration) (hscope : ¬ a.tag.isScope) :
    Entry.Reads ⟨u, place, a, place + 1⟩ (dieAt u place a name none []) :=
  ⟨rfl, rfl, fun h => absurd h hdeclaration, fun h => absurd h hdeclaration,
    fun h => absurd h hscope⟩

end

theorem past_of_past? {e : Entry} {next : Nat} (h : e.past? = some next) :
    entries.past e = some (e.unit, next) := by
  change (e.past?.bind fun place => some (e.unit, place)) = some (e.unit, next)
  rw [h, Option.bind_some]

def namedType : Abbreviation :=
  ⟨2, 0x24, false, [⟨AttributeName.name, 0x08, none⟩]⟩

def untypedVariable : Abbreviation :=
  ⟨3, Tag.variableDecl, false, [⟨AttributeName.name, 0x08, none⟩]⟩

def block : Abbreviation :=
  ⟨4, Tag.lexicalBlock, true,
    [⟨AttributeName.lowAddress, 0x01, none⟩, ⟨AttributeName.highAddress, 0x0b, none⟩]⟩

def typedVariable : Abbreviation :=
  ⟨5, Tag.variableDecl, false,
    [⟨AttributeName.name, 0x08, none⟩, ⟨AttributeName.type, 0x11, none⟩]⟩

/-! ## A variable in a block

A unit with a type `int`, a variable `x` of no type, and a block from `0x1000` up to `0x1010` with
a variable `x` of type `int`. -/

def blockUnit : InfoUnit where
  encoding := ⟨4, false, 8⟩
  inTypes := false
  offset := 0
  size := 11
  abbreviations := 0
  typeSignature := none
  entries := ⟨#[1, 2, 0x69, 0x6e, 0x74, 0, 3, 0x78, 0, 4, 0, 0x10, 0, 0, 0, 0, 0, 0, 0x10,
    5, 0x78, 0, 12, 0, 0]⟩
  sections := { bigEndian := false }
  table := [⟨1, 0x11, true, []⟩, namedType, untypedVariable, block, typedVariable]

def innerRow : Row Entry :=
  .die (dieAt blockUnit 19 typedVariable (some "x") (some (.inUnit 12)) []) .ended .ended

def outerRow : Row Entry :=
  .die (dieAt blockUnit 1 namedType (some "int") none []) .ended <|
    .die (dieAt blockUnit 6 untypedVariable (some "x") none []) .ended <|
      .die (dieAt blockUnit 9 block none none [⟨0x1000, 0x1010⟩]) innerRow .ended

theorem reads_innerRow :
    entries.ReadsRow Entry.Reads (blockUnit, 19) innerRow (blockUnit, 24) := by
  have hlocal : Entry.past? ⟨blockUnit, 19, typedVariable, 20⟩ = some 23 := by decide +kernel
  refine .leaf rfl (reads_declaration (by decide) ?_ ?_) rfl (past_of_past? hlocal) (.ended rfl)
  · decide +kernel
  · decide +kernel

theorem reads_outerRow :
    entries.ReadsRow Entry.Reads (blockUnit, 1) outerRow (blockUnit, 25) := by
  have hint : Entry.past? ⟨blockUnit, 1, namedType, 2⟩ = some 6 := by decide +kernel
  have hglobal : Entry.past? ⟨blockUnit, 6, untypedVariable, 7⟩ = some 9 := by decide +kernel
  have hblock : Entry.past? ⟨blockUnit, 9, block, 10⟩ = some 24 := by decide +kernel
  refine .leaf rfl (reads_other (by decide) (by decide)) rfl (past_of_past? hint) ?_
  refine .leaf rfl (reads_declaration (by decide) ?_ ?_) rfl (past_of_past? hglobal) ?_
  · decide +kernel
  · decide +kernel
  refine .parent rfl (reads_scope (by decide) ?_) rfl rfl (past_of_past? hblock) reads_innerRow
    (.ended rfl)
  decide +kernel

theorem declaredType_innermost_block :
    Reads ⟨[blockUnit]⟩ [outerRow] ∧
      (∃ depth path d, Innermost 0x1008 "x" [outerRow] depth path d ∧
        declaredType ⟨[blockUnit]⟩ 0x1008 "x" =
          match d.type with
          | none => .ok none
          | some reference =>
              (typeEntries ⟨[blockUnit]⟩).typeName maxTypeLevels d.entry reference) ∧
      declaredType ⟨[blockUnit]⟩ 0x1008 "x" = .ok (some "int") := by
  have hreads : Reads ⟨[blockUnit]⟩ [outerRow] :=
    .cons ⟨_, rfl, .parent rfl rfl reads_outerRow⟩ .nil
  have hvisible : Visible 0x1008 [outerRow] 1 [0, 2, 0] _ :=
    .inUnit rfl (.behind (.behind (.scope rfl (by decide) (.here rfl))))
  obtain ⟨depth, path, d, hd, -, htype⟩ :=
    (declaredType_innermost hreads 0x1008 "x").2.2 ⟨_, _, _, hvisible, rfl⟩
  exact ⟨hreads, ⟨depth, path, d, hd, htype⟩, by decide +kernel⟩

end Info

end ObjectView.Debug
