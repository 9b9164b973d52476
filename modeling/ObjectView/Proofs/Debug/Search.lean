import Mathlib.Data.List.Forall2
import Mathlib.Data.List.Induction
import ObjectView.Proofs.Debug.Visible

/-!
# The search through a row of entries

Where the entries can be read as trees, the search goes through all that is visible, in the order
in which it is written, and keeps the best so far.  What it keeps in the end is the first of the
declarations in the most scopes, although it does not look at the name of any that is in no more
scopes than the one it has.
-/

namespace ObjectView.Debug

/-- The recursion that it takes to go through a row. -/
def Row.steps {E : Type} : Row E → Nat
  | .ended => 1
  | .die _ inside behind => max inside.steps behind.steps + 1

namespace Entries

variable {E P : Type} {es : Entries E P} {reads : E → Die E → Prop}

/-- What the search asks of an entry has the answer that is in `d`. -/
structure Shows (es : Entries E P) (e : E) (d : Die E) : Prop where
  entry : d.entry = e
  tag : d.tag = es.tag e
  name (h : d.tag.isDeclaration) : es.name e = .ok d.name
  covers (h : d.tag.isScope) (pc : UInt64) : es.covers e pc = .ok (d.covers pc)

/-- The entries from a place on are those of a row, behind which it goes on at another place.
An entry is skipped to where its inside ends. -/
inductive ReadsRow (es : Entries E P) (reads : E → Die E → Prop) : P → Row E → P → Prop
  | ended {place next} (hfound : es.found place = some (.ended next)) :
      ReadsRow es reads place .ended next
  | leaf {place e d past behind next} (hfound : es.found place = some (.entry e))
      (hdie : reads e d) (hleaf : es.hasChildren e = false) (hpast : es.past e = some past)
      (hbehind : ReadsRow es reads past behind next) :
      ReadsRow es reads place (.die d .ended behind) next
  | parent {place e d first past inside behind next}
      (hfound : es.found place = some (.entry e)) (hdie : reads e d)
      (hparent : es.hasChildren e = true) (hfirst : es.inside e = some first)
      (hpast : es.past e = some past) (hinside : ReadsRow es reads first inside past)
      (hbehind : ReadsRow es reads past behind next) :
      ReadsRow es reads place (.die d inside behind) next

/-- The better of the candidate so far and of a sighting from inside `depth` scopes. -/
def better (wanted : String) (depth : Nat) (best : Option (Candidate E)) (s : Sighting E) :
    Option (Candidate E) :=
  if (best.all fun c => c.depth < depth + s.depth) = true ∧ s.die.name = some wanted then
    some ⟨depth + s.depth, s.die.entry⟩
  else best

variable {pc : UInt64} {wanted : String} {depth : Nat} {best : Option (Candidate E)}

theorem consider_eq {e : E} {d : Die E} (h : es.Shows e d) (hdecl : d.tag.isDeclaration)
    (i : Nat) :
    es.consider wanted depth best e = .ok (better wanted depth best ⟨0, [i], d⟩) := by
  rw [consider, better, h.name hdecl, h.entry]
  by_cases hdeeper : (best.all fun c => c.depth < depth) = true
  · by_cases hname : d.name = some wanted
    · simp [hdeeper, hname, bind, Except.bind, pure, Except.pure]
    · simp [hdeeper, hname, bind, Except.bind, pure, Except.pure]
  · simp [hdeeper, pure, Except.pure]

theorem depthInside_eq {e : E} {d : Die E} (h : es.Shows e d) :
    es.depthInside pc depth e = .ok ((d.scopes? pc).map (depth + ·)) := by
  rw [depthInside, Die.scopes?, ← h.tag]
  by_cases hscope : d.tag.isScope
  · rw [if_pos hscope, if_pos hscope, h.covers hscope]
    by_cases hcovers : d.covers pc
    · simp [hcovers, bind, Except.bind, pure, Except.pure]
    · simp [hcovers, bind, Except.bind, pure, Except.pure]
  · rw [if_neg hscope, if_neg hscope]
    by_cases hgroup : d.tag = Tag.namespaceDecl
    · rw [if_pos hgroup, if_pos hgroup]
      rfl
    · rw [if_neg hgroup, if_neg hgroup]
      rfl

/-- Sightings from inside an entry are as good as when they are seen from outside. -/
theorem foldl_better_within (l : List (Sighting E)) (i scopes : Nat) :
    (l.map (·.within i scopes)).foldl (better wanted depth) best =
      l.foldl (better wanted (depth + scopes)) best := by
  rw [List.foldl_map]
  congr
  funext b s
  have hdepth : depth + (s.depth + scopes) = depth + scopes + s.depth := by omega
  rw [better, better, Sighting.within, hdepth]

section Step

variable {place past first next : P} {e : E} {d : Die E} {fuel : Nat}

theorem searchRow_of_declaration (hfound : es.found place = some (.entry e)) (hd : es.Shows e d)
    (hdecl : d.tag.isDeclaration) (hpast : es.past e = some past) (i : Nat) :
    es.searchRow pc wanted (fuel + 1) depth best place =
      es.searchRow pc wanted fuel depth (better wanted depth best ⟨0, [i], d⟩) past := by
  have htag : (es.tag e).isDeclaration = true := by rw [← hd.tag, hdecl]
  simp [searchRow, hfound, htag, consider_eq hd hdecl i, hpast, bind, Except.bind]

theorem searchRow_of_skipped (hfound : es.found place = some (.entry e)) (hd : es.Shows e d)
    (hdecl : d.tag.isDeclaration = false) (hpast : es.past e = some past)
    (hskipped : d.scopes? pc = none ∨ es.hasChildren e = false) :
    es.searchRow pc wanted (fuel + 1) depth best place =
      es.searchRow pc wanted fuel depth best past := by
  have htag : (es.tag e).isDeclaration = false := by rw [← hd.tag, hdecl]
  rcases hskipped with hscopes | hleaf
  · simp [searchRow, hfound, htag, depthInside_eq hd, hscopes, hpast, bind, Except.bind]
  · simp [searchRow, hfound, htag, depthInside_eq hd, hleaf, hpast, bind, Except.bind]

theorem searchRow_of_entered (hfound : es.found place = some (.entry e)) (hd : es.Shows e d)
    {scopes : Nat} (hscopes : d.scopes? pc = some scopes) (hparent : es.hasChildren e = true)
    (hfirst : es.inside e = some first) {best' : Option (Candidate E)}
    (hinside : es.searchRow pc wanted fuel (depth + scopes) best first = .ok (best', next)) :
    es.searchRow pc wanted (fuel + 1) depth best place =
      es.searchRow pc wanted fuel depth best' next := by
  have htag : (es.tag e).isDeclaration = false := by
    rw [← hd.tag, Die.isDeclaration_eq_false hscopes]
  simp [searchRow, hfound, htag, depthInside_eq hd, hscopes, hparent, hfirst, hinside, bind,
    Except.bind]

end Step

/-- The search of a row makes the best of all that is visible in it, in order. -/
theorem searchRow_eq (hshows : ∀ e d, reads e d → es.Shows e d) {place next : P} {row : Row E}
    (h : es.ReadsRow reads place row next) {fuel : Nat} (hfuel : row.steps ≤ fuel) (i : Nat) :
    es.searchRow pc wanted fuel depth best place =
      .ok ((row.sightings pc i).foldl (better wanted depth) best, next) := by
  -- The induction is on how the row is read: the search goes from place to place in the same way.
  induction h generalizing fuel depth best i with
  | ended hfound =>
      obtain ⟨fuel, rfl⟩ : ∃ n, fuel = n + 1 := ⟨fuel - 1, by rw [Row.steps] at hfuel; omega⟩
      simp [searchRow, hfound, Row.sightings, bind, Except.bind, pure, Except.pure]
  | @leaf _ e d _ _ _ hfound hdie hleaf hpast _ ih =>
      rw [Row.steps] at hfuel
      obtain ⟨fuel, rfl⟩ : ∃ n, fuel = n + 1 := ⟨fuel - 1, by omega⟩
      have hd := hshows e d hdie
      rw [Row.sightings, Row.sightings, List.foldl_append, Die.sightings]
      by_cases hdecl : d.tag.isDeclaration
      · rw [if_pos hdecl, searchRow_of_declaration hfound hd hdecl hpast i]
        exact ih (by omega) (i + 1)
      · rw [if_neg hdecl, searchRow_of_skipped hfound hd (by simpa using hdecl) hpast (.inr hleaf)]
        cases d.scopes? pc with
        | none => exact ih (by omega) (i + 1)
        | some scopes => exact ih (by omega) (i + 1)
  | @parent _ e d _ _ _ _ _ hfound hdie hparent hfirst hpast _ _ ihinside ihbehind =>
      rw [Row.steps] at hfuel
      obtain ⟨fuel, rfl⟩ : ∃ n, fuel = n + 1 := ⟨fuel - 1, by omega⟩
      have hd := hshows e d hdie
      rw [Row.sightings, List.foldl_append, Die.sightings]
      by_cases hdecl : d.tag.isDeclaration
      · rw [if_pos hdecl, searchRow_of_declaration hfound hd hdecl hpast i]
        exact ihbehind (by omega) (i + 1)
      · rw [if_neg hdecl]
        cases hscopes : d.scopes? pc with
        | none =>
            rw [searchRow_of_skipped hfound hd (by simpa using hdecl) hpast (.inl hscopes)]
            exact ihbehind (by omega) (i + 1)
        | some scopes =>
            -- What is inside is searched first, and its best is the one to beat behind the entry.
            have hinside := @ihinside (depth + scopes) best fuel (by omega) 0
            rw [searchRow_of_entered hfound hd hscopes hparent hfirst hinside,
              foldl_better_within]
            exact ihbehind (by omega) (i + 1)

theorem ReadsRow.exists_reads {place next : P} {row : Row E} (h : es.ReadsRow reads place row next)
    {i depth : Nat} {path : List Nat} {d : Die E} (hvisible : row.Visible pc i depth path d) :
    ∃ e, reads e d := by
  induction h generalizing i depth path d with
  | ended => cases hvisible
  | leaf _ hdie _ _ _ ih =>
      cases hvisible with
      | here => exact ⟨_, hdie⟩
      | scope _ _ hinside => cases hinside
      | group _ hinside => cases hinside
      | behind hbehind => exact ih hbehind
  | parent _ hdie _ _ _ _ _ ihinside ihbehind =>
      cases hvisible with
      | here => exact ⟨_, hdie⟩
      | scope _ _ hinside => exact ihinside hinside
      | group _ hinside => exact ihinside hinside
      | behind hbehind => exact ihbehind hbehind

/-! ## All units -/

/-- The row of entries inside the root of a unit. -/
inductive ReadsUnit (es : Entries E P) (reads : E → Die E → Prop) (root : E) : Row E → Prop
  | leaf (hleaf : es.hasChildren root = false) : ReadsUnit es reads root .ended
  | parent {first next row} (hparent : es.hasChildren root = true)
      (hfirst : es.inside root = some first) (hinside : ReadsRow es reads first row next) :
      ReadsUnit es reads root row

/-- A root that is there, and the row inside it, which is within the fuel. -/
def ReadsRoot (es : Entries E P) (reads : E → Die E → Prop) (fuel : Nat) (root : Option E)
    (row : Row E) : Prop :=
  ∃ e, root = some e ∧ es.ReadsUnit reads e row ∧ row.steps ≤ fuel

theorem searchUnit_eq (hshows : ∀ e d, reads e d → es.Shows e d) {root : E} {row : Row E}
    (h : es.ReadsUnit reads root row) {fuel : Nat} (hfuel : row.steps ≤ fuel) :
    es.searchUnit pc wanted fuel best root =
      .ok ((row.sightings pc 0).foldl (better wanted 0) best) := by
  cases h with
  | leaf hleaf => simp [searchUnit, hleaf, Row.sightings, pure, Except.pure]
  | parent hparent hfirst hinside =>
      simp [searchUnit, hparent, hfirst, searchRow_eq hshows hinside hfuel 0, bind, Except.bind,
        pure, Except.pure]

theorem search_eq (hshows : ∀ e d, reads e d → es.Shows e d) {roots : List (Option E)}
    {units : List (Row E)} {fuel : Nat} (h : List.Forall₂ (es.ReadsRoot reads fuel) roots units) :
    es.search pc wanted fuel roots =
      .ok ((sightings pc units 0).foldl (better wanted 0) none) := by
  have hfrom (best : Option (Candidate E)) (k : Nat) :
      roots.foldlM (fun best root => do
        es.searchUnit pc wanted fuel best (← Activity.navigatingRoot.orFail root)) best =
          .ok ((sightings pc units k).foldl (better wanted 0) best) := by
    induction h generalizing best k with
    | nil => rfl
    | @cons root row roots units hroot _ ih =>
        obtain ⟨e, rfl, hunit, hfuel⟩ := hroot
        rw [List.foldlM_cons, Activity.orFail_some]
        change (es.searchUnit pc wanted fuel best e >>= _) = _
        rw [searchUnit_eq hshows hunit hfuel, sightings, List.foldl_append, foldl_better_within]
        exact ih _ (k + 1)
  exact hfrom none 0

theorem exists_reads_of_visible {roots : List (Option E)} {units : List (Row E)} {fuel : Nat}
    (h : List.Forall₂ (es.ReadsRoot reads fuel) roots units) {depth : Nat} {path : List Nat}
    {d : Die E} (hvisible : Visible pc units depth path d) : ∃ e, reads e d := by
  obtain ⟨hunit, hvisible⟩ := hvisible
  obtain ⟨hk, hget⟩ := List.getElem?_eq_some_iff.1 hunit
  obtain ⟨e, -, hread, -⟩ := h.get (h.length_eq ▸ hk) hk
  rw [List.get_eq_getElem, hget] at hread
  cases hread with
  | leaf => cases hvisible
  | parent _ _ hinside => exact hinside.exists_reads hvisible

/-- The best of what has been seen: the first of the declarations in the most scopes, or nothing
where nothing has the name. -/
def IsBest (wanted : String) (seen : List (Sighting E)) : Option (Candidate E) → Prop
  | none => ∀ s ∈ seen, s.die.name ≠ some wanted
  | some c => ∃ s ∈ seen, s.die.name = some wanted ∧ c = ⟨s.depth, s.die.entry⟩ ∧
      ∀ t ∈ seen, t.die.name = some wanted →
        t.depth < s.depth ∨ t.depth = s.depth ∧ ¬ Before t.path s.path

/-- One more sighting, which comes after all others, is better than their best only if it is in
more scopes. -/
theorem IsBest.append {seen : List (Sighting E)} (h : IsBest wanted seen best) (x : Sighting E)
    (hafter : ∀ s ∈ seen, Before s.path x.path) :
    IsBest wanted (seen ++ [x]) (better wanted 0 best x) := by
  have hmem {t : Sighting E} (ht : t ∈ seen ++ [x]) : t ∈ seen ∨ t = x := by simpa using ht
  have hlast : x ∈ seen ++ [x] := by simp
  cases best with
  | none =>
      by_cases hname : x.die.name = some wanted
      · have hbetter : better wanted 0 none x = some ⟨x.depth, x.die.entry⟩ := by
          simp [better, hname]
        rw [hbetter]
        refine ⟨x, hlast, hname, rfl, ?_⟩
        intro t ht htname
        rcases hmem ht with ht | rfl
        · exact absurd htname (h t ht)
        · exact .inr ⟨rfl, Before.irrefl _⟩
      · have hbetter : better wanted 0 none x = none := by simp [better, hname]
        rw [hbetter]
        intro t ht
        rcases hmem ht with ht | rfl
        · exact h t ht
        · exact hname
  | some c =>
      obtain ⟨s, hs, hsname, rfl, hbest⟩ := h
      by_cases hwins : s.depth < x.depth ∧ x.die.name = some wanted
      · have hbetter : better wanted 0 (some ⟨s.depth, s.die.entry⟩) x =
            some ⟨x.depth, x.die.entry⟩ := by
          simp [better, hwins]
        rw [hbetter]
        refine ⟨x, hlast, hwins.2, rfl, ?_⟩
        intro t ht htname
        rcases hmem ht with ht | rfl
        · left
          rcases hbest t ht htname with hlt | ⟨heq, -⟩
          · omega
          · omega
        · exact .inr ⟨rfl, Before.irrefl _⟩
      · have hbetter : better wanted 0 (some ⟨s.depth, s.die.entry⟩) x =
            some ⟨s.depth, s.die.entry⟩ := by
          simpa [better] using fun hlt hname => absurd ⟨hlt, hname⟩ hwins
        rw [hbetter]
        refine ⟨s, List.mem_append_left _ hs, hsname, rfl, ?_⟩
        intro t ht htname
        rcases hmem ht with ht | rfl
        · exact hbest t ht htname
        · -- In as many scopes as `s` the new one is no better, because it comes later.
          have hle : t.depth ≤ s.depth := Nat.le_of_not_lt fun hlt => hwins ⟨hlt, htname⟩
          have hbehind : ¬ Before t.path s.path := (hafter s hs).asymm
          rcases Nat.lt_or_eq_of_le hle with hlt | heq
          · exact .inl hlt
          · exact .inr ⟨heq, hbehind⟩

theorem isBest_foldl (wanted : String) (seen : List (Sighting E))
    (h : seen.Pairwise fun s t => Before s.path t.path) :
    IsBest wanted seen (seen.foldl (better wanted 0) none) := by
  induction seen using List.reverseRecOn with
  | nil => exact fun s hs => absurd hs List.not_mem_nil
  | append_singleton seen x ih =>
      obtain ⟨hseen, -, hafter⟩ := List.pairwise_append.1 h
      rw [List.foldl_append]
      exact (ih hseen).append x fun s hs => hafter s hs x List.mem_cons_self

/-- The search finds the innermost of the visible declarations with the name, and nothing only
where there is none. -/
theorem search_innermost (pc : UInt64) (wanted : String)
    (hshows : ∀ e d, reads e d → es.Shows e d) {roots : List (Option E)}
    {units : List (Row E)} {fuel : Nat} (h : List.Forall₂ (es.ReadsRoot reads fuel) roots units) :
    (es.search pc wanted fuel roots = .ok none ∧
      ∀ depth path d, Visible pc units depth path d → d.name ≠ some wanted) ∨
    ∃ depth path d, Innermost pc wanted units depth path d ∧
      es.search pc wanted fuel roots = .ok (some ⟨depth, d.entry⟩) := by
  rw [search_eq hshows h]
  have hbest := isBest_foldl wanted (sightings pc units 0) (pairwise_sightings units 0)
  cases hfound : (sightings pc units 0).foldl (better wanted 0) none with
  | none =>
      rw [hfound] at hbest
      exact .inl ⟨rfl, fun depth path d hd => hbest ⟨depth, path, d⟩ (mem_sightings_iff.2 hd)⟩
  | some c =>
      rw [hfound] at hbest
      obtain ⟨s, hs, hname, rfl, hbest⟩ := hbest
      refine .inr ⟨s.depth, s.path, s.die, ⟨mem_sightings_iff.1 hs, hname, ?_, ?_⟩, rfl⟩
      · intro depth path d hd hdname
        have ht := hbest ⟨depth, path, d⟩ (mem_sightings_iff.2 hd) hdname
        rcases ht with hlt | ⟨heq, -⟩
        · exact Nat.le_of_lt hlt
        · exact Nat.le_of_eq heq
      · intro path d hd hdname
        have ht := hbest ⟨s.depth, path, d⟩ (mem_sightings_iff.2 hd) hdname
        rcases ht with hlt | ⟨-, hbehind⟩
        · exact absurd hlt (Nat.lt_irrefl _)
        · exact hbehind

end Entries

end ObjectView.Debug
