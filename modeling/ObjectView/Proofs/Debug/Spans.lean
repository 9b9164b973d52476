import ObjectView.Debug.Ranges
import ObjectView.Proofs.Binary.Forward

/-!
# The whole range list of a scope

Whether a scope covers an address is found out by reading its ranges only so far.  Where all of
them can be read, the scope covers an address if one of them contains it.
-/

namespace ObjectView.Debug

open Binary Read

/-- All spans of the list at the cursor. -/
def RangeList.spans (u : InfoUnit) : (fuel : Nat) → UInt64 → Read (List Span)
  | 0, _ => return []
  | fuel + 1, base => do
      if (← Read.remaining) = 0 then return []
      match ← readItem u with
      | .ended => return []
      | .base address => spans u fuel address
      | item =>
          let rest ← spans u fuel base
          match item.span? u.encoding.addressSize base with
          | some s => return if counts u.encoding.addressSize s then s :: rest else rest
          | none => return rest

theorem RangeList.covers_of_spans {u : InfoUnit} {fuel : Nat} {base : UInt64} {c c' : Cursor}
    {all : List Span} (h : (spans u fuel base).run c = some (all, c')) (pc : UInt64) :
    ∃ c'', (covers u pc fuel base).run c = some (all.any (·.contains pc), c'') := by
  induction fuel generalizing base c c' all with
  | zero =>
      cases h
      exact ⟨_, rfl⟩
  | succ fuel ih =>
      obtain ⟨left, here, hleft, h⟩ := run_bind_eq_some_iff.1 h
      simp only [covers, StateT.run_bind, hleft, Option.bind_eq_bind, Option.bind_some]
      by_cases hend : left = 0
      · simp only [hend, if_true] at h ⊢
        cases h
        exact ⟨_, rfl⟩
      · simp only [hend, if_false] at h ⊢
        obtain ⟨item, next, hitem, h⟩ := run_bind_eq_some_iff.1 h
        simp only [StateT.run_bind, hitem, Option.bind_eq_bind, Option.bind_some]
        cases item with
        | ended =>
            cases h
            exact ⟨_, rfl⟩
        | base address => exact ih h
        | _ =>
            obtain ⟨rest, _, hrest, h⟩ := run_bind_eq_some_iff.1 h
            obtain ⟨last, hcovers⟩ := ih hrest
            dsimp only at h ⊢
            generalize Item.span? u.encoding.addressSize base _ = stated at h ⊢
            cases stated with
            | none =>
                cases h
                exact ⟨last, hcovers⟩
            | some s =>
                cases h
                dsimp only
                -- A span that does not count is not in the list, and does not end the reading.
                by_cases hcounts : counts u.encoding.addressSize s = true
                · by_cases hcontains : s.contains pc = true
                  · simp only [hcounts, hcontains, if_true, Bool.and_self, List.any_cons,
                      Bool.true_or]
                    exact ⟨_, rfl⟩
                  · simp only [hcounts, hcontains, Bool.and_false, if_true, List.any_cons,
                      Bool.false_or]
                    exact ⟨last, hcovers⟩
                · simp only [hcounts, Bool.false_and]
                  exact ⟨last, hcovers⟩

/-- All spans of addresses that a scope covers. -/
def Entry.ranges? (e : Entry) : Option (List Span) := do
  match ← e.extent? with
  | .span s => return s.toList
  | .list offset =>
      let lists := e.unit.rangeLists
      (RangeList.spans e.unit (lists.size + 1) e.unit.lowAddress).at? lists
        e.unit.sections.bigEndian offset

theorem Entry.covers_of_ranges? {e : Entry} {all : List Span} (h : e.ranges? = some all)
    (pc : UInt64) : e.covers pc = .ok (all.any (·.contains pc)) := by
  obtain ⟨extent, hextent, h⟩ := Option.bind_eq_some_iff.1 h
  rw [covers, hextent]
  cases extent with
  | span s =>
      cases h
      cases s with
      | none => rfl
      | some s =>
          change Except.ok (s.contains pc) = _
          rw [Option.toList_some, List.any_cons, List.any_nil, Bool.or_false]
  | list offset =>
      obtain ⟨last, hall⟩ := at?_eq_some_iff.1 h
      obtain ⟨last', hcovers⟩ := RangeList.covers_of_spans hall pc
      exact congrArg Activity.iteratingRanges.orFail (at?_eq_some_iff.2 ⟨last', hcovers⟩)

end ObjectView.Debug
