import ObjectView.Binary.Cursor

/-!
# Reading goes forward

No step of reading goes back, and one that reads a number of variable length takes a byte at
least.  Whatever repeats such steps comes to an end within the block.
-/

namespace ObjectView.Binary.Read

variable {α β : Type} {count : Nat}

/-- A successful step leaves the cursor at least `count` bytes further on. -/
def Takes (count : Nat) (step : Read α) : Prop :=
  ∀ c a c', step.run c = some (a, c') → c.position + count ≤ c'.position

theorem run_bind_eq_some_iff {d : Read α} {f : α → Read β} {c c'' : Cursor} {b : β} :
    (d >>= f).run c = some (b, c'') ↔
      ∃ a c', d.run c = some (a, c') ∧ (f a).run c' = some (b, c'') := by
  rw [StateT.run_bind, Option.bind_eq_bind, Option.bind_eq_some_iff, Prod.exists]

theorem at?_eq_some_iff {step : Read α} {bytes : ByteArray} {bigEndian : Bool} {position : Nat}
    {a : α} :
    step.at? bytes bigEndian position = some a ↔
      ∃ c, step.run ⟨bytes, position, bigEndian⟩ = some (a, c) := by
  rw [at?, Option.map_eq_some_iff]
  constructor
  · rintro ⟨⟨b, c⟩, hrun, rfl⟩
    exact ⟨c, hrun⟩
  · rintro ⟨c, hrun⟩
    exact ⟨_, hrun, rfl⟩

namespace Takes

theorem bind {d : Read α} {f : α → Read β} (hd : Takes count d) (hf : ∀ a, Takes 0 (f a)) :
    Takes count (d >>= f) := by
  intro c b c'' h
  obtain ⟨a, c', hrun, h⟩ := run_bind_eq_some_iff.1 h
  have hfirst := hd c a c' hrun
  have hsecond := hf a c' b c'' h
  omega

theorem map {d : Read α} (hd : Takes count d) (f : α → β) : Takes count (f <$> d) := by
  rw [map_eq_pure_bind]
  apply hd.bind
  intro a c b c' h
  cases h
  exact Nat.le_refl _

theorem pure (a : α) : Takes 0 (Pure.pure a : Read α) := by
  intro c b c' h
  cases h
  exact Nat.le_refl _

theorem failure : Takes count (Alternative.failure : Read α) := by
  intro c b c' h
  cases h

theorem get : Takes 0 (MonadState.get : Read Cursor) := by
  intro c b c' h
  cases h
  exact Nat.le_refl _

theorem lift (o : Option α) : Takes 0 (liftM o : Read α) := by
  intro c b c' h
  cases o with
  | none => cases h
  | some a =>
      cases h
      exact Nat.le_refl _

theorem ite {p : Prop} [Decidable p] {d e : Read α} (hd : Takes count d) (he : Takes count e) :
    Takes count (if p then d else e) := by
  split
  · exact hd
  · exact he

theorem guarded (p : Prop) [Decidable p] : Takes 0 (guard p : Read Unit) :=
  .ite (.pure _) .failure

theorem zero {d : Read α} (hd : Takes count d) : Takes 0 d := by
  intro c a c' h
  have htaken := hd c a c' h
  omega

end Takes

theorem takes_remaining : Takes 0 remaining :=
  Takes.get.bind fun _ => .pure _

theorem advance?_position {c c' : Cursor} {n : Nat} (h : c.advance? n = some c') :
    c'.position = c.position + n := by
  rw [Cursor.advance?, Option.ite_none_right_eq_some] at h
  cases h.2
  rfl

theorem takes_skip (n : Nat) : Takes n (skip n) := by
  intro c a c' h
  obtain ⟨next, hnext, hrest⟩ := Option.bind_eq_some_iff.1 h
  cases hrest
  exact Nat.le_of_eq (advance?_position hnext).symm

theorem takes_block (n : Nat) : Takes n (block n) := by
  intro c a c' h
  obtain ⟨next, hnext, hrest⟩ := Option.bind_eq_some_iff.1 h
  cases hrest
  exact Nat.le_of_eq (advance?_position hnext).symm

theorem takes_byte : Takes 1 byte := by
  intro c a c' h
  obtain ⟨b, -, hrest⟩ := Option.bind_eq_some_iff.1 h
  cases hrest
  exact Nat.le_refl _

theorem takes_unsigned (n : Nat) : Takes n (unsigned n) :=
  (takes_block n).bind fun _ => Takes.get.bind fun _ => .pure _

theorem takes_uleb : Takes 1 uleb := by
  have hgo (more : Nat) : Takes 1 (uleb.go more) := by
    induction more with
    | zero => exact takes_byte.bind fun b => (Takes.guarded _).bind fun _ => .pure _
    | succ more ih =>
        refine takes_byte.bind fun b => .ite (.pure _) ?_
        exact ih.zero.bind fun _ => .pure _
  exact hgo 9

theorem takes_uleb16 : Takes 1 uleb16 := by
  refine takes_byte.bind fun low => .ite (.pure _) ?_
  refine takes_byte.zero.bind fun middle => .ite (.pure _) ?_
  exact takes_byte.zero.bind fun high => (Takes.guarded _).bind fun _ => .pure _

theorem takes_sleb : Takes 1 sleb := by
  have hgo (more : Nat) : Takes 1 (sleb.go more) := by
    induction more with
    | zero => exact takes_byte.bind fun b => (Takes.guarded _).bind fun _ => .pure _
    | succ more ih =>
        refine takes_byte.bind fun b => .ite (.pure _) (.ite (.pure _) ?_)
        exact ih.zero.bind fun _ => .pure _
  exact hgo 9

theorem takes_terminated : Takes 0 terminated :=
  Takes.get.bind fun _ => (Takes.lift _).bind fun length =>
    (takes_block length).zero.bind fun _ => (takes_skip 1).zero.bind fun _ => .pure _

/-- A step that also yields where it ends. -/
theorem exists_position_of_at? {d : Read α} (hd : Takes count d) (f : α → Nat → β)
    {bytes : ByteArray} {bigEndian : Bool} {position : Nat} {b : β}
    (h : (do let a ← d; return f a (← get).position : Read β).at? bytes bigEndian position =
      some b) : ∃ a next, position + count ≤ next ∧ b = f a next := by
  obtain ⟨c, hrun⟩ := at?_eq_some_iff.1 h
  obtain ⟨a, c', ha, hrun⟩ := run_bind_eq_some_iff.1 hrun
  obtain ⟨_, _, hget, hrun⟩ := run_bind_eq_some_iff.1 hrun
  cases hget
  cases hrun
  exact ⟨a, _, hd _ _ _ ha, rfl⟩

end ObjectView.Binary.Read
