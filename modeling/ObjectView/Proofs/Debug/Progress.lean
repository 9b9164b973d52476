import ObjectView.Debug.Info
import ObjectView.Proofs.Binary.Forward

/-!
# Places of entries

An entry takes at least one byte, and whatever comes behind it, or inside it, is further on.  So a
row of entries is no longer than the bytes it is read from.
-/

namespace ObjectView.Debug

open Binary Read

theorem Form.takes_resolve (form : Nat) : Takes 0 (resolve form) := by
  have hgo (fuel : Nat) (form : Nat) : Takes 0 (resolve.go fuel form) := by
    induction fuel generalizing form with
    | zero => exact .ite .failure (.pure _)
    | succ fuel ih => exact .ite (takes_uleb16.zero.bind fun form => ih form) (.pure _)
  exact takes_remaining.bind fun fuel => hgo fuel form

namespace AttributeSpec

theorem takes_readNumber (spec : AttributeSpec) (e : Encoding) (size : Nat) :
    Takes 0 (spec.readNumber e size) :=
  (takes_unsigned size).zero.bind fun _ => .pure _

theorem takes_readBlock (size : Nat) : Takes 0 (readBlock size) :=
  (takes_skip size).zero.bind fun _ => .pure _

theorem takes_read (spec : AttributeSpec) (e : Encoding) : Takes 0 (spec.read e) := by
  apply (Form.takes_resolve spec.form).bind
  intro form
  split
  all_goals first
    | with_reducible exact (takes_unsigned _).zero.bind fun _ => .pure _
    | with_reducible exact (takes_unsigned _).zero.bind fun size => takes_readBlock size
    | with_reducible exact takes_uleb.zero.bind fun _ => .pure _
    | with_reducible exact takes_uleb.zero.bind fun size => takes_readBlock size
    | with_reducible exact takes_sleb.zero.bind fun _ => .pure _
    | with_reducible exact takes_terminated.bind fun _ => .pure _
    | with_reducible exact takes_readNumber spec e _
    | with_reducible exact takes_readBlock _
    | with_reducible exact .failure
    | exact (takes_uleb.zero.map _).bind fun _ => .pure _
    | cases spec.constant with
      | none => exact .failure
      | some value => exact .pure _

end AttributeSpec

theorem takes_readAttributes (e : Encoding) (specs : List AttributeSpec) :
    Takes 0 (readAttributes e specs) := by
  induction specs with
  | nil => exact .pure _
  | cons spec rest ih => exact (spec.takes_read e).bind fun _ => ih.bind fun _ => .pure _

namespace Entry

theorem lt_of_found? {u : InfoUnit} {place : Nat} {e : Entry}
    (h : found? u place = some (.entry e)) :
    e.unit = u ∧ e.place = place ∧ place < u.entries.size ∧ place < e.attributes := by
  rw [found?] at h
  split at h
  next => cases h
  next hplace =>
    obtain ⟨⟨code, next⟩, hstep, h⟩ := Option.bind_eq_some_iff.1 h
    obtain ⟨_, _, hnext, hpair⟩ := exists_position_of_at? takes_uleb Prod.mk hstep
    cases hpair
    by_cases hcode : code = 0
    · simp [hcode] at h
    · simp only [hcode, if_false] at h
      obtain ⟨abbreviation, -, h⟩ := Option.bind_eq_some_iff.1 h
      cases h
      exact ⟨rfl, rfl, Nat.lt_of_not_le hplace, hnext⟩

theorem le_of_found?_ended {u u' : InfoUnit} {place next : Nat}
    (h : found? u place = some (.ended (u', next))) : place ≤ next := by
  rw [found?] at h
  split at h
  next =>
    cases h
    exact Nat.le_refl _
  next hplace =>
    obtain ⟨⟨code, next⟩, hstep, h⟩ := Option.bind_eq_some_iff.1 h
    obtain ⟨_, _, hnext, hpair⟩ := exists_position_of_at? takes_uleb Prod.mk hstep
    cases hpair
    by_cases hcode : code = 0
    · simp only [hcode, if_true] at h
      cases h
      exact Nat.le_of_succ_le hnext
    · simp only [hcode, if_false] at h
      obtain ⟨abbreviation, -, h⟩ := Option.bind_eq_some_iff.1 h
      cases h

theorem le_of_inside? {e : Entry} {place : Nat} (h : e.inside? = some place) :
    e.attributes ≤ place := by
  have hstep := (takes_readAttributes e.unit.encoding e.abbreviation.attributes).map fun _ => ()
  obtain ⟨_, _, hplace, rfl⟩ := exists_position_of_at? hstep (fun _ next => next) h
  exact hplace

theorem lt_of_sibling? {e : Entry} {place : Nat} (h : e.sibling? = some place) :
    e.place < place := by
  obtain ⟨value, -, h⟩ := Option.bind_eq_some_iff.1 h
  split at h
  next offset =>
    obtain ⟨place', -, h⟩ := Option.bind_eq_some_iff.1 h
    split at h
    next hlt =>
      cases h
      exact hlt
    next => cases h
  next => cases h

theorem le_of_pastRow? {u : InfoUnit} {fuel place next : Nat}
    (h : pastRow? u fuel place = some next) : place ≤ next := by
  induction fuel generalizing u place next with
  | zero => cases h
  | succ fuel ih =>
      obtain ⟨found, hfound, h⟩ := Option.bind_eq_some_iff.1 h
      match found, hfound with
      | .ended (u', next'), hfound =>
          cases h
          exact le_of_found?_ended hfound
      | .entry e, hfound =>
          obtain ⟨-, hplace, -, hattributes⟩ := lt_of_found? hfound
          dsimp only at h
          split at h
          · split at h
            next sibling hsibling =>
              -- An entry that states what is behind it is taken at its word only if that is ahead.
              have hforward := lt_of_sibling? hsibling
              have hrest := ih h
              omega
            next =>
              obtain ⟨first, hfirst, h⟩ := Option.bind_eq_some_iff.1 h
              obtain ⟨behind, hinside, h⟩ := Option.bind_eq_some_iff.1 h
              have hforward := le_of_inside? hfirst
              have hrow := ih hinside
              have hrest := ih h
              omega
          · obtain ⟨first, hfirst, h⟩ := Option.bind_eq_some_iff.1 h
            have hforward := le_of_inside? hfirst
            have hrest := ih h
            omega

theorem lt_of_past? {u : InfoUnit} {place next : Nat} {e : Entry}
    (hfound : found? u place = some (.entry e)) (h : e.past? = some next) : place < next := by
  obtain ⟨-, hplace, -, hattributes⟩ := lt_of_found? hfound
  rw [past?] at h
  split at h
  · split at h
    next sibling hsibling =>
      cases h
      have hforward := lt_of_sibling? hsibling
      omega
    next =>
      obtain ⟨first, hfirst, h⟩ := Option.bind_eq_some_iff.1 h
      have hforward := le_of_inside? hfirst
      have hrow := le_of_pastRow? h
      omega
  · have hforward := le_of_inside? h
    omega

end Entry

end ObjectView.Debug
