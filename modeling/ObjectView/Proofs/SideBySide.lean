import ObjectView.Proofs.Conversation

/-!
# Two conversations side by side

Two dialogues are held, each with surroundings of its own, which differ only in what one of them
is not told.  The histories of the two conversations stand in a relation, which has to hold again
behind each part of them; the rules follow the way dialogues are put together.
-/

namespace ObjectView.Dialogue

variable {Q : Type} {A : Q → Type} {α β γ δ : Type}
  {answer answer' : List (Exchange Q A) → (q : Q) → A q}
  {P : List (Exchange Q A) → List (Exchange Q A) → Prop}

/-- Held after histories in the relation `P`, two dialogues come to results and histories in the
relation `R`. -/
def Matches (answer answer' : List (Exchange Q A) → (q : Q) → A q)
    (P : List (Exchange Q A) → List (Exchange Q A) → Prop)
    (d : Dialogue Q A α) (d' : Dialogue Q A β)
    (R : α → β → List (Exchange Q A) → List (Exchange Q A) → Prop) : Prop :=
  ∀ before before', P before before' →
    ∀ a b after after', Says answer before d a after → Says answer' before' d' b after' →
      R a b after after'

namespace Matches

theorem done {R : α → β → List (Exchange Q A) → List (Exchange Q A) → Prop} {a : α} {b : β}
    (h : ∀ before before', P before before' → R a b before before') :
    Matches answer answer' P (.done a) (.done b) R := by
  intro before before' hbefore a' b' after after' hsaid hsaid'
  obtain ⟨rfl, rfl⟩ := says_done_iff.1 hsaid
  obtain ⟨rfl, rfl⟩ := says_done_iff.1 hsaid'
  exact h _ _ hbefore

theorem bind {R : α → β → List (Exchange Q A) → List (Exchange Q A) → Prop}
    {S : γ → δ → List (Exchange Q A) → List (Exchange Q A) → Prop}
    {d : Dialogue Q A α} {d' : Dialogue Q A β}
    {f : α → Dialogue Q A γ} {f' : β → Dialogue Q A δ} (h : Matches answer answer' P d d' R)
    (next : ∀ a b, Matches answer answer' (R a b) (f a) (f' b) S) :
    Matches answer answer' P (d >>= f) (d' >>= f') S := by
  intro before before' hbefore c c' after after' hsaid hsaid'
  obtain ⟨a, between, hd, hf⟩ := says_bind_iff.1 hsaid
  obtain ⟨b, between', hd', hf'⟩ := says_bind_iff.1 hsaid'
  have hbetween : R a b between between' := h _ _ hbefore _ _ _ _ hd hd'
  exact next a b _ _ hbetween _ _ _ _ hf hf'

/-- A dialogue that asks only what is answered alike comes to the same result in both. -/
theorem of_asksOnly {kind : Q → Prop} {d : Dialogue Q A α} (h : d.AsksOnly kind)
    (alike : ∀ q before before', kind q → P before before' →
      answer before q = answer' before' q ∧
        P (⟨q, answer before q⟩ :: before) (⟨q, answer before q⟩ :: before')) :
    Matches answer answer' P d d fun a b after after' => a = b ∧ P after after' := by
  induction d with
  | done a => exact done fun before before' hbefore => ⟨rfl, hbefore⟩
  | ask q resume ih =>
      intro before before' hbefore a b after after' hsaid hsaid'
      obtain ⟨hsame, hnext⟩ := alike q before before' h.1 hbefore
      have hrest : Says answer' (⟨q, answer before q⟩ :: before') (resume (answer before q)) b
          after' := by
        rw [hsame]
        exact hsaid'
      exact ih _ (h.2 _) _ _ hnext _ _ _ _ hsaid hrest

/-- Two dialogues that ask only what makes no difference leave the histories as they were. -/
theorem of_unseen {kind : Q → Prop} {d : Dialogue Q A α} {d' : Dialogue Q A β}
    (h : d.AsksOnly kind) (h' : d'.AsksOnly kind)
    (unseen : ∀ new new' before before', (∀ x ∈ new, kind x.1) → (∀ x ∈ new', kind x.1) →
      P before before' → P (new ++ before) (new' ++ before')) :
    Matches answer answer' P d d' fun _ _ => P := by
  intro before before' hbefore a b after after' hsaid hsaid'
  obtain ⟨new, rfl, hnew⟩ := h.exists_append hsaid
  obtain ⟨new', rfl, hnew'⟩ := h'.exists_append hsaid'
  exact unseen new new' before before' hnew hnew' hbefore

end Matches

/-- A dialogue comes to the same result where the answers go on alike. -/
theorem fst_converse_eq_of_alike {before before' : List (Exchange Q A)}
    (alike : ∀ later q, answer (later ++ before) q = answer' (later ++ before') q)
    (d : Dialogue Q A α) : (d.converse answer before).1 = (d.converse answer' before').1 := by
  induction d generalizing before before' with
  | done a => rfl
  | ask q resume ih =>
      have hgiven : answer before q = answer' before' q := alike [] q
      rw [converse_ask, converse_ask, hgiven]
      apply ih
      intro later q'
      have hlater := alike (later ++ [⟨q, answer' before' q⟩]) q'
      rwa [List.append_assoc, List.append_assoc] at hlater

end ObjectView.Dialogue
