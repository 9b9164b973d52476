import ObjectView.Dialogue

/-!
# Conversations

A dialogue becomes a conversation once somebody answers.  Here are the laws of its result and of
what was said, which follow the way a dialogue is put together: the parts are held one after the
other, and each goes on from what was said before.

Where the answer to a question never changes, what was said before has no influence on the result.
-/

namespace ObjectView.Dialogue

variable {Q : Type} {A : Q → Type} {α β ε : Type}

section Converse

variable (answer : List (Exchange Q A) → (q : Q) → A q) (said : List (Exchange Q A))

@[simp] theorem converse_done (a : α) :
    (done a : Dialogue Q A α).converse answer said = (a, said) := rfl

@[simp] theorem converse_ask (q : Q) (resume : A q → Dialogue Q A α) :
    (ask q resume).converse answer said =
      (resume (answer said q)).converse answer (⟨q, answer said q⟩ :: said) := rfl

@[simp] theorem converse_put (q : Q) :
    (put (A := A) q).converse answer said = (answer said q, ⟨q, answer said q⟩ :: said) := rfl

theorem converse_bind (d : Dialogue Q A α) (f : α → Dialogue Q A β) :
    (d >>= f).converse answer said =
      (f (d.converse answer said).1).converse answer (d.converse answer said).2 := by
  induction d generalizing said with
  | done a => rfl
  | ask q resume ih => exact ih (answer said q) (⟨q, answer said q⟩ :: said)

end Converse

/-! ## Conversations step by step -/

/-- Held after `before` has been said, the dialogue comes to `a`, and `after` has been said then. -/
def Says (answer : List (Exchange Q A) → (q : Q) → A q) (before : List (Exchange Q A))
    (d : Dialogue Q A α) (a : α) (after : List (Exchange Q A)) : Prop :=
  d.converse answer before = (a, after)

section Says

variable {answer : List (Exchange Q A) → (q : Q) → A q} {before after : List (Exchange Q A)}

theorem says_done_iff {a b : α} :
    Says answer before (done a : Dialogue Q A α) b after ↔ b = a ∧ after = before := by
  rw [Says, converse_done, Prod.mk.injEq, eq_comm, eq_comm (a := before)]

theorem says_put_iff {q : Q} {given : A q} :
    Says answer before (put q) given after ↔
      answer before q = given ∧ after = ⟨q, given⟩ :: before := by
  rw [Says, converse_put, Prod.mk.injEq]
  constructor
  · rintro ⟨rfl, rfl⟩
    exact ⟨rfl, rfl⟩
  · rintro ⟨rfl, rfl⟩
    exact ⟨rfl, rfl⟩

theorem says_bind_iff {d : Dialogue Q A α} {f : α → Dialogue Q A β} {b : β} :
    Says answer before (d >>= f) b after ↔
      ∃ a between, Says answer before d a between ∧ Says answer between (f a) b after := by
  simp only [Says, converse_bind]
  constructor
  · intro h
    exact ⟨_, _, rfl, h⟩
  · rintro ⟨a, between, hd, hf⟩
    rw [hd]
    exact hf

end Says

/-! ## What can be said -/

/-- The dialogue can go through these questions with these answers, earliest first, to its
result. -/
inductive Runs : Dialogue Q A α → List (Exchange Q A) → α → Prop
  | done (a : α) : Runs (done a) [] a
  | ask {q : Q} {resume : A q → Dialogue Q A α} {said : List (Exchange Q A)} {a : α}
      (given : A q) (rest : Runs (resume given) said a) : Runs (ask q resume) (⟨q, given⟩ :: said) a

/-- All answers are those that `answer` gives after what was said before; `before` is latest
first, and what follows it is earliest first. -/
def Follows (answer : List (Exchange Q A) → (q : Q) → A q) :
    List (Exchange Q A) → List (Exchange Q A) → Prop
  | _, [] => True
  | before, x :: rest => x.2 = answer before x.1 ∧ Follows answer (x :: before) rest

theorem follows_append_iff {answer : List (Exchange Q A) → (q : Q) → A q}
    {before first last : List (Exchange Q A)} :
    Follows answer before (first ++ last) ↔
      Follows answer before first ∧ Follows answer (first.reverse ++ before) last := by
  induction first generalizing before with
  | nil => exact (iff_of_eq (true_and _)).symm
  | cons x first ih =>
      rw [List.cons_append, Follows, Follows, ih, and_assoc, List.reverse_cons, List.append_assoc]
      rfl

section Runs

variable {said : List (Exchange Q A)}

theorem runs_done_iff {a b : α} :
    Runs (done a : Dialogue Q A α) said b ↔ said = [] ∧ b = a := by
  constructor
  · rintro ⟨⟩
    exact ⟨rfl, rfl⟩
  · rintro ⟨rfl, rfl⟩
    exact .done b

theorem runs_ask_iff {q : Q} {resume : A q → Dialogue Q A α} {a : α} :
    Runs (ask q resume) said a ↔
      ∃ given rest, said = ⟨q, given⟩ :: rest ∧ Runs (resume given) rest a := by
  constructor
  · rintro ⟨⟩
    exact ⟨_, _, rfl, by assumption⟩
  · rintro ⟨given, rest, rfl, hrest⟩
    exact .ask given hrest

theorem runs_put_iff {q : Q} {a : A q} :
    Runs (Dialogue.put (A := A) q) said a ↔ said = [⟨q, a⟩] := by
  rw [Dialogue.put, runs_ask_iff]
  constructor
  · rintro ⟨given, rest, rfl, hrest⟩
    obtain ⟨rfl, rfl⟩ := runs_done_iff.1 hrest
    rfl
  · rintro rfl
    exact ⟨a, [], rfl, .done a⟩

theorem runs_bind_iff {d : Dialogue Q A α} {f : α → Dialogue Q A β} {b : β} :
    Runs (d >>= f) said b ↔
      ∃ a first last, said = first ++ last ∧ Runs d first a ∧ Runs (f a) last b := by
  induction d generalizing said with
  | done a =>
      rw [done_bind]
      constructor
      · exact fun h => ⟨a, [], said, rfl, .done a, h⟩
      · rintro ⟨a', first, last, rfl, hdone, h⟩
        obtain ⟨rfl, rfl⟩ := runs_done_iff.1 hdone
        exact h
  | ask q resume ih =>
      rw [ask_bind, runs_ask_iff]
      constructor
      · rintro ⟨given, rest, rfl, hrest⟩
        obtain ⟨a, first, last, rfl, hfirst, hlast⟩ := (ih given).1 hrest
        exact ⟨a, ⟨q, given⟩ :: first, last, rfl, .ask given hfirst, hlast⟩
      · rintro ⟨a, first, last, rfl, hfirst, hlast⟩
        obtain ⟨given, rest, rfl, hrest⟩ := runs_ask_iff.1 hfirst
        exact ⟨given, rest ++ last, rfl, (ih given).2 ⟨a, rest, last, rfl, hrest, hlast⟩⟩

theorem runs_map_iff {d : Dialogue Q A α} {f : α → β} {b : β} :
    Runs (f <$> d) said b ↔ ∃ a, Runs d said a ∧ b = f a := by
  rw [map_eq_pure_bind, runs_bind_iff]
  constructor
  · rintro ⟨a, first, last, rfl, hfirst, hlast⟩
    obtain ⟨rfl, rfl⟩ := runs_done_iff.1 hlast
    rw [List.append_nil]
    exact ⟨a, hfirst, rfl⟩
  · rintro ⟨a, hd, rfl⟩
    exact ⟨a, said, [], (List.append_nil said).symm, hd, .done _⟩

theorem Runs.unique {d : Dialogue Q A α} {a b : α} (h : Runs d said a) (h' : Runs d said b) :
    a = b := by
  induction h with
  | done a => exact (runs_done_iff.1 h').2.symm
  | ask given _ ih =>
      obtain ⟨given', rest, hsaid, hrest⟩ := runs_ask_iff.1 h'
      cases hsaid
      exact ih hrest

/-- A dialogue that can fail goes on only from a success. -/
theorem runs_run_bind_iff {d : ExceptT ε (Dialogue Q A) α} {f : α → ExceptT ε (Dialogue Q A) β}
    {found : Except ε β} :
    Runs (d >>= f).run said found ↔
      (∃ e, Runs d.run said (.error e) ∧ found = .error e) ∨
        ∃ a first last, said = first ++ last ∧ Runs d.run first (.ok a) ∧
          Runs (f a).run last found := by
  rw [ExceptT.run_bind, runs_bind_iff]
  constructor
  · rintro ⟨e | a, first, last, rfl, hfirst, hlast⟩
    · obtain ⟨rfl, rfl⟩ := runs_done_iff.1 hlast
      rw [List.append_nil]
      exact .inl ⟨e, hfirst, rfl⟩
    · exact .inr ⟨a, first, last, rfl, hfirst, hlast⟩
  · rintro (⟨e, hfirst, rfl⟩ | ⟨a, first, last, rfl, hfirst, hlast⟩)
    · exact ⟨.error e, said, [], (List.append_nil said).symm, hfirst, .done _⟩
    · exact ⟨.ok a, first, last, rfl, hfirst, hlast⟩

/-- What is said to somebody is what can be said, with the answers that are given. -/
theorem says_iff_runs {answer : List (Exchange Q A) → (q : Q) → A q}
    {before after : List (Exchange Q A)} {d : Dialogue Q A α} {a : α} :
    Says answer before d a after ↔
      ∃ said, after = said.reverse ++ before ∧ Runs d said a ∧ Follows answer before said := by
  induction d generalizing before with
  | done b =>
      rw [says_done_iff]
      constructor
      · rintro ⟨rfl, rfl⟩
        exact ⟨[], rfl, .done a, trivial⟩
      · rintro ⟨said, rfl, hruns, -⟩
        obtain ⟨rfl, rfl⟩ := runs_done_iff.1 hruns
        exact ⟨rfl, rfl⟩
  | ask q resume ih =>
      change Says answer (⟨q, answer before q⟩ :: before) (resume (answer before q)) a after ↔ _
      rw [ih]
      constructor
      · rintro ⟨rest, rfl, hruns, hfollows⟩
        exact ⟨⟨q, answer before q⟩ :: rest, by simp, .ask _ hruns, rfl, hfollows⟩
      · rintro ⟨said, rfl, hruns, hfollows⟩
        obtain ⟨given, rest, rfl, hrest⟩ := runs_ask_iff.1 hruns
        obtain ⟨hgiven, hfollows⟩ := hfollows
        obtain rfl : given = answer before q := hgiven
        exact ⟨rest, by simp, hrest, hfollows⟩

/-- What is said in a dialogue that is held after `before` has been said, earliest first. -/
def heard (answer : List (Exchange Q A) → (q : Q) → A q) :
    List (Exchange Q A) → Dialogue Q A α → List (Exchange Q A)
  | _, done _ => []
  | before, ask q resume =>
      ⟨q, answer before q⟩ ::
        heard answer (⟨q, answer before q⟩ :: before) (resume (answer before q))

theorem runs_heard (answer : List (Exchange Q A) → (q : Q) → A q) (before : List (Exchange Q A))
    (d : Dialogue Q A α) : Runs d (heard answer before d) (d.converse answer before).1 := by
  induction d generalizing before with
  | done a => exact .done a
  | ask q resume ih => exact .ask _ (ih _ _)

theorem follows_heard (answer : List (Exchange Q A) → (q : Q) → A q)
    (before : List (Exchange Q A)) (d : Dialogue Q A α) :
    Follows answer before (heard answer before d) := by
  induction d generalizing before with
  | done a => trivial
  | ask q resume ih => exact ⟨rfl, ih _ _⟩

theorem snd_converse_eq_heard (answer : List (Exchange Q A) → (q : Q) → A q)
    (before : List (Exchange Q A)) (d : Dialogue Q A α) :
    (d.converse answer before).2 = (heard answer before d).reverse ++ before := by
  induction d generalizing before with
  | done a => rfl
  | ask q resume ih =>
      rw [converse_ask, heard, ih, List.reverse_cons, List.append_assoc]
      rfl

/-- However a dialogue is held, there is one thing that is said. -/
theorem exists_runs (answer : List (Exchange Q A) → (q : Q) → A q) (d : Dialogue Q A α) :
    ∃ said, (d.converse answer []).2 = said.reverse ∧ Runs d said (d.converse answer []).1 ∧
      Follows answer [] said := by
  refine ⟨heard answer [] d, ?_, runs_heard answer [] d, follows_heard answer [] d⟩
  rw [snd_converse_eq_heard, List.append_nil]

theorem runs_converse (answer : List (Exchange Q A) → (q : Q) → A q) (d : Dialogue Q A α) :
    Runs d (d.converse answer []).2.reverse (d.converse answer []).1 := by
  obtain ⟨said, hsaid, hruns, -⟩ := exists_runs answer d
  rw [hsaid, List.reverse_reverse]
  exact hruns

end Runs

/-- Only questions of a kind can be asked, whatever the answers are. -/
def AsksOnly (kind : Q → Prop) : Dialogue Q A α → Prop
  | done _ => True
  | ask q resume => kind q ∧ ∀ answer, (resume answer).AsksOnly kind

namespace AsksOnly

variable {kind : Q → Prop}

theorem put {q : Q} (h : kind q) : (Dialogue.put (A := A) q).AsksOnly kind :=
  ⟨h, fun _ => trivial⟩

theorem bind {d : Dialogue Q A α} {f : α → Dialogue Q A β} (hd : d.AsksOnly kind)
    (hf : ∀ a, (f a).AsksOnly kind) : (d >>= f).AsksOnly kind := by
  induction d with
  | done a => exact hf a
  | ask q resume ih => exact ⟨hd.1, fun answer => ih answer (hd.2 answer)⟩

theorem run_bind {d : ExceptT ε (Dialogue Q A) α} {f : α → ExceptT ε (Dialogue Q A) β}
    (hd : d.run.AsksOnly kind) (hf : ∀ a, (f a).run.AsksOnly kind) :
    (d >>= f).run.AsksOnly kind := by
  rw [ExceptT.run_bind]
  refine hd.bind fun found => ?_
  cases found with
  | error e => trivial
  | ok a => exact hf a

theorem mono {kind' : Q → Prop} {d : Dialogue Q A α} (h : d.AsksOnly kind)
    (wider : ∀ q, kind q → kind' q) : d.AsksOnly kind' := by
  induction d with
  | done a => trivial
  | ask q resume ih => exact ⟨wider q h.1, fun answer => ih answer (h.2 answer)⟩

theorem translate {Q' : Type} {A' : Q' → Type} {kind' : Q' → Prop}
    {put' : (q : Q) → Dialogue Q' A' (A q)} (h : ∀ q, (put' q).AsksOnly kind')
    (d : Dialogue Q A α) : (d.translate put').AsksOnly kind' := by
  induction d with
  | done a => trivial
  | ask q resume ih => exact bind (h q) ih

theorem exists_append {answer : List (Exchange Q A) → (q : Q) → A q} {d : Dialogue Q A α}
    (h : d.AsksOnly kind) {before after : List (Exchange Q A)} {a : α}
    (hsaid : Says answer before d a after) :
    ∃ new, after = new ++ before ∧ ∀ x ∈ new, kind x.1 := by
  induction d generalizing before with
  | done b =>
      obtain ⟨-, rfl⟩ := says_done_iff.1 hsaid
      exact ⟨[], rfl, fun x hx => absurd hx List.not_mem_nil⟩
  | ask q resume ih =>
      obtain ⟨new, rfl, hnew⟩ := ih _ (h.2 _) hsaid
      refine ⟨new ++ [⟨q, answer before q⟩], by simp, fun x hx => ?_⟩
      rcases List.mem_append.1 hx with hx | hx
      · exact hnew x hx
      · rw [List.mem_singleton.1 hx]
        exact h.1

end AsksOnly

section Result

variable (answer : (q : Q) → A q)

/-- What a dialogue comes to where the answer to a question never changes. -/
def result (d : Dialogue Q A α) : α :=
  (d.converse (fun _ => answer) []).1

theorem fst_converse (said : List (Exchange Q A)) (d : Dialogue Q A α) :
    (d.converse (fun _ => answer) said).1 = d.result answer := by
  have same : ∀ said' : List (Exchange Q A),
      (d.converse (fun _ => answer) said).1 = (d.converse (fun _ => answer) said').1 := by
    induction d generalizing said with
    | done a => exact fun _ => rfl
    | ask q resume ih => exact fun said' => ih (answer q) (⟨q, answer q⟩ :: said) _
  exact same []

@[simp] theorem result_done (a : α) : (done a : Dialogue Q A α).result answer = a := rfl

@[simp] theorem result_put (q : Q) : (put (A := A) q).result answer = answer q := rfl

@[simp] theorem result_bind (d : Dialogue Q A α) (f : α → Dialogue Q A β) :
    (d >>= f).result answer = (f (d.result answer)).result answer := by
  rw [result, converse_bind, fst_converse, fst_converse]

/-- A dialogue that can fail goes on only from a success, as its results do. -/
theorem result_run_bind (d : ExceptT ε (Dialogue Q A) α) (f : α → ExceptT ε (Dialogue Q A) β) :
    (d >>= f).run.result answer = (d.run.result answer >>= fun a => (f a).run.result answer) := by
  rw [ExceptT.run_bind, result_bind]
  cases d.run.result answer with
  | error e => rfl
  | ok a => rfl

theorem result_run_bind_eq_ok_iff {d : ExceptT ε (Dialogue Q A) α}
    {f : α → ExceptT ε (Dialogue Q A) β} {b : β} :
    (d >>= f).run.result answer = .ok b ↔
      ∃ a, d.run.result answer = .ok a ∧ (f a).run.result answer = .ok b := by
  rw [result_run_bind]
  cases d.run.result answer with
  | error e => simp [bind, Except.bind]
  | ok a => simp [bind, Except.bind]

theorem result_run_pure (a : α) :
    (pure a : ExceptT ε (Dialogue Q A) α).run.result answer = .ok a := rfl

theorem result_run_bind_pure (d : ExceptT ε (Dialogue Q A) α) (f : α → β) :
    (d >>= fun a => pure (f a)).run.result answer = (d.run.result answer).map f := by
  rw [result_run_bind]
  cases d.run.result answer with
  | error e => rfl
  | ok a => rfl

/-- What is said where the answer to a question never changes, earliest first. -/
def transcript (d : Dialogue Q A α) : List (Exchange Q A) :=
  (d.converse (fun _ => answer) []).2.reverse

theorem snd_converse (said : List (Exchange Q A)) (d : Dialogue Q A α) :
    (d.converse (fun _ => answer) said).2 = (d.transcript answer).reverse ++ said := by
  have behind (front : List (Exchange Q A)) :
      (d.converse (fun _ => answer) (front ++ said)).2 =
        (d.converse (fun _ => answer) front).2 ++ said := by
    induction d generalizing front with
    | done a => rfl
    | ask q resume ih => exact ih (answer q) (⟨q, answer q⟩ :: front)
  rw [transcript, List.reverse_reverse]
  exact behind []

@[simp] theorem transcript_done (a : α) : (done a : Dialogue Q A α).transcript answer = [] := rfl

@[simp] theorem transcript_put (q : Q) :
    (put (A := A) q).transcript answer = [⟨q, answer q⟩] := rfl

@[simp] theorem transcript_bind (d : Dialogue Q A α) (f : α → Dialogue Q A β) :
    (d >>= f).transcript answer =
      d.transcript answer ++ (f (d.result answer)).transcript answer := by
  rw [transcript, converse_bind, snd_converse, fst_converse, snd_converse]
  simp

/-- Nothing is said about a result that is only made into another one. -/
theorem transcript_run_bind_pure (d : ExceptT ε (Dialogue Q A) α) (f : α → β) :
    (d >>= fun a => pure (f a)).run.transcript answer = d.run.transcript answer := by
  rw [ExceptT.run_bind, transcript_bind]
  cases d.run.result answer with
  | error e => exact List.append_nil _
  | ok a => exact List.append_nil _

end Result

namespace AsksOnly

variable {kind : Q → Prop} {answer answer' : (q : Q) → A q} {d : Dialogue Q A α}

theorem converse_congr (h : d.AsksOnly kind) (same : ∀ q, kind q → answer q = answer' q)
    (said : List (Exchange Q A)) :
    d.converse (fun _ => answer) said = d.converse (fun _ => answer') said := by
  induction d generalizing said with
  | done a => rfl
  | ask q resume ih =>
      rw [converse_ask, converse_ask, same q h.1]
      exact ih _ (h.2 _) _

theorem result_congr (h : d.AsksOnly kind) (same : ∀ q, kind q → answer q = answer' q) :
    d.result answer = d.result answer' :=
  congrArg Prod.fst (h.converse_congr same [])

theorem transcript_congr (h : d.AsksOnly kind) (same : ∀ q, kind q → answer q = answer' q) :
    d.transcript answer = d.transcript answer' :=
  congrArg (fun ended => ended.2.reverse) (h.converse_congr same [])

theorem of_mem_transcript (h : d.AsksOnly kind) {x : Exchange Q A}
    (hx : x ∈ d.transcript answer) : kind x.1 := by
  obtain ⟨new, hsaid, hnew⟩ := h.exists_append (rfl : Says (fun _ => answer) [] d _ _)
  rw [transcript, hsaid, List.append_nil, List.mem_reverse] at hx
  exact hnew x hx

end AsksOnly

/-! ## In another language -/

section Translate

variable {Q' : Type} {A' : Q' → Type} {answer : (q : Q) → A q} {answer' : (q : Q') → A' q}
  {put' : (q : Q) → Dialogue Q' A' (A q)} {d : Dialogue Q A α}

theorem transcript_ask (answer : (q : Q) → A q) (q : Q) (resume : A q → Dialogue Q A α) :
    (ask q resume).transcript answer = ⟨q, answer q⟩ :: (resume (answer q)).transcript answer :=
  transcript_bind answer (put q) resume

theorem result_ask (answer : (q : Q) → A q) (q : Q) (resume : A q → Dialogue Q A α) :
    (ask q resume).result answer = (resume (answer q)).result answer :=
  result_bind answer (put q) resume

theorem eq_answer_of_mem_transcript {x : Exchange Q A} (hx : x ∈ d.transcript answer) :
    x.2 = answer x.1 := by
  induction d with
  | done a => cases hx
  | ask q resume ih =>
      rw [transcript_ask, List.mem_cons] at hx
      rcases hx with rfl | hx
      · rfl
      · exact ih _ hx

/-- Where each question that comes up is answered in the other language as it is in the first one,
the dialogue comes to the same, and what is said is said question by question. -/
theorem translate_of_answered
    (h : ∀ x ∈ d.transcript answer, (put' x.1).result answer' = x.2) :
    (d.translate put').result answer' = d.result answer ∧
      (d.translate put').transcript answer' =
        (d.transcript answer).flatMap fun x => (put' x.1).transcript answer' := by
  induction d with
  | done a => exact ⟨rfl, rfl⟩
  | ask q resume ih =>
      rw [transcript_ask, List.forall_mem_cons] at h
      obtain ⟨hfirst, hrest⟩ := h
      have hfirst : (put' q).result answer' = answer q := hfirst
      have hput : (ask q resume).translate put' = put' q >>= fun given =>
          (resume given).translate put' := rfl
      rw [hput, result_bind, transcript_bind, hfirst, result_ask, transcript_ask,
        List.flatMap_cons]
      obtain ⟨hresult, htranscript⟩ := ih _ hrest
      exact ⟨hresult, congrArg _ htranscript⟩

end Translate

end ObjectView.Dialogue
