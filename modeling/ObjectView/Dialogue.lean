/-!
# Dialogues

A dialogue is a computation that asks questions of its surroundings: for the bytes at an address,
for the type of a variable, for a node to show.  What it asks next depends on the answers, and on
nothing else, so a statement about all ways to answer is a statement about all surroundings.
-/

namespace ObjectView

/-- A computation of an `α` that asks questions `Q` and continues with their answers. -/
inductive Dialogue (Q : Type) (A : Q → Type) (α : Type) where
  | done (result : α)
  | ask (question : Q) (resume : A question → Dialogue Q A α)

namespace Dialogue

variable {Q : Type} {A : Q → Type} {α β : Type}

/-- Continues with the result. -/
protected def bind : Dialogue Q A α → (α → Dialogue Q A β) → Dialogue Q A β
  | done result, next => next result
  | ask question resume, next => ask question fun answer => (resume answer).bind next

instance : Monad (Dialogue Q A) where
  pure := done
  bind := Dialogue.bind

/-- Asks one question. -/
def put (question : Q) : Dialogue Q A (A question) :=
  ask question done

@[simp] theorem pure_eq_done (a : α) : (pure a : Dialogue Q A α) = done a := rfl

@[simp] theorem done_bind (a : α) (f : α → Dialogue Q A β) : done a >>= f = f a := rfl

@[simp] theorem ask_bind (q : Q) (resume : A q → Dialogue Q A α) (f : α → Dialogue Q A β) :
    ask q resume >>= f = ask q fun answer => resume answer >>= f := rfl

@[simp] theorem put_bind (q : Q) (f : A q → Dialogue Q A β) : put q >>= f = ask q f := rfl

instance : LawfulMonad (Dialogue Q A) := by
  refine LawfulMonad.mk' (Dialogue Q A) ?_ (fun _ _ => rfl) ?_
  · intro α d
    induction d with
    | done => rfl
    | ask q resume ih =>
        change ask q (fun answer => id <$> resume answer) = _
        simp only [ih]
  · intro α β γ d f g
    induction d with
    | done => rfl
    | ask q resume ih =>
        change ask q (fun answer => resume answer >>= f >>= g) = _
        simp only [ih]
        rfl

/-- Holds the dialogue with whoever answers. -/
def runWith {m : Type → Type} [Monad m] (answer : (q : Q) → m (A q)) : Dialogue Q A α → m α
  | done result => pure result
  | ask question resume => do
      let given ← answer question
      (resume given).runWith answer

/-- A question together with its answer. -/
abbrev Exchange (Q : Type) (A : Q → Type) :=
  (question : Q) × A question

/-- The result and everything that was said, where each answer may depend on all that was said
before.  `said` is latest first. -/
def converse (answer : List (Exchange Q A) → (q : Q) → A q) :
    List (Exchange Q A) → Dialogue Q A α → α × List (Exchange Q A)
  | said, done result => (result, said)
  | said, ask question resume =>
      let given := answer said question
      (resume given).converse answer (⟨question, given⟩ :: said)

/-- The same dialogue where each question is put in another language. -/
def translate {Q' : Type} {A' : Q' → Type} (put' : (q : Q) → Dialogue Q' A' (A q)) :
    Dialogue Q A α → Dialogue Q' A' α
  | done result => done result
  | ask question resume => (put' question).bind fun answer => (resume answer).translate put'

end Dialogue

end ObjectView
