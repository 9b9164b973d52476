import Mathlib.Data.List.Forall2
import ObjectView.Proofs.Visualizer.Outcome

/-!
# The custody of symbols

A symbol belongs to whoever looked it up, until it is given back.  In any row of calls for type
names, each symbol is asked for its name once and given back once, in this order and in the call
that looked it up, whatever the provider of symbols is like at each call.
-/

namespace ObjectView.Visualizer

open Hosted Dialogue

/-- The symbols that are held, each with whether it has been asked for its name. -/
abbrev Custody := List (Symbol × Bool)

/-- What is held behind a question to the provider.  A symbol can be asked for its name once, and
can be given back once it has been asked; nothing else can be done with one. -/
def Custody.next (held : Custody) : Spoken → Option Custody
  | ⟨.findSymbol _, some symbol⟩ => some ((symbol, false) :: held)
  | ⟨.symbolName symbol, _⟩ =>
      if (symbol, false) ∈ held then some ((symbol, true) :: held.erase (symbol, false)) else none
  | ⟨.releaseSymbol symbol, _⟩ =>
      if (symbol, true) ∈ held then some (held.erase (symbol, true)) else none
  | _ => some held

/-- Every symbol goes its way from being looked up to being given back, and none is held at the
end. -/
def IsLinear (said : List Spoken) : Prop :=
  said.foldlM Custody.next [] = some []

/-- The values that a symbol was looked up for. -/
def lookups (said : List Spoken) : List Value :=
  said.filterMap fun
    | ⟨.findSymbol v, _⟩ => some v
    | _ => none

def acquired (said : List Spoken) : List Symbol :=
  said.filterMap fun
    | ⟨.findSymbol _, some symbol⟩ => some symbol
    | _ => none

/-- The symbols that were asked for their name. -/
def asked (said : List Spoken) : List Symbol :=
  said.filterMap fun
    | ⟨.symbolName symbol, _⟩ => some symbol
    | _ => none

def released (said : List Spoken) : List Symbol :=
  said.filterMap fun
    | ⟨.releaseSymbol symbol, _⟩ => some symbol
    | _ => none

/-- Every symbol that was looked up was asked for its name and given back, one after the other. -/
structure IsBalanced (said : List Spoken) : Prop where
  linear : IsLinear said
  asked : asked said = acquired said
  released : released said = acquired said

/-- A call for a type name: its result, and what was said in it. -/
structure NameTurn where
  name : Option String
  said : List Spoken

/-- Calls for the type names of values, one after the other. -/
def nameTurns (answer : Behaviour) : Said → List Value → List NameTurn
  | _, [] => []
  | before, v :: rest =>
      let ended := (Hosted.typeName true v).converse answer before
      ⟨ended.1, heard answer before (Hosted.typeName true v)⟩ :: nameTurns answer ended.2 rest

/-- What a call for the type name of a value comes to.  A child has the type of its parent's
result, and nothing is looked up.  For a variable there is one look-up, and the name is that of the
symbol it finds. -/
def NameTurn.IsOf (turn : NameTurn) (v : Value) : Prop :=
  match v.origin with
  | .child resultType => turn.name = resultType ∧ lookups turn.said = [] ∧ acquired turn.said = []
  | .root _ => lookups turn.said = [v] ∧
      ((⟨.findSymbol v, none⟩ ∈ turn.said ∧ acquired turn.said = [] ∧ turn.name = none) ∨
        ∃ symbol, ⟨.findSymbol v, some symbol⟩ ∈ turn.said ∧ acquired turn.said = [symbol] ∧
          ⟨.symbolName symbol, turn.name⟩ ∈ turn.said)

variable {answer : Behaviour} {v : Value} {said first last : List Spoken}

theorem IsBalanced.append (hfirst : IsBalanced first) (hlast : IsBalanced last) :
    IsBalanced (first ++ last) := by
  refine ⟨?_, ?_, ?_⟩
  · have hheld : first.foldlM Custody.next [] = some [] := hfirst.linear
    rw [IsLinear, List.foldlM_append, hheld]
    exact hlast.linear
  · rw [Visualizer.asked, acquired, List.filterMap_append, List.filterMap_append]
    exact congr (congrArg _ hfirst.asked) hlast.asked
  · rw [Visualizer.released, acquired, List.filterMap_append, List.filterMap_append]
    exact congr (congrArg _ hfirst.released) hlast.released

theorem isBalanced_flatMap {turns : List NameTurn} (h : ∀ turn ∈ turns, IsBalanced turn.said) :
    IsBalanced (turns.flatMap NameTurn.said) := by
  induction turns with
  | nil => exact ⟨rfl, rfl, rfl⟩
  | cons turn rest ih =>
      rw [List.flatMap_cons]
      obtain ⟨hturn, hrest⟩ := List.forall_mem_cons.1 h
      exact hturn.append (ih hrest)

/-! ## One call -/

theorem isBalanced_named (v : Value) (symbol : Symbol) (name : Option String) :
    IsBalanced [⟨.findSymbol v, some symbol⟩, ⟨.symbolName symbol, name⟩,
      ⟨.releaseSymbol symbol, ()⟩, resolved name] := by
  refine ⟨?_, rfl, rfl⟩
  simp [IsLinear, Custody.next, resolved]

/-- With a provider, what is said in a call for a type name. -/
theorem naming_heard (answer : Behaviour) (before : Said) (v : Value) :
    ∃ symbols, Naming { hasSymbols := true } v
        ((Hosted.typeName true v).converse answer before).1 symbols ∧
      heard answer before (Hosted.typeName true v) =
        symbols ++ [resolved ((Hosted.typeName true v).converse answer before).1] :=
  runs_typeName_iff.1 (runs_heard answer before (Hosted.typeName true v))

theorem Naming.isBalanced {name : Option String}
    (naming : Naming { hasSymbols := true } v name said) :
    IsBalanced (said ++ [resolved name]) := by
  cases naming with
  | named => exact isBalanced_named v _ name
  | _ => exact ⟨rfl, rfl, rfl⟩

theorem Naming.isOf {name : Option String} (naming : Naming { hasSymbols := true } v name said) :
    NameTurn.IsOf ⟨name, said ++ [resolved name]⟩ v := by
  rw [NameTurn.IsOf]
  cases naming with
  | given origin =>
      rw [origin]
      exact ⟨rfl, rfl, rfl⟩
  | absent origin =>
      rw [origin]
      exact ⟨rfl, rfl, rfl⟩
  | unsearched origin symbols => cases symbols
  | missing origin =>
      rw [origin]
      exact ⟨rfl, .inl ⟨List.mem_cons_self, rfl, rfl⟩⟩
  | named origin =>
      rw [origin]
      exact ⟨rfl, .inr ⟨_, List.mem_cons_self, rfl, List.mem_cons_of_mem _ List.mem_cons_self⟩⟩

/-! ## A row of calls -/

theorem forall₂_nameTurns (answer : Behaviour) (before : Said) (vs : List Value) :
    List.Forall₂ (fun v turn => IsBalanced turn.said ∧ turn.IsOf v) vs
      (nameTurns answer before vs) := by
  induction vs generalizing before with
  | nil => exact .nil
  | cons v rest ih =>
      obtain ⟨symbols, naming, hheard⟩ := naming_heard answer before v
      rw [nameTurns, hheard]
      exact .cons ⟨naming.isBalanced, naming.isOf⟩ (ih _)

theorem isBalanced_of_mem_nameTurns {before : Said} {vs : List Value} {turn : NameTurn}
    (h : turn ∈ nameTurns answer before vs) : IsBalanced turn.said := by
  obtain ⟨n, hn, rfl⟩ := List.mem_iff_getElem.1 h
  have hturns := List.forall₂_iff_get.1 (forall₂_nameTurns answer before vs)
  exact (hturns.2 n (by rwa [hturns.1]) hn).1

/-! ## Without symbols -/

/-- A provider that has no symbols answers so by itself, without a question to the host. -/
def withoutSymbols : (c : Call) → Hosted c.Answer
  | .findSymbol _ => pure none
  | c => call c

/-- To have no provider is to have one without symbols. -/
theorem typeName_eq_translate (v : Value) :
    Hosted.typeName false v = (Hosted.typeName true v).translate withoutSymbols := by
  rw [Hosted.typeName, Hosted.typeName]
  cases TypeNameSource.ofValue v with
  | parentResult typeName => rfl
  | debugSymbols => rfl
  | absent => rfl

/-- Symbols go their way in any row of calls for type names, whatever the provider is like at each
of them.  What was looked up so far has been given back behind each call, and each call takes its
name from where the value came from. -/
theorem symbols_given_back (answer : Behaviour) (vs : List Value) :
    (∀ n, IsBalanced (((nameTurns answer [] vs).take n).flatMap NameTurn.said)) ∧
      List.Forall₂ (fun v turn => IsBalanced turn.said ∧ turn.IsOf v) vs
        (nameTurns answer [] vs) ∧
      ∀ v, Hosted.typeName false v = (Hosted.typeName true v).translate withoutSymbols := by
  refine ⟨fun n => ?_, forall₂_nameTurns answer [] vs, typeName_eq_translate⟩
  apply isBalanced_flatMap
  intro turn hturn
  exact isBalanced_of_mem_nameTurns (List.mem_of_mem_take hturn)

end ObjectView.Visualizer
