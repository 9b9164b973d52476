import Mathlib.Data.List.TakeWhile
import ObjectView.DisplayOptions
import ObjectView.Log.Word
import ObjectView.Proofs.Text.LowerCase

/-!
# The words of the options

What a user can write for an option is a list of words, in any spelling in ASCII: `String.toLower`
changes no other letters.  A yes or a no may have white space of any script around it, a level or a
layout may not.  Nothing else is accepted.
-/

namespace ObjectView

/-! ## White space at the ends -/

namespace Text

variable {s front back before after : List Char} {c : Char}

theorem exists_trimmed (s : List Char) :
    ∃ before after, s = before ++ trimmed s ++ after ∧ (∀ c ∈ before, isBlank c = true) ∧
      ∀ c ∈ after, isBlank c = true := by
  let rest := (s.dropWhile isBlank).reverse
  refine ⟨s.takeWhile isBlank, (rest.takeWhile isBlank).reverse, ?_,
    fun c hc => List.mem_takeWhile_imp hc,
    fun c hc => List.mem_takeWhile_imp (List.mem_reverse.1 hc)⟩
  calc
    s = s.takeWhile isBlank ++ rest.reverse := by
        rw [List.reverse_reverse, List.takeWhile_append_dropWhile]
    _ = s.takeWhile isBlank ++ (rest.takeWhile isBlank ++ rest.dropWhile isBlank).reverse := by
        rw [List.takeWhile_append_dropWhile]
    _ = s.takeWhile isBlank ++ trimmed s ++ (rest.takeWhile isBlank).reverse := by
        rw [List.reverse_append, ← List.append_assoc, trimmed]

theorem trimmed_append (hbefore : ∀ c ∈ before, isBlank c = true)
    (hafter : ∀ c ∈ after, isBlank c = true) : trimmed (before ++ s ++ after) = trimmed s := by
  unfold trimmed
  rw [List.append_assoc, List.dropWhile_append_of_pos hbefore, List.dropWhile_append]
  split
  next hblank => rw [List.isEmpty_iff.1 hblank, List.dropWhile_eq_nil_iff.2 hafter]
  next =>
    rw [List.reverse_append, List.dropWhile_append_of_pos]
    simpa using hafter

theorem trimmed_eq_self (h : ∀ c ∈ s, isBlank c = false) : trimmed s = s := by
  obtain ⟨before, after, hs, hbefore, hafter⟩ := exists_trimmed s
  have hempty : ∀ t : List Char, (∀ c ∈ t, isBlank c = true) → (∀ c ∈ t, c ∈ s) → t = [] := by
    intro t hblank hmem
    apply List.eq_nil_iff_forall_not_mem.2
    intro c hc
    simpa [h c (hmem c hc)] using hblank c hc
  have hnone : before = [] := hempty before hbefore fun c hc => by
    rw [hs]
    simp [hc]
  have hnone' : after = [] := hempty after hafter fun c hc => by
    rw [hs]
    simp [hc]
  rw [hnone, hnone', List.nil_append, List.append_nil] at hs
  exact hs.symm

end Text

/-! ## Vocabularies -/

/-- What can be meant, each by some words of ASCII letters and digits.  No word means two things. -/
structure IsVocabulary {α : Type} (all : List α) (words : α → List String) : Prop where
  complete : ∀ a, a ∈ all
  plain : ∀ a, ∀ word ∈ words a, Text.IsPlainWord word
  unambiguous : ∀ a b, ∀ word ∈ words a, word ∈ words b → a = b

namespace IsVocabulary

variable {α : Type} {all : List α} {words : α → List String} {a : α} {s : String} {c : Char}

/-- What a text means is what its spelling in lower case means, and nothing else is found. -/
theorem find?_eq_some_iff (hwords : IsVocabulary all words) :
    (all.find? fun a => Text.lowerCase s ∈ words a) = some a ↔ s.toLower ∈ words a := by
  have hmem : ∀ a, Text.lowerCase s ∈ words a ↔ s.toLower ∈ words a :=
    fun a => Text.lowerCase_mem_iff (hwords.plain a)
  simp only [hmem]
  constructor
  · intro h
    simpa using List.find?_some h
  · intro h
    have hfound : (all.find? fun a => s.toLower ∈ words a).isSome = true :=
      List.find?_isSome.2 ⟨a, hwords.complete a, decide_eq_true h⟩
    obtain ⟨b, hb⟩ := Option.isSome_iff_exists.1 hfound
    have hword : s.toLower ∈ words b := by simpa using List.find?_some hb
    rw [hb, hwords.unambiguous a b _ h hword]

theorem isAlphanum_of_mem (hwords : IsVocabulary all words) (h : s.toLower ∈ words a)
    (hc : c ∈ s.toList) : c.isAlphanum = true :=
  Text.isAlphanum_of_mem_word (hwords.plain a) h hc

theorem isBlank_of_mem (hwords : IsVocabulary all words) (h : s.toLower ∈ words a)
    (hc : c ∈ s.toList) : Text.isBlank c = false :=
  Text.isBlank_of_isAlphanum (hwords.isAlphanum_of_mem h hc)

end IsVocabulary

/-! ## Yes and no -/

namespace DisplayOptions

def words : Bool → List String
  | true => yesWords
  | false => noWords

/-- The text is a word for yes or for no in some spelling, with white space around it. -/
def Says (s : String) (b : Bool) : Prop :=
  ∃ before word after : String, s = before ++ word ++ after ∧
    (∀ c ∈ before.toList, Text.isBlank c = true) ∧
    (∀ c ∈ after.toList, Text.isBlank c = true) ∧ word.toLower ∈ words b

variable {s before after : String} {b : Bool} {c : Char}

theorem isVocabulary : IsVocabulary [true, false] words where
  complete := by simp
  plain := by decide +kernel
  unambiguous := by decide +kernel

theorem parseFlag_eq_find? (s : String) :
    parseFlag s = [true, false].find? fun b => Text.lowerCase (Text.trim s) ∈ words b := by
  by_cases hyes : Text.lowerCase (Text.trim s) ∈ yesWords <;>
    by_cases hno : Text.lowerCase (Text.trim s) ∈ noWords <;> simp [parseFlag, words, hyes, hno]

theorem parseFlag_eq_some_iff : parseFlag s = some b ↔ (Text.trim s).toLower ∈ words b := by
  rw [parseFlag_eq_find?]
  exact isVocabulary.find?_eq_some_iff

theorem trim_append (hbefore : ∀ c ∈ before.toList, Text.isBlank c = true)
    (hafter : ∀ c ∈ after.toList, Text.isBlank c = true) :
    Text.trim (before ++ s ++ after) = Text.trim s := by
  simp only [Text.trim, String.toList_append]
  rw [Text.trimmed_append hbefore hafter]

theorem toLower_trim_mem_iff : (Text.trim s).toLower ∈ words b ↔ Says s b := by
  constructor
  · intro h
    obtain ⟨before, after, hs, hbefore, hafter⟩ := Text.exists_trimmed s.toList
    refine ⟨String.ofList before, Text.trim s, String.ofList after, ?_, by simpa using hbefore,
      by simpa using hafter, h⟩
    rw [← String.toList_inj]
    simpa [Text.trim] using hs
  · rintro ⟨before, word, after, rfl, hbefore, hafter, hword⟩
    have hself : Text.trim word = word := by
      rw [Text.trim, Text.trimmed_eq_self fun c hc => isVocabulary.isBlank_of_mem hword hc,
        String.ofList_toList]
    rwa [trim_append hbefore hafter, hself]

theorem parseFlag_eq_some_iff_says : parseFlag s = some b ↔ Says s b :=
  parseFlag_eq_some_iff.trans toLower_trim_mem_iff

theorem Says.unique {a : Bool} (ha : Says s a) (hb : Says s b) : a = b := by
  rw [← parseFlag_eq_some_iff_says] at ha hb
  exact Option.some.inj (ha.symm.trans hb)

end DisplayOptions

/-! ## Levels and layouts -/

namespace Log

variable {α : Type} {all : List α} {words : α → List String}
  {ofWord : String → Except WordError α} {unknown : String → WordError} {s : String} {c : Char}

/-- A reader of words looks a text up in a vocabulary, and gives it back if it is not there. -/
structure Reads (ofWord : String → Except WordError α) (all : List α)
    (words : α → List String) (unknown : String → WordError) : Prop where
  vocabulary : IsVocabulary all words
  lookup : ∀ s, ofWord s =
    match all.find? fun a => Text.lowerCase s ∈ words a with
    | some a => .ok a
    | none => .error (unknown s)

namespace Reads

theorem eq_ok_iff (hreads : Reads ofWord all words unknown) {a : α} :
    ofWord s = .ok a ↔ s.toLower ∈ words a := by
  rw [← hreads.vocabulary.find?_eq_some_iff, hreads.lookup]
  cases all.find? fun a => Text.lowerCase s ∈ words a <;> simp

end Reads

theorem Level.reads : Reads Level.ofWord Level.all Level.words .unknownLevel where
  vocabulary :=
    { complete := fun a => by cases a <;> decide
      plain := fun a => by cases a <;> decide +kernel
      unambiguous := fun a b => by cases a <;> cases b <;> decide +kernel }
  lookup s := by
    rw [ofWord]
    cases all.find? fun a => Text.lowerCase s ∈ a.words <;> rfl

theorem Layout.reads : Reads Layout.ofWord Layout.all Layout.words .unknownLayout where
  vocabulary :=
    { complete := fun a => by cases a <;> decide
      plain := fun a => by cases a <;> decide +kernel
      unambiguous := fun a b => by cases a <;> cases b <;> decide +kernel }
  lookup s := by
    rw [ofWord]
    cases all.find? fun a => Text.lowerCase s ∈ a.words <;> rfl

end Log

end ObjectView
