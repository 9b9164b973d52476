import Mathlib.Data.List.Basic
import ObjectView.Text.LowerCase
import ObjectView.Text.Split

/-!
# Words in lower case

Most characters outside of ASCII have a lower-case form outside of ASCII.  There are two exceptions:
the Kelvin sign becomes a `k`, and a capital I with a dot an `i` with a dot behind it.  So a word of
ASCII letters without a `k` is the lower-case form of its own spellings in ASCII only.  Where a word
ends makes no difference to that, since a sigma is outside of ASCII in all of its forms.
-/

namespace ObjectView.Text

/-- A letter or digit that is not the whole lower-case form of a character outside of ASCII. -/
def IsPlain (c : Char) : Prop :=
  c.isAlphanum = true ∧ c ≠ 'k'

instance : DecidablePred IsPlain := fun _ => inferInstanceAs (Decidable (_ ∧ _))

/-- All characters of a word are plain. -/
def IsPlainWord (word : String) : Prop :=
  ∀ c ∈ word.toList, IsPlain c

-- It goes through the word.  Another instance would go through all characters.
instance : DecidablePred IsPlainWord := fun word => List.decidableBAll IsPlain word.toList

variable {c d : Char} {s word : List Char}

/-! ## ASCII -/

theorem of_ascii {P : Char → Prop} (hall : ∀ n < 0x80, P (Char.ofNat n)) (h : c.toNat < 0x80) :
    P c := by
  rw [← Char.ofNat_toNat c]
  exact hall c.toNat h

theorem toNat_lt_of_isAlphanum (h : c.isAlphanum = true) : c.toNat < 0x80 := by
  change (decide (65 ≤ c.val ∧ c.val ≤ 90) || decide (97 ≤ c.val) && decide (c.val ≤ 122) ||
    decide (48 ≤ c.val) && decide (c.val ≤ 57)) = true at h
  simp only [Bool.or_eq_true, Bool.and_eq_true, decide_eq_true_eq, UInt32.le_iff_toNat_le] at h
  change ((65 ≤ c.toNat ∧ c.toNat ≤ 90) ∨ (97 ≤ c.toNat ∧ c.toNat ≤ 122)) ∨
    (48 ≤ c.toNat ∧ c.toNat ≤ 57) at h
  omega

theorem isBlank_of_isAlphanum (h : c.isAlphanum = true) : isBlank c = false := by
  have hlt := toNat_lt_of_isAlphanum h
  revert h
  revert hlt
  apply of_ascii
  decide

/-- The first row is the only one in ASCII. -/
theorem find?_lowerCaseRows {p : Nat × Nat × Nat × Int → Bool}
    (hp : ∀ row, p row = true → row.1 < 0x80) :
    lowerCaseRows.find? p = (lowerCaseRows.take 1).find? p := by
  have hforeign : ∀ row ∈ lowerCaseRows.drop 1, 0x80 ≤ row.1 := by decide +kernel
  have hrest : (lowerCaseRows.drop 1).find? p = none := by
    apply List.find?_eq_none.2
    intro row hrow hmatches
    have hge := hforeign row hrow
    have hlt := hp row hmatches
    omega
  conv_lhs => rw [← List.take_append_drop 1 lowerCaseRows]
  rw [List.find?_append, hrest, Option.or_none]

theorem lowerCaseOf_of_lt (h : c.toNat < 0x80) : lowerCaseOf c = [c.toLower] := by
  have hdotted : c ≠ dottedCapital := by
    rintro rfl
    revert h
    decide
  unfold lowerCaseOf
  simp only [if_neg hdotted]
  rw [find?_lowerCaseRows]
  · revert h
    apply of_ascii
    decide
  · rintro ⟨first, last, step, distance⟩ hmatches
    simp only [Bool.and_eq_true, decide_eq_true_eq] at hmatches
    omega

theorem toLower_of_ge (h : 0x80 ≤ c.toNat) : c.toLower = c := by
  apply dif_neg
  intro hupper
  have hle : c.toNat ≤ 90 := hupper.2
  omega

theorem isAlphanum_of_toLower (h : c.toLower.isAlphanum = true) : c.isAlphanum = true := by
  rcases Nat.lt_or_ge c.toNat 0x80 with hlt | hge
  · revert h
    revert hlt
    apply of_ascii
    decide
  · rwa [toLower_of_ge hge] at h

theorem isDigit_toLower (h : c.isDigit = true) : c.toLower.isDigit = true := by
  have hlt : c.toNat < 0x80 := toNat_lt_of_isAlphanum (by simp [Char.isAlphanum, h])
  revert h
  revert hlt
  apply of_ascii
  decide

theorem toUpper_toLower (c : Char) : c.toLower.toUpper = c.toUpper := by
  rcases Nat.lt_or_ge c.toNat 0x80 with hlt | hge
  · revert hlt
    apply of_ascii
    decide
  · rw [toLower_of_ge hge]

/-! ## The other characters -/

/-- The row for the Kelvin sign. -/
def kelvinRow : Nat × Nat × Nat × Int :=
  (0x212a, 0x212a, 1, -8383)

/-- A row that is not in ASCII leads to characters that are not, but for the one of the Kelvin
sign. -/
theorem of_mem_lowerCaseRows :
    ∀ row ∈ lowerCaseRows, row.2.1 < 0x80 ∨ row = kelvinRow ∨
      0x80 ≤ row.1 + row.2.2.2 ∧ row.2.1 + row.2.2.2 < 0xd800 ∨
      0xe000 ≤ row.1 + row.2.2.2 ∧ row.2.1 + row.2.2.2 < 0x110000 := by
  decide +kernel

theorem toNat_ofNat_of_lt {n : Nat} (h : n < 0xd800 ∨ 0xe000 ≤ n ∧ n < 0x110000) :
    (Char.ofNat n).toNat = n := by
  have hvalid : n.isValidChar := by
    unfold Nat.isValidChar
    omega
  rw [Char.ofNat, dif_pos hvalid]
  rfl

theorem not_isPlain_of_ge (h : 0x80 ≤ c.toNat) : ¬ IsPlain c := by
  intro hplain
  have hlt := toNat_lt_of_isAlphanum hplain.1
  omega

theorem exists_not_isPlain (h : 0x80 ≤ c.toNat) : ∃ d ∈ lowerCaseOf c, ¬ IsPlain d := by
  unfold lowerCaseOf
  split
  · exact ⟨'\u0307', by simp, by decide⟩
  · simp only
    split
    next first last step distance hrow =>
      have hmatches := List.find?_some hrow
      simp only [Bool.and_eq_true, decide_eq_true_eq] at hmatches
      have hform := of_mem_lowerCaseRows _ (List.mem_of_find?_eq_some hrow)
      simp only [kelvinRow, Prod.mk.injEq] at hform
      refine ⟨_, List.mem_singleton_self _, ?_⟩
      rcases hform with hascii | ⟨rfl, rfl, -, rfl⟩ | hlow | hhigh
      · omega
      · rw [show c.toNat = 0x212a by omega]
        decide
      · apply not_isPlain_of_ge
        rw [toNat_ofNat_of_lt (.inl (by omega))]
        omega
      · apply not_isPlain_of_ge
        rw [toNat_ofNat_of_lt (.inr (by omega))]
        omega
    next => exact ⟨c, List.mem_singleton_self c, not_isPlain_of_ge h⟩

/-! ## Words -/

/-- A small sigma is outside of ASCII in both of its forms. -/
theorem not_isPlain_smallSigma (before after : List Char) :
    ¬ IsPlain (smallSigma before after) := by
  rw [smallSigma]
  split <;> decide

theorem lowerCaseBehind_of_ascii {before : List Char} (h : ∀ c ∈ s, c.toNat < 0x80) :
    lowerCaseBehind before s = s.map Char.toLower := by
  induction s generalizing before with
  | nil => rfl
  | cons c s ih =>
      obtain ⟨hc, hs⟩ := List.forall_mem_cons.1 h
      have hsigma : c ≠ capitalSigma := by
        rintro rfl
        revert hc
        decide
      rw [lowerCaseBehind, if_neg hsigma, lowerCaseOf_of_lt hc, ih hs]
      rfl

/-- A character outside of ASCII leaves something in the text that is not plain. -/
theorem exists_not_isPlain_of_mem {before : List Char} (hc : c ∈ s) (h : 0x80 ≤ c.toNat) :
    ∃ d ∈ lowerCaseBehind before s, ¬ IsPlain d := by
  induction s generalizing before with
  | nil => cases hc
  | cons first s ih =>
      rw [lowerCaseBehind]
      rcases List.mem_cons.1 hc with rfl | hrest
      · split
        · exact ⟨_, List.mem_cons_self, not_isPlain_smallSigma before s⟩
        · obtain ⟨d, hd, hplain⟩ := exists_not_isPlain h
          exact ⟨d, List.mem_append_left _ hd, hplain⟩
      · obtain ⟨d, hd, hplain⟩ := ih hrest
        exact ⟨d, List.mem_append_right _ hd, hplain⟩

theorem lowerCaseBehind_eq_iff {before : List Char} (hword : ∀ c ∈ word, IsPlain c) :
    lowerCaseBehind before s = word ↔ s.map Char.toLower = word := by
  rcases Classical.em (∀ c ∈ s, c.toNat < 0x80) with hascii | hforeign
  · rw [lowerCaseBehind_of_ascii hascii]
  · simp only [not_forall, Nat.not_lt] at hforeign
    obtain ⟨c, hc, hge⟩ := hforeign
    apply iff_of_false
    · rintro rfl
      obtain ⟨d, hd, hplain⟩ := exists_not_isPlain_of_mem hc hge
      exact hplain (hword d hd)
    · rintro rfl
      apply not_isPlain_of_ge hge
      rw [← toLower_of_ge hge]
      exact hword _ (List.mem_map_of_mem hc)

theorem toList_toLower (s : String) : s.toLower.toList = s.toList.map Char.toLower :=
  String.toList_map

theorem lowerCase_eq_iff {s word : String} (hword : IsPlainWord word) :
    lowerCase s = word ↔ s.toLower = word := by
  rw [← String.toList_inj, ← String.toList_inj, lowerCase, String.toList_ofList, toList_toLower]
  exact lowerCaseBehind_eq_iff hword

/-- Nothing but a spelling in ASCII is a word in lower case. -/
theorem lowerCase_mem_iff {s : String} {words : List String}
    (hwords : ∀ word ∈ words, IsPlainWord word) : lowerCase s ∈ words ↔ s.toLower ∈ words := by
  constructor
  · intro h
    rwa [(lowerCase_eq_iff (hwords _ h)).1 rfl]
  · intro h
    rwa [(lowerCase_eq_iff (hwords _ h)).2 rfl]

theorem isAlphanum_of_mem_word {s : String} {words : List String}
    (hwords : ∀ word ∈ words, IsPlainWord word) (h : s.toLower ∈ words)
    (hc : c ∈ s.toList) : c.isAlphanum = true := by
  apply isAlphanum_of_toLower
  apply And.left
  apply hwords _ h
  rw [toList_toLower]
  exact List.mem_map_of_mem hc

end ObjectView.Text
