import Mathlib.Data.Nat.Basic
import ObjectView.Proofs.Object.Recognition

/-!
# Objects at the top of memory

The place of a word in an object is an address and an offset, which are added as machine words, so
that a sum past the top goes on at null.  Only the sum is then tested against the top.  For the
words of an object this makes no difference: the reads of the first ones succeed only if there is
room for the others.  It does for two places of a type, both in wide words only.  For a type that
begins in the last word, or in the last but two, one of the words that belong to it is the one at
null.
-/

namespace ObjectView.Object

open Memory

/-- The words of an object and of its type end at the top or below it. -/
structure BelowTop (p : Debuggee) (o : Object) : Prop where
  header : o.address.value.toNat + 2 * p.pointerSize ≤ 2 ^ 64
  metatype : o.typeAddress.value.toNat + 2 * p.pointerSize ≤ 2 ^ 64
  name : o.typeAddress.value.toNat + 4 * p.pointerSize ≤ 2 ^ 64

/-- The type begins in the last word of memory or in the last but two. -/
def ReachesAround (p : Debuggee) (type : Address) : Prop :=
  p.pointerSize = 8 ∧
    (type.value.toNat = 2 ^ 64 - 8 ∨ type.value.toNat = 2 ^ 64 - 24)

theorem reachesAround_of_above {p : Debuggee} {type : Address}
    (haligned : p.pointerSize ∣ type.value.toNat) (hvalue : type.value.toNat < 256 ^ p.pointerSize)
    (hmetatype : (type.add p.pointerSize.toUInt64).value.toNat + p.pointerSize < 2 ^ 64)
    (hname : (type.add (3 * p.pointerSize).toUInt64).value.toNat + p.pointerSize < 2 ^ 64)
    (habove : 2 ^ 64 < type.value.toNat + 4 * p.pointerSize) : ReachesAround p type := by
  have hwidth : p.pointerSize = 4 ∨ p.pointerSize = 8 := p.architecture.pointerSize_eq
  rw [Address.toNat_add_mod] at hmetatype hname
  unfold ReachesAround
  generalize p.pointerSize = width at *
  rcases hwidth with rfl | rfl
  · -- A narrow pointer stays far from the top.
    omega
  · refine ⟨rfl, ?_⟩
    omega

section Found

variable {m : ByteMap} {p : Debuggee} {a : Address} {o : Object}

/-- The words that are read for an object. -/
theorem words_of_found (found : (find p a).run.result m.answer = .ok (some o)) :
    o.address = a ∧ p.pointerSize ∣ o.typeAddress.value.toNat ∧
      (∃ count, m.word? p.pointerSize a = some count) ∧
      m.word? p.pointerSize (a.add p.pointerSize.toUInt64) = some o.typeAddress.value.toNat ∧
      (∃ metatype : Address, metatype ≠ .null ∧
        m.word? p.pointerSize (o.typeAddress.add p.pointerSize.toUInt64) =
          some metatype.value.toNat) ∧
      ∃ name : Address, name ≠ .null ∧
        m.word? p.pointerSize (o.typeAddress.add (3 * p.pointerSize).toUInt64) =
          some name.value.toNat := by
  have hwidth : p.pointerSize = 4 ∨ p.pointerSize = 8 := p.architecture.pointerSize_eq
  have hnotNull {place : Address} (h : place.isNull = false) : place ≠ .null := by
    rintro rfl
    cases h
  have ha : a ≠ .null := by
    rintro rfl
    cases found
  obtain ⟨count, type, metatype, name, bytes, typeName, -, hcount, -, htype, -, htaligned,
    hmetatype, hmnull, hname, hnnull, -, -, hfound⟩ := (result_find_eq_ok_iff ha).1 found
  obtain rfl := Option.some.inj hfound
  rw [Reading.result_pointer_eq_ok_iff (by omega)] at htype hmetatype hname
  rw [Reading.result_signed_eq_ok_iff (by omega)] at hcount
  obtain ⟨n, hn, -⟩ := hcount
  exact ⟨rfl, (isAligned_iff p type).1 htaligned, ⟨n, hn⟩, htype,
    ⟨metatype, hnotNull hmnull, hmetatype⟩, name, hnotNull hnnull, hname⟩

/-- The two words of an object are below the top, whatever stands there. -/
theorem header_of_found (found : (find p a).run.result m.answer = .ok (some o)) :
    a.value.toNat + 2 * p.pointerSize < 2 ^ 64 := by
  obtain ⟨-, -, ⟨count, hcount⟩, htype, -⟩ := words_of_found found
  have hfirst := ByteMap.belowTop_of_word? hcount
  have hsecond := ByteMap.belowTop_of_word? htype
  rw [Address.toNat_add_of_lt hfirst] at hsecond
  omega

theorem reachesAround_of_found (found : (find p a).run.result m.answer = .ok (some o))
    (habove : 2 ^ 64 < o.typeAddress.value.toNat + 4 * p.pointerSize) :
    ReachesAround p o.typeAddress := by
  obtain ⟨-, haligned, -, htype, ⟨metatype, -, hmetatype⟩, name, -, hname⟩ :=
    words_of_found found
  apply reachesAround_of_above haligned (ByteMap.word?_lt htype) _ _ habove
  · exact ByteMap.belowTop_of_word? hmetatype
  · exact ByteMap.belowTop_of_word? hname

/-- Where a type reaches around the top, one of its words is read at null. -/
theorem word?_null_of_found (found : (find p a).run.result m.answer = .ok (some o))
    (h : ReachesAround p o.typeAddress) :
    ∃ word : Address, word ≠ .null ∧ m.word? 8 .null = some word.value.toNat ∧
      (o.typeAddress.add 8 = .null ∨ o.typeAddress.add 24 = .null) := by
  obtain ⟨-, -, -, -, ⟨metatype, hmnull, hmetatype⟩, name, hnnull, hname⟩ :=
    words_of_found found
  obtain ⟨hwide, hlast | hlastButTwo⟩ := h
  all_goals rw [hwide] at hmetatype hname
  · have hplace : o.typeAddress.add (8 : Nat).toUInt64 = .null :=
      Address.add_eq_null (by omega)
    rw [hplace] at hmetatype
    exact ⟨metatype, hmnull, hmetatype, .inl hplace⟩
  · have hplace : o.typeAddress.add (3 * 8 : Nat).toUInt64 = .null :=
      Address.add_eq_null (by omega)
    rw [hplace] at hname
    exact ⟨name, hnnull, hname, .inr hplace⟩

end Found

/-- The words of an object that is found, and of its type, end below the top, except for types in
two places.  For these, the word at null is read as one of the type, so none is found where memory
has no such word. -/
theorem found_belowTop_iff (m : ByteMap) (p : Debuggee) (a : Address) (o : Object)
    (found : (find p a).run.result m.answer = .ok (some o)) :
    a.value.toNat + 2 * p.pointerSize < 2 ^ 64 ∧
      (BelowTop p o ↔ ¬ ReachesAround p o.typeAddress) ∧
      (ReachesAround p o.typeAddress →
        ∃ word : Address, word ≠ .null ∧ m.word? 8 .null = some word.value.toNat ∧
          (o.typeAddress.add 8 = .null ∨ o.typeAddress.add 24 = .null)) := by
  have hheader := header_of_found found
  refine ⟨hheader, ?_, word?_null_of_found found⟩
  constructor
  · rintro ⟨-, -, hname⟩ ⟨hwide, hplace⟩
    omega
  · intro hnot
    have hname : o.typeAddress.value.toNat + 4 * p.pointerSize ≤ 2 ^ 64 := by
      apply Nat.le_of_not_lt
      intro habove
      exact hnot (reachesAround_of_found found habove)
    rw [← (words_of_found found).1] at hheader
    exact ⟨by omega, by omega, hname⟩

theorem found_belowTop_iff_dictionary :
    (find ⟨⟨1⟩, .x86_64⟩ ⟨0x1000⟩).run.result dictionary.answer =
        .ok (some ⟨⟨⟨1⟩, .x86_64⟩, ⟨0x1000⟩, ⟨0x1010⟩, "dict", 1⟩) ∧
      BelowTop ⟨⟨1⟩, .x86_64⟩ ⟨⟨⟨1⟩, .x86_64⟩, ⟨0x1000⟩, ⟨0x1010⟩, "dict", 1⟩ := by
  have found : (find ⟨⟨1⟩, .x86_64⟩ ⟨0x1000⟩).run.result dictionary.answer =
      .ok (some ⟨⟨⟨1⟩, .x86_64⟩, ⟨0x1000⟩, ⟨0x1010⟩, "dict", 1⟩) := by decide +kernel
  refine ⟨found, (found_belowTop_iff dictionary _ _ _ found).2.1.2 ?_⟩
  rintro ⟨-, hplace⟩
  revert hplace
  decide

/-- The words at null: a metatype, two more words of a type, and an object of that type, which
begins in the last word of memory. -/
def bottom : ByteMap :=
  .ofBytes .null [
    0x18, 0, 0, 0, 0, 0, 0, 0, 0, 0, 0, 0, 0, 0, 0, 0, 0x28, 0, 0, 0, 0, 0, 0, 0,
    1, 0, 0, 0, 0, 0, 0, 0, 0xf8, 0xff, 0xff, 0xff, 0xff, 0xff, 0xff, 0xff,
    0x64, 0x69, 0x63, 0x74, 0]

/-- An object is found although no word of its type but the first can be where it belongs. -/
theorem found_with_type_around_top :
    (find ⟨⟨1⟩, .x86_64⟩ ⟨0x18⟩).run.result bottom.answer =
        .ok (some ⟨⟨⟨1⟩, .x86_64⟩, ⟨0x18⟩, ⟨0xfffffffffffffff8⟩, "dict", 1⟩) ∧
      ¬ BelowTop ⟨⟨1⟩, .x86_64⟩ ⟨⟨⟨1⟩, .x86_64⟩, ⟨0x18⟩, ⟨0xfffffffffffffff8⟩, "dict", 1⟩ := by
  refine ⟨by decide +kernel, ?_⟩
  rintro ⟨-, hmetatype, -⟩
  revert hmetatype
  decide

end ObjectView.Object
