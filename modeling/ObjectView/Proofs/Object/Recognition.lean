import ObjectView.Object
import ObjectView.Proofs.Memory.Text
import ObjectView.Proofs.Memory.Word

/-!
# Which bytes are an object

Over a map from addresses to bytes, an object is found where the words of its header and of its
type are in order and the type has a printable name, and nowhere else.
-/

namespace ObjectView.Object

open Memory

section Steps

variable {α : Type} {answer : (q : Request) → q.Answer} {a : Address}

theorem result_refuseIf_eq_ok_iff {defective : Bool} {defect : Defect} {u : Unit} :
    (refuseIf a defective defect).run.result answer = .ok u ↔ defective = false := by
  cases defective <;> simp [refuseIf]

theorem result_reading (r : Reading α) :
    (reading a r).run.result answer = (r.run.result answer).mapError (.unreadable a) := by
  change Dialogue.result answer (Except.mapError (ObjectError.unreadable a) <$> r.run) = _
  rw [map_eq_pure_bind, Dialogue.result_bind]
  rfl

theorem result_reading_eq_ok_iff {r : Reading α} {x : α} :
    (reading a r).run.result answer = .ok x ↔ r.run.result answer = .ok x := by
  rw [result_reading]
  cases r.run.result answer with
  | error e => exact iff_of_false nofun nofun
  | ok y =>
      change (Except.ok y : Except ObjectError α) = .ok x ↔ _
      rw [Except.ok.injEq, Except.ok.injEq]

end Steps

/-- The bytes at an address are those of an object of the process: a plausible count, a type whose
own words are in order, and a name of 1 to 256 visible characters in front of a zero. -/
structure IsAt (m : ByteMap) (p : Debuggee) (a : Address) (o : Object) : Prop where
  process : o.process = p
  address : o.address = a
  notNull : a.value ≠ 0
  aligned : p.pointerSize ∣ a.value.toNat
  count : ∃ n, m.word? p.pointerSize a = some n ∧
    o.count = (BitVec.ofNat (8 * p.pointerSize) n).toInt
  countPositive : 0 < o.count
  countSmall : p.pointerSize = 8 → o.count < 2 ^ 48
  type : m.word? p.pointerSize (a.add p.pointerSize.toUInt64) = some o.typeAddress.value.toNat
  typeNotNull : o.typeAddress.value ≠ 0
  typeAligned : p.pointerSize ∣ o.typeAddress.value.toNat
  metatype : ∃ type : Address,
    m.word? p.pointerSize (o.typeAddress.add p.pointerSize.toUInt64) = some type.value.toNat ∧
      type.value ≠ 0
  name : ∃ (start : Address) (text : List UInt8),
    m.word? p.pointerSize (o.typeAddress.add (3 * p.pointerSize).toUInt64) =
        some start.value.toNat ∧ start.value ≠ 0 ∧
      1 ≤ text.length ∧ text.length ≤ 256 ∧ m.bytes? start text.length = some text ∧
      (∀ b ∈ text, 0x20 ≤ b ∧ b ≤ 0x7e) ∧ m (start.add text.length.toUInt64) = some 0 ∧
      o.typeName = String.ofList (text.map fun b => Char.ofNat b.toNat)

/-- What has to be read, and how it has to be, for an object to be found. -/
theorem result_find_eq_ok_iff {answer : (q : Request) → q.Answer} {p : Debuggee} {a : Address}
    (ha : a ≠ .null) {found : Option Object} :
    (find p a).run.result answer = .ok found ↔
      ∃ count type metatype name bytes typeName,
        a.isAligned p.pointerSize.toUInt64 = true ∧
        (Reading.signed p.pointerSize a).run.result answer = .ok count ∧
        (ObjectLayout.ofProcess p).isPlausibleCount count = true ∧
        (Reading.pointer p.pointerSize (a.add p.pointerSize.toUInt64)).run.result answer =
          .ok type ∧
        type.isNull = false ∧ type.isAligned p.pointerSize.toUInt64 = true ∧
        (Reading.pointer p.pointerSize (type.add p.pointerSize.toUInt64)).run.result answer =
          .ok metatype ∧
        metatype.isNull = false ∧
        (Reading.pointer p.pointerSize (type.add (3 * p.pointerSize).toUInt64)).run.result
          answer = .ok name ∧
        name.isNull = false ∧
        (Reading.text name maxNameLength).run.result answer = .ok (some bytes) ∧
        nameOf? bytes = some typeName ∧ found = some ⟨p, a, type, typeName, count⟩ := by
  have hnull : ¬ a.isNull = true := by
    intro h
    exact ha (congrArg Address.mk (of_decide_eq_true h))
  rw [find, if_neg hnull]
  simp only [Dialogue.result_run_bind_eq_ok_iff, result_reading_eq_ok_iff,
    result_refuseIf_eq_ok_iff, Bool.not_eq_false']
  constructor
  · rintro ⟨-, haligned, count, hcount, -, hplausible, type, htype, -, htnull, -, htaligned,
      metatype, hmetatype, -, hmnull, name, hname, -, hnnull, text, htext, hfound⟩
    cases text with
    | none => cases hfound
    | some bytes =>
        cases htypeName : nameOf? bytes with
        | none =>
            simp only [htypeName] at hfound
            cases hfound
        | some typeName =>
            simp only [htypeName] at hfound
            cases hfound
            exact ⟨count, type, metatype, name, bytes, typeName, haligned,
              (Address.add_zero a).symm ▸ hcount, hplausible, htype, htnull, htaligned, hmetatype,
              hmnull, hname, hnnull, htext, htypeName, rfl⟩
  · rintro ⟨count, type, metatype, name, bytes, typeName, haligned, hcount, hplausible, htype,
      htnull, htaligned, hmetatype, hmnull, hname, hnnull, htext, htypeName, rfl⟩
    refine ⟨(), haligned, count, (Address.add_zero a).symm ▸ hcount, (), hplausible, type, htype,
      (), htnull, (), htaligned, metatype, hmetatype, (), hmnull, name, hname, (), hnnull,
      some bytes, htext, ?_⟩
    simp only [htypeName]
    rfl

/-! The tests on the words and on the name, in terms of numbers and bytes. -/

theorem isNull_eq_false_iff {a : Address} : a.isNull = false ↔ a.value ≠ 0 := by
  simp [Address.isNull]

theorem isAligned_iff (p : Debuggee) (a : Address) :
    a.isAligned p.pointerSize.toUInt64 = true ↔ p.pointerSize ∣ a.value.toNat := by
  rcases p.architecture.pointerSize_eq with h | h
  all_goals
    rw [Debuggee.pointerSize, h, Address.isAligned, Bool.and_eq_true, decide_eq_true_eq,
      decide_eq_true_eq, ← UInt64.toNat_inj, UInt64.toNat_mod, Nat.dvd_iff_mod_eq_zero]
    exact and_iff_right (by decide)

theorem isPlausibleCount_iff (p : Debuggee) (count : Int) :
    (ObjectLayout.ofProcess p).isPlausibleCount count = true ↔
      0 < count ∧ (p.pointerSize = 8 → count < 2 ^ 48) := by
  have hwidth : p.pointerSize = 4 ∨ p.pointerSize = 8 := p.architecture.pointerSize_eq
  rw [ObjectLayout.isPlausibleCount, Bool.and_eq_true, Bool.or_eq_true, decide_eq_true_eq,
    decide_eq_true_eq, decide_eq_true_eq]
  change 0 < count ∧ (p.pointerSize = 4 ∨ count < 2 ^ 48) ↔ _
  apply and_congr_right
  intro _
  rcases hwidth with h | h <;> simp [h]

theorem nameOf?_eq_some_iff {bytes : List UInt8} {name : String} :
    nameOf? bytes = some name ↔
      1 ≤ bytes.length ∧ (∀ b ∈ bytes, 0x20 ≤ b ∧ b ≤ 0x7e) ∧
        name = String.ofList (bytes.map fun b => Char.ofNat b.toNat) := by
  rw [nameOf?, Option.ite_none_right_eq_some, Option.some.injEq, and_assoc, List.all_eq_true,
    Nat.succ_le_iff, List.length_pos_iff, eq_comm (b := name)]
  simp only [isPrintable, Bool.and_eq_true, decide_eq_true_eq]

/-- A name is accepted if its visible characters stand in front of a zero. -/
theorem name_iff {m : ByteMap} {start : Address} (hstart : start.value.toNat + 257 < 2 ^ 64)
    {bytes : List UInt8} {name : String} :
    (Reading.text start maxNameLength).run.result m.answer = .ok (some bytes) ∧
        nameOf? bytes = some name ↔
      1 ≤ bytes.length ∧ bytes.length ≤ 256 ∧ m.bytes? start bytes.length = some bytes ∧
        (∀ b ∈ bytes, 0x20 ≤ b ∧ b ≤ 0x7e) ∧ m (start.add bytes.length.toUInt64) = some 0 ∧
        name = String.ofList (bytes.map fun b => Char.ofNat b.toNat) := by
  have hmax : maxNameLength.toNat = 256 := rfl
  rw [Reading.result_text (by rw [hmax]; omega), hmax, ByteMap.scan_eq_some_iff,
    nameOf?_eq_some_iff, Nat.lt_succ_iff]
  constructor
  · rintro ⟨⟨htext, hlength, hzero⟩, hpos, hvisible, hname⟩
    exact ⟨hpos, hlength, htext.present, hvisible, hzero, hname⟩
  · rintro ⟨hpos, hlength, hpresent, hvisible, hzero, hname⟩
    have hnonzero : 0 ∉ bytes := fun h => absurd (hvisible 0 h).1 (by decide)
    exact ⟨⟨⟨hpresent, hnonzero⟩, hlength, hzero⟩, hpos, hvisible, hname⟩

theorem result_find_eq_none_iff {answer : (q : Request) → q.Answer} {p : Debuggee} {a : Address} :
    (find p a).run.result answer = .ok none ↔ a.value = 0 := by
  constructor
  · intro h
    by_cases ha : a = .null
    · exact congrArg Address.value ha
    · obtain ⟨_, _, _, _, _, _, _, _, _, _, _, _, _, _, _, _, _, _, hfound⟩ :=
        (result_find_eq_ok_iff ha).1 h
      cases hfound
  · intro hvalue
    obtain rfl : a = .null := congrArg Address.mk hvalue
    rfl

/-- Objects are found exactly where one is: at the null address nothing is found and nothing is
wrong, and anywhere else exactly the objects that the words and the name there describe.  The name
must not reach the top of the address space. -/
theorem found_iff_isAt (m : ByteMap) (p : Debuggee) (a : Address) :
    ((find p a).run.result m.answer = .ok none ↔ a.value = 0) ∧
      ((∀ type name : Address,
          m.word? p.pointerSize (a.add p.pointerSize.toUInt64) = some type.value.toNat →
          m.word? p.pointerSize (type.add (3 * p.pointerSize).toUInt64) =
            some name.value.toNat → name.value.toNat + 257 < 2 ^ 64) →
        ∀ o, (find p a).run.result m.answer = .ok (some o) ↔ IsAt m p a o) := by
  refine ⟨result_find_eq_none_iff, fun hbelow o => ?_⟩
  have hwidth : p.pointerSize ≤ 8 := by
    rw [Debuggee.pointerSize]
    rcases p.architecture.pointerSize_eq with h | h
    all_goals omega
  have hwidth' : p.pointerSize < 2 ^ 64 := by omega
  constructor
  · intro h
    have ha : a ≠ .null := by
      intro hnull
      rw [result_find_eq_none_iff.2 (congrArg Address.value hnull)] at h
      cases h
    obtain ⟨count, type, metatype, start, bytes, name, haligned, hcount, hplausible, htype, htnull,
      htaligned, hmetatype, hmnull, hstart, hsnull, htext, hname, hfound⟩ :=
      (result_find_eq_ok_iff ha).1 h
    obtain rfl := Option.some.inj hfound
    rw [Reading.result_pointer_eq_ok_iff hwidth] at htype hmetatype hstart
    rw [isNull_eq_false_iff] at htnull hmnull hsnull
    obtain ⟨hpos, hsmall⟩ := (isPlausibleCount_iff p count).1 hplausible
    obtain ⟨hlength, hmax, hpresent, hvisible, hzero, hname⟩ :=
      (name_iff (hbelow type start htype hstart)).1 ⟨htext, hname⟩
    exact {
      process := rfl
      address := rfl
      notNull := fun h0 => ha (congrArg Address.mk h0)
      aligned := (isAligned_iff p a).1 haligned
      count := (Reading.result_signed_eq_ok_iff hwidth').1 hcount
      countPositive := hpos
      countSmall := hsmall
      type := htype
      typeNotNull := htnull
      typeAligned := (isAligned_iff p type).1 htaligned
      metatype := ⟨metatype, hmetatype, hmnull⟩
      name := ⟨start, bytes, hstart, hsnull, hlength, hmax, hpresent, hvisible, hzero, hname⟩ }
  · rintro ⟨hprocess, haddress, hnotNull, haligned, hcount, hpos, hsmall, htype, htnull, htaligned,
      ⟨metatype, hmetatype, hmnull⟩, start, bytes, hstart, hsnull, hlength, hmax, hpresent,
      hvisible, hzero, hname⟩
    have ha : a ≠ .null := fun h0 => hnotNull (congrArg Address.value h0)
    obtain ⟨htext, hname⟩ := (name_iff (hbelow o.typeAddress start htype hstart)).2
      ⟨hlength, hmax, hpresent, hvisible, hzero, hname⟩
    refine (result_find_eq_ok_iff ha).2 ⟨o.count, o.typeAddress, metatype, start, bytes,
      o.typeName, (isAligned_iff p a).2 haligned,
      (Reading.result_signed_eq_ok_iff hwidth').2 hcount,
      (isPlausibleCount_iff p o.count).2 ⟨hpos, hsmall⟩,
      (Reading.result_pointer_eq_ok_iff hwidth).2 htype, isNull_eq_false_iff.2 htnull,
      (isAligned_iff p o.typeAddress).2 htaligned,
      (Reading.result_pointer_eq_ok_iff hwidth).2 hmetatype, isNull_eq_false_iff.2 hmnull,
      (Reading.result_pointer_eq_ok_iff hwidth).2 hstart, isNull_eq_false_iff.2 hsnull,
      htext, hname, ?_⟩
    rw [← hprocess, ← haddress]

/-- An object at `0x1000`, its type right behind it, and the name of the type behind both. -/
def dictionary : ByteMap :=
  .ofBytes ⟨0x1000⟩ [
    1, 0, 0, 0, 0, 0, 0, 0, 0x10, 0x10, 0, 0, 0, 0, 0, 0,
    1, 0, 0, 0, 0, 0, 0, 0, 0x10, 0x10, 0, 0, 0, 0, 0, 0,
    0, 0, 0, 0, 0, 0, 0, 0, 0x30, 0x10, 0, 0, 0, 0, 0, 0,
    0x64, 0x69, 0x63, 0x74, 0]

theorem found_iff_isAt_dictionary :
    (∀ type name : Address,
      dictionary.word? 8 ⟨0x1008⟩ = some type.value.toNat →
      dictionary.word? 8 (type.add 24) = some name.value.toNat →
        name.value.toNat + 257 < 2 ^ 64) ∧
      (find ⟨⟨1⟩, .x86_64⟩ ⟨0x1000⟩).run.result dictionary.answer =
        .ok (some ⟨⟨⟨1⟩, .x86_64⟩, ⟨0x1000⟩, ⟨0x1010⟩, "dict", 1⟩) := by
  have hbelow : ∀ type name : Address,
      dictionary.word? 8 ⟨0x1008⟩ = some type.value.toNat →
      dictionary.word? 8 (type.add 24) = some name.value.toNat →
        name.value.toNat + 257 < 2 ^ 64 := by
    intro type name htype hname
    have htype' : dictionary.word? 8 ⟨0x1008⟩ = some (0x1010 : UInt64).toNat := by decide
    obtain ⟨t⟩ := type
    obtain rfl : t = 0x1010 := UInt64.toNat_inj.1 (Option.some.inj (htype.symm.trans htype'))
    have hname' : dictionary.word? 8 (Address.add ⟨0x1010⟩ 24) = some 0x1030 := by decide
    rw [← Option.some.inj (hname'.symm.trans hname)]
    decide
  refine ⟨hbelow, ((found_iff_isAt dictionary ⟨⟨1⟩, .x86_64⟩ ⟨0x1000⟩).2 hbelow _).2 ?_⟩
  exact {
    process := rfl
    address := rfl
    notNull := by decide
    aligned := by decide
    count := ⟨1, by decide, by decide⟩
    countPositive := by decide
    countSmall := fun _ => by decide
    type := by decide
    typeNotNull := by decide
    typeAligned := by decide
    metatype := ⟨⟨0x1010⟩, by decide, by decide⟩
    name := ⟨⟨0x1030⟩, [0x64, 0x69, 0x63, 0x74], by decide, by decide, by decide, by decide,
      by decide, by simp, by decide, rfl⟩ }

end ObjectView.Object
