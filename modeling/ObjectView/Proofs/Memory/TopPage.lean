import ObjectView.Proofs.Memory.Text
import ObjectView.Proofs.Memory.Word

/-!
# Texts in the last page of memory

The last page ends at the top, and a block that reaches the top is refused without being asked for.
A text that is read page by page comes to such a block if its limit reaches the top and no zero
stands in front of the last page.  It is refused then, and not gone through byte by byte, even if
its zero stands in the last page and all its bytes are there.

The other limit is that of the length: the number of bytes within reach is one more, and with the
greatest length it does not fit a word.
-/

namespace ObjectView.Memory

/-- Where the last page begins. -/
def topPage : Nat :=
  2 ^ 64 - pageSize

theorem topPage_eq : topPage = 2 ^ 64 - 4096 := rfl

namespace Outcome

/-- The outcome, with an error where no end of the text is found. -/
def endingIn (e : MemoryError) : Outcome → Outcome
  | .ok none => .error e
  | outcome => outcome

variable {e : MemoryError} {outcome : Outcome} {text : List UInt8}

theorem endingIn_of_ne (h : outcome ≠ .ok none) : outcome.endingIn e = outcome := by
  rcases outcome with e' | _ | found
  · rfl
  · exact absurd rfl h
  · rfl

theorem endingIn_prepend (start : List UInt8) :
    (outcome.prepend start).endingIn e = (outcome.endingIn e).prepend start := by
  rcases outcome with e' | _ | found <;> rfl

theorem endingIn_eq_some_iff :
    outcome.endingIn e = .ok (some text) ↔ outcome = .ok (some text) := by
  by_cases h : outcome = .ok none
  · subst h
    exact iff_of_false nofun nofun
  · rw [endingIn_of_ne h]

end Outcome

open Outcome

namespace ByteMap

variable {m : ByteMap} {a : Address} {text : List UInt8} {count : Nat}

theorem HasText.take (h : m.HasText a text) {n : Nat} (hn : n ≤ text.length) :
    m.HasText a (text.take n) := by
  have hbytes := (bytes?_eq_some_iff.1 h.present).2
  have hlength : (text.take n).length = n := List.length_take_of_le hn
  refine ⟨bytes?_eq_some_iff.2 ⟨rfl, fun i hi => ?_⟩, fun hzero => ?_⟩
  · rw [hbytes i (by omega), List.getElem_take]
  · exact h.nonzero (List.mem_of_mem_take hzero)

/-- A scan over a byte that is missing does not go on to its limit. -/
theorem scan_ne_none_of_bytes?_none (h : m.bytes? a count = none) (more : Nat) :
    m.scan a (count + more) ≠ .ok none := by
  intro hscan
  obtain ⟨text, htext, hlength⟩ := scan_eq_none_iff.1 hscan
  have hall := exists_bytes?_iff.1 ⟨text, htext.present⟩
  obtain ⟨bytes, hbytes⟩ := exists_bytes?_iff.2 fun i (hi : i < count) => hall i (by omega)
  rw [h] at hbytes
  cases hbytes

end ByteMap

namespace Reading

variable {m : ByteMap} {a : Address} {text : List UInt8} {maxLength : UInt64}

/-- The error for a text that is to be read up to the top. -/
def refusal (a : Address) : MemoryError :=
  .overflow (a.add (topPage - a.value.toNat).toUInt64)
    (2 ^ 64 - (a.value.toNat + (topPage - a.value.toNat)))

theorem refusal_add {length : Nat} (hle : a.value.toNat + length ≤ topPage) :
    refusal (a.add length.toUInt64) = refusal a := by
  have hplace : (a.add length.toUInt64).value.toNat = a.value.toNat + length := by
    apply Address.toNat_add_of_lt
    rw [topPage_eq] at hle
    omega
  obtain ⟨more, hmore⟩ := Nat.exists_eq_add_of_le hle
  have hbehind : topPage - (a.value.toNat + length) = more := by omega
  have hfront : topPage - a.value.toNat = length + more := by omega
  rw [refusal, refusal, hplace, hbehind, hfront, Address.add_add_toUInt64, Nat.add_assoc]

/-- In the last page everything up to the top is asked for at once. -/
theorem pageLength_of_topPage_le {room : Nat} (htop : topPage ≤ a.value.toNat)
    (hge : 2 ^ 64 ≤ a.value.toNat + room) : pageLength a room = 2 ^ 64 - a.value.toNat := by
  have hlt := a.value.toNat_lt
  rw [topPage_eq] at htop
  rw [pageLength, pageSize]
  omega

/-- A page in front of the last one ends in front of it, or where it begins. -/
theorem pageLength_of_lt_topPage {room : Nat} (htop : a.value.toNat < topPage)
    (hge : 2 ^ 64 ≤ a.value.toNat + room) :
    a.value.toNat + pageLength a room ≤ topPage ∧ pageLength a room ≤ room := by
  refine ⟨?_, pageLength_le a room⟩
  rw [topPage_eq] at htop ⊢
  rw [pageLength, pageSize]
  omega

theorem result_scan {count : Nat} (hlt : a.value.toNat + count < 2 ^ 64)
    (h : m.bytes? a count = none) (text : List UInt8) (more : Nat) :
    (scan a text count).run.result m.answer = (m.scan a (count + more)).prepend text :=
  (converse_scan hlt h text more []).1

/-- Reading pages up to the top is a scan up to the last page, which is refused. -/
theorem result_chunks_of_ge {room : Nat} (hroom : room < 2 ^ 64)
    (hge : 2 ^ 64 ≤ a.value.toNat + room) (text : List UInt8) :
    (chunks a text room).run.result m.answer =
      ((m.scan a (topPage - a.value.toNat)).endingIn (refusal a)).prepend text := by
  -- As for texts below the top, every page takes some of the room.
  induction room using Nat.strongRecOn generalizing a text with
  | ind room ih =>
      have hbelow := a.value.toNat_lt
      have hne : room ≠ 0 := by omega
      have hpos : 0 < pageLength a room := pageLength_pos hne
      rw [run_chunks hne, Dialogue.result_bind]
      rcases Nat.lt_or_ge a.value.toNat topPage with htop | htop
      · obtain ⟨hend, hle⟩ := pageLength_of_lt_topPage htop hge
        generalize pageLength a room = length at hpos hend hle
        have hlt : a.value.toNat + length < 2 ^ 64 := by
          rw [topPage_eq] at hend
          omega
        obtain ⟨more, hmore⟩ := Nat.exists_eq_add_of_le hend
        have hfront : topPage - a.value.toNat = length + more := by omega
        rw [result_block (by omega), if_pos hlt, ByteMap.answer, hfront]
        cases hbytes : m.bytes? a length with
        | none =>
            have hscan := ByteMap.scan_ne_none_of_bytes?_none hbytes more
            rw [ByteMap.read_of_none hbytes, endingIn_of_ne hscan]
            exact result_scan hlt hbytes text more
        | some bytes =>
            obtain ⟨block, hread, hblock⟩ := ByteMap.exists_read_of_some hbytes
            rw [hread, scan_of_bytes? hbytes]
            simp only [afterPage, hblock]
            cases terminated? bytes with
            | some last => rfl
            | none =>
                have hplace : (a.add length.toUInt64).value.toNat = a.value.toNat + length :=
                  Address.toNat_add_of_lt hlt
                have hbehind : topPage - (a.add length.toUInt64).value.toNat = more := by omega
                have hrest := ih (room - length) (by omega) (a := a.add length.toUInt64)
                  (by omega) (by omega) (text ++ bytes)
                rw [hbehind, refusal_add hend] at hrest
                rw [endingIn_prepend, prepend_prepend]
                exact hrest
      · have hlength := pageLength_of_topPage_le htop hge
        have hfront : topPage - a.value.toNat = 0 := by omega
        rw [result_block (by omega), if_neg (by omega), hlength, refusal, hfront]
        simp [afterPage, endingIn]

theorem result_text_of_ge (hmax : maxLength.toNat + 1 < 2 ^ 64)
    (hge : 2 ^ 64 ≤ a.value.toNat + maxLength.toNat + 1) :
    (Reading.text a maxLength hmax).run.result m.answer =
      (m.scan a (topPage - a.value.toNat)).endingIn (refusal a) := by
  rw [Reading.text, result_chunks_of_ge hmax hge, prepend_nil]

theorem text?_of_lt (hmax : maxLength.toNat + 1 < 2 ^ 64) :
    text? a maxLength = some (Reading.text a maxLength hmax) :=
  dif_pos hmax

/-- The greatest length leaves no word for the number of bytes within reach. -/
theorem text?_of_greatest (hmax : maxLength.toNat + 1 = 2 ^ 64) : text? a maxLength = none :=
  dif_neg (Nat.not_lt.2 (Nat.le_of_eq hmax.symm))

/-- Which texts are found, at any place. -/
theorem result_text_eq_some_iff (hmax : maxLength.toNat + 1 < 2 ^ 64) :
    (Reading.text a maxLength hmax).run.result m.answer = .ok (some text) ↔
      m.HasText a text ∧ text.length ≤ maxLength.toNat ∧
        m (a.add text.length.toUInt64) = some 0 ∧
        (a.value.toNat + maxLength.toNat + 1 < 2 ^ 64 ∨
          a.value.toNat + text.length < topPage) := by
  have htopPage := topPage_eq
  rcases Nat.lt_or_ge (a.value.toNat + maxLength.toNat + 1) (2 ^ 64) with hlt | hge
  · rw [result_text hlt, ByteMap.scan_eq_some_iff, Nat.lt_succ_iff]
    constructor
    · rintro ⟨htext, hlength, hzero⟩
      exact ⟨htext, hlength, hzero, .inl hlt⟩
    · rintro ⟨htext, hlength, hzero, -⟩
      exact ⟨htext, hlength, hzero⟩
  · rw [result_text_of_ge hmax hge, endingIn_eq_some_iff, ByteMap.scan_eq_some_iff]
    constructor
    · rintro ⟨htext, hlength, hzero⟩
      exact ⟨htext, by omega, hzero, .inr (by omega)⟩
    · rintro ⟨htext, -, hzero, hbelow | hbelow⟩
      · omega
      · exact ⟨htext, by omega, hzero⟩

/-- A text that is there, with its zero within reach, is found unless its limit reaches the top
and its zero does not stand in front of the last page, which is refused as a whole then, or the
limit is the greatest length, with which the program stops before anything is read. -/
theorem text_found_iff (m : ByteMap) (a : Address) (maxLength : UInt64) (text : List UInt8)
    (htext : m.HasText a text) (hlength : text.length ≤ maxLength.toNat)
    (hzero : m (a.add text.length.toUInt64) = some 0) :
    let outcome? := (Reading.text? a maxLength).map fun reading => reading.run.result m.answer
    (outcome? = some (.ok (some text)) ↔
        maxLength.toNat + 1 < 2 ^ 64 ∧
          (a.value.toNat + maxLength.toNat + 1 < 2 ^ 64 ∨
            a.value.toNat + text.length < topPage)) ∧
      (maxLength.toNat + 1 = 2 ^ 64 → outcome? = none) ∧
      (maxLength.toNat + 1 < 2 ^ 64 → 2 ^ 64 ≤ a.value.toNat + maxLength.toNat + 1 →
        topPage ≤ a.value.toNat + text.length → outcome? = some (.error (refusal a))) := by
  intro outcome?
  have hread (hmax : maxLength.toNat + 1 < 2 ^ 64) :
      outcome? = some ((Reading.text a maxLength hmax).run.result m.answer) := by
    simp only [outcome?, text?_of_lt hmax, Option.map_some]
  have hstopped (hgreatest : maxLength.toNat + 1 = 2 ^ 64) : outcome? = none := by
    simp only [outcome?, text?_of_greatest hgreatest, Option.map_none]
  refine ⟨?_, hstopped, fun hmax hge htop => ?_⟩
  · rcases Nat.lt_or_ge (maxLength.toNat + 1) (2 ^ 64) with hmax | hgreatest
    · rw [hread hmax, Option.some.injEq, result_text_eq_some_iff hmax]
      constructor
      · rintro ⟨-, -, -, hplace⟩
        exact ⟨hmax, hplace⟩
      · rintro ⟨-, hplace⟩
        exact ⟨htext, hlength, hzero, hplace⟩
    · have hlt := maxLength.toNat_lt
      rw [hstopped (by omega)]
      refine iff_of_false nofun ?_
      rintro ⟨hmax, -⟩
      omega
  · have hfront : topPage - a.value.toNat ≤ text.length := by omega
    have hscan : m.scan a (topPage - a.value.toNat) = .ok none :=
      ByteMap.scan_of_full (htext.take hfront) (List.length_take_of_le hfront)
    rw [hread hmax, result_text_of_ge hmax hge, hscan]
    rfl

/-- The last sixteen bytes of memory, which begin with a text. -/
def lastBytes : ByteMap :=
  .ofBytes ⟨0xfffffffffffffff0⟩ [97, 98, 99, 0, 0, 0, 0, 0, 0, 0, 0, 0, 0, 0, 0, 0]

theorem text_found_iff_lastBytes :
    lastBytes.HasText ⟨0xfffffffffffffff0⟩ [97, 98, 99] ∧
      lastBytes ⟨0xfffffffffffffff3⟩ = some 0 ∧
      (Reading.text ⟨0xfffffffffffffff0⟩ 3).run.result lastBytes.answer =
        .ok (some [97, 98, 99]) := by
  have htext : lastBytes.HasText ⟨0xfffffffffffffff0⟩ [97, 98, 99] := ⟨by decide, by decide⟩
  have hfound := text_found_iff lastBytes ⟨0xfffffffffffffff0⟩ 3 [97, 98, 99] htext (by decide)
    (by decide)
  have htext? := hfound.1.2 ⟨by decide, .inl (by decide)⟩
  rw [text?_of_lt (by decide), Option.map_some, Option.some.injEq] at htext?
  exact ⟨htext, by decide, htext?⟩

/-- With a limit that reaches the top, the same text is refused, and with the greatest limit the
program stops. -/
theorem text_lost_at_limits :
    lastBytes.HasText ⟨0xfffffffffffffff0⟩ [97, 98, 99] ∧
      lastBytes ⟨0xfffffffffffffff3⟩ = some 0 ∧
      (Reading.text ⟨0xfffffffffffffff0⟩ 255).run.result lastBytes.answer =
        .error (.overflow ⟨0xfffffffffffffff0⟩ 16) ∧
      Reading.text? ⟨0xfffffffffffffff0⟩ 0xffffffffffffffff = none := by
  refine ⟨⟨by decide, by decide⟩, by decide, ?_, text?_of_greatest (by decide)⟩
  rw [result_text_of_ge (by decide) (by decide)]
  rfl

end Reading

end ObjectView.Memory
