import ObjectView.Proofs.Memory.ByteMap

/-!
# Texts read page by page

A text is read in pages, and a page that cannot be read is gone through byte by byte.  Over a map
from addresses to bytes this comes to the same as looking at one byte after the other: neither the
pages nor what is behind the zero have any influence.

An error is always the memory's own answer to the last question.  The error that a search without
a zero would end with is never used, because it is only begun where a byte is missing.
-/

namespace ObjectView.Memory

/-- What looking for a text can come to: the text, `none` if it does not end, or an error. -/
abbrev Outcome := Except MemoryError (Option (List UInt8))

/-- The outcome for a text of which the beginning has been read already. -/
def Outcome.prepend (start : List UInt8) (outcome : Outcome) : Outcome :=
  outcome.map (Option.map (start ++ ·))

namespace Outcome

@[simp] theorem prepend_error (start : List UInt8) (e : MemoryError) :
    prepend start (.error e) = .error e := rfl

@[simp] theorem prepend_none (start : List UInt8) : prepend start (.ok none) = .ok none := rfl

@[simp] theorem prepend_some (start text : List UInt8) :
    prepend start (.ok (some text)) = .ok (some (start ++ text)) := rfl

@[simp] theorem prepend_nil (outcome : Outcome) : prepend [] outcome = outcome := by
  cases outcome with
  | error e => rfl
  | ok found => cases found <;> rfl

@[simp] theorem prepend_prepend (start next : List UInt8) (outcome : Outcome) :
    prepend start (prepend next outcome) = prepend (start ++ next) outcome := by
  cases outcome with
  | error e => rfl
  | ok found => cases found <;> simp

end Outcome

open Outcome

namespace ByteMap

/-- Looks at one byte after the other, `count` at most, for the text in front of a zero. -/
def scan (m : ByteMap) : Address → Nat → Outcome
  | _, 0 => .ok none
  | a, count + 1 =>
      match m a with
      | none => .error (.unreadable a 1)
      | some b => if b = 0 then .ok (some []) else prepend [b] (m.scan (a.add 1) count)

/-- The bytes at an address are the given ones, and none of them is zero. -/
structure HasText (m : ByteMap) (a : Address) (text : List UInt8) : Prop where
  present : m.bytes? a text.length = some text
  nonzero : 0 ∉ text

variable {m : ByteMap} {a : Address} {b : UInt8} {text : List UInt8} {count : Nat}

@[simp] theorem scan_zero (m : ByteMap) (a : Address) : m.scan a 0 = .ok none := rfl

theorem scan_succ_of_none (h : m a = none) (count : Nat) :
    m.scan a (count + 1) = .error (.unreadable a 1) := by
  simp [scan, h]

theorem scan_succ_of_zero (h : m a = some 0) (count : Nat) :
    m.scan a (count + 1) = .ok (some []) := by
  simp [scan, h]

theorem scan_succ_of_ne (h : m a = some b) (hb : b ≠ 0) (count : Nat) :
    m.scan a (count + 1) = prepend [b] (m.scan (a.add 1) count) := by
  simp [scan, h, hb]

theorem hasText_nil (m : ByteMap) (a : Address) : m.HasText a [] :=
  ⟨rfl, List.not_mem_nil⟩

theorem hasText_cons_iff :
    m.HasText a (b :: text) ↔ m a = some b ∧ b ≠ 0 ∧ m.HasText (a.add 1) text := by
  constructor
  · rintro ⟨present, nonzero⟩
    obtain ⟨c, rest, hc, hrest, heq⟩ := bytes?_succ_eq_some_iff.1 present
    obtain ⟨rfl, rfl⟩ := List.cons.inj heq
    exact ⟨hc, fun hb => nonzero (by simp [hb]), hrest, fun h => nonzero (.tail _ h)⟩
  · rintro ⟨hb, hne, present, nonzero⟩
    refine ⟨?_, ?_⟩
    · rw [List.length_cons, bytes?_succ_of_some hb, present, Option.map_some]
    · rw [List.mem_cons]
      rintro (h | h)
      · exact hne h.symm
      · exact nonzero h

theorem scan_of_hasText (h : m.HasText a text) (count : Nat) :
    m.scan a (text.length + count) =
      prepend text (m.scan (a.add text.length.toUInt64) count) := by
  induction text generalizing a with
  | nil => simp [show (0 : Nat).toUInt64 = 0 from rfl]
  | cons b text ih =>
      obtain ⟨hb, hne, htext⟩ := hasText_cons_iff.1 h
      rw [List.length_cons, Nat.add_right_comm, scan_succ_of_ne hb hne, ih htext,
        Address.add_one_add, prepend_prepend, List.singleton_append]

/-- What stops a scan of `count` bytes behind a text: a byte that is missing, a zero, or that all
bytes have been looked at. -/
theorem exists_hasText (m : ByteMap) (a : Address) (count : Nat) :
    ∃ text, m.HasText a text ∧ (text.length = count ∨ text.length < count ∧
      (m (a.add text.length.toUInt64) = none ∨ m (a.add text.length.toUInt64) = some 0)) := by
  induction count generalizing a with
  | zero => exact ⟨[], hasText_nil m a, .inl rfl⟩
  | succ count ih =>
      have stopped (h : m a = none ∨ m a = some 0) : ∃ text, m.HasText a text ∧
          (text.length = count + 1 ∨ text.length < count + 1 ∧
            (m (a.add text.length.toUInt64) = none ∨
              m (a.add text.length.toUInt64) = some 0)) := by
        refine ⟨[], hasText_nil m a, .inr ⟨Nat.succ_pos count, ?_⟩⟩
        simpa [show (0 : Nat).toUInt64 = 0 from rfl] using h
      cases hb : m a with
      | none => exact stopped (.inl hb)
      | some b =>
          by_cases hne : b = 0
          · exact stopped (.inr (by rw [hb, hne]))
          · obtain ⟨text, htext, hend⟩ := ih (a.add 1)
            refine ⟨b :: text, hasText_cons_iff.2 ⟨hb, hne, htext⟩, ?_⟩
            rw [List.length_cons, ← Address.add_one_add]
            rcases hend with hlength | ⟨hlength, hbyte⟩
            · exact .inl (congrArg (· + 1) hlength)
            · exact .inr ⟨Nat.succ_lt_succ hlength, hbyte⟩

theorem scan_of_zero (h : m.HasText a text) (hlength : text.length < count)
    (hzero : m (a.add text.length.toUInt64) = some 0) : m.scan a count = .ok (some text) := by
  obtain ⟨rest, rfl⟩ : ∃ rest, count = text.length + (rest + 1) :=
    ⟨count - text.length - 1, by omega⟩
  rw [scan_of_hasText h, scan_succ_of_zero hzero, prepend_some, List.append_nil]

theorem scan_of_full (h : m.HasText a text) (hlength : text.length = count) :
    m.scan a count = .ok none := by
  subst hlength
  simpa using scan_of_hasText h 0

theorem scan_of_missing (h : m.HasText a text) (hlength : text.length < count)
    (hmissing : m (a.add text.length.toUInt64) = none) :
    m.scan a count = .error (.unreadable (a.add text.length.toUInt64) 1) := by
  obtain ⟨rest, rfl⟩ : ∃ rest, count = text.length + (rest + 1) :=
    ⟨count - text.length - 1, by omega⟩
  rw [scan_of_hasText h, scan_succ_of_none hmissing, prepend_error]

theorem exists_scan_eq (m : ByteMap) (a : Address) (count : Nat) :
    ∃ text, m.HasText a text ∧
      (text.length = count ∧ m.scan a count = .ok none ∨ text.length < count ∧
        (m (a.add text.length.toUInt64) = none ∧
            m.scan a count = .error (.unreadable (a.add text.length.toUInt64) 1) ∨
          m (a.add text.length.toUInt64) = some 0 ∧ m.scan a count = .ok (some text))) := by
  obtain ⟨text, htext, hlength | ⟨hlength, hbyte | hbyte⟩⟩ := exists_hasText m a count
  · exact ⟨text, htext, .inl ⟨hlength, scan_of_full htext hlength⟩⟩
  · exact ⟨text, htext, .inr ⟨hlength, .inl ⟨hbyte, scan_of_missing htext hlength hbyte⟩⟩⟩
  · exact ⟨text, htext, .inr ⟨hlength, .inr ⟨hbyte, scan_of_zero htext hlength hbyte⟩⟩⟩

theorem scan_eq_some_iff :
    m.scan a count = .ok (some text) ↔
      m.HasText a text ∧ text.length < count ∧ m (a.add text.length.toUInt64) = some 0 := by
  constructor
  · intro h
    obtain ⟨found, hfound, ⟨-, hscan⟩ | ⟨hlength, ⟨-, hscan⟩ | ⟨hzero, hscan⟩⟩⟩ :=
      exists_scan_eq m a count
    all_goals cases hscan.symm.trans h
    exact ⟨hfound, hlength, hzero⟩
  · rintro ⟨htext, hlength, hzero⟩
    exact scan_of_zero htext hlength hzero

theorem scan_eq_none_iff :
    m.scan a count = .ok none ↔ ∃ text, m.HasText a text ∧ text.length = count := by
  constructor
  · intro h
    obtain ⟨found, hfound, ⟨hlength, -⟩ | ⟨-, ⟨-, hscan⟩ | ⟨-, hscan⟩⟩⟩ :=
      exists_scan_eq m a count
    · exact ⟨found, hfound, hlength⟩
    all_goals cases hscan.symm.trans h
  · rintro ⟨text, htext, hlength⟩
    exact scan_of_full htext hlength

theorem scan_eq_error_iff {e : MemoryError} :
    m.scan a count = .error e ↔
      ∃ text, m.HasText a text ∧ text.length < count ∧ m (a.add text.length.toUInt64) = none ∧
        e = .unreadable (a.add text.length.toUInt64) 1 := by
  constructor
  · intro h
    obtain ⟨found, hfound, ⟨-, hscan⟩ | ⟨hlength, ⟨hmissing, hscan⟩ | ⟨-, hscan⟩⟩⟩ :=
      exists_scan_eq m a count
    all_goals cases hscan.symm.trans h
    exact ⟨found, hfound, hlength, hmissing, rfl⟩
  · rintro ⟨text, htext, hlength, hmissing, rfl⟩
    exact scan_of_missing htext hlength hmissing

end ByteMap

/-- What was said to a memory, latest first. -/
abbrev Said := List (Dialogue.Exchange Request Request.Answer)

/-- If a reading ended in an error, it is the answer to the last question. -/
def EndsInAnswer {α : Type} (ended : Except MemoryError α × Said) : Prop :=
  ∀ e, ended.1 = .error e → ∃ q rest, ended.2 = ⟨q, .error e⟩ :: rest

theorem endsInAnswer_ok {α : Type} (a : α) (said : Said) : EndsInAnswer (.ok a, said) := by
  intro e h
  cases h

theorem endsInAnswer_error {α : Type} (q : Request) (e : MemoryError) (said : Said) :
    EndsInAnswer ((.error e : Except MemoryError α), ⟨q, .error e⟩ :: said) := by
  intro _ h
  cases h
  exact ⟨q, said, rfl⟩

namespace Reading

variable {m : ByteMap} {a : Address} {text : List UInt8} {count : Nat}

theorem converse_block_bind {α : Type} {length : Nat} (h : a.value.toNat + length < 2 ^ 64)
    (f : Vector UInt8 length → Reading α) (said : Said) :
    (block a length >>= f).run.converse (fun _ => m.answer) said =
      match m.read a length with
      | .ok bytes => (f bytes).run.converse (fun _ => m.answer) (⟨⟨a, length⟩, .ok bytes⟩ :: said)
      | .error e => (.error e, ⟨⟨a, length⟩, .error e⟩ :: said) := by
  rw [block_of_lt h, ExceptT.run_bind, ExceptT.run_mk, Dialogue.put_bind, Dialogue.converse_ask]
  have hanswer : m.answer ⟨a, length⟩ = m.read a length := rfl
  rw [hanswer]
  cases m.read a length with
  | ok bytes => rfl
  | error e => rfl

theorem scan_succ (cursor : Address) (text : List UInt8) (count : Nat) :
    scan cursor text (count + 1) = block cursor 1 >>= fun bytes =>
      if bytes.get ⟨0, Nat.one_pos⟩ = 0 then pure (some text)
      else scan (cursor.add 1) (text ++ [bytes.get ⟨0, Nat.one_pos⟩]) count := rfl

theorem asksOnly_scan (cursor : Address) (text : List UInt8) (count : Nat) :
    (scan cursor text count).run.AsksOnly Request.BelowTop := by
  induction count generalizing cursor text with
  | zero => trivial
  | succ count ih =>
      rw [scan_succ]
      refine .run_bind (asksOnly_block (by decide)) fun bytes => ?_
      split
      · trivial
      · exact ih _ _

/-- Going through a block byte by byte is a scan, where a byte of the block is missing. -/
theorem converse_scan (hlt : a.value.toNat + count < 2 ^ 64) (h : m.bytes? a count = none)
    (text : List UInt8) (more : Nat) (said : Said) :
    ((scan a text count).run.converse (fun _ => m.answer) said).1 =
        (m.scan a (count + more)).prepend text ∧
      EndsInAnswer ((scan a text count).run.converse (fun _ => m.answer) said) := by
  induction count generalizing a text said with
  | zero => simp at h
  | succ count ih =>
      rw [scan_succ, converse_block_bind (by omega), Nat.add_right_comm]
      cases hb : m a with
      | none =>
          rw [ByteMap.read_of_none (ByteMap.bytes?_succ_of_none hb 0),
            ByteMap.scan_succ_of_none hb]
          exact ⟨rfl, endsInAnswer_error _ _ _⟩
      | some b =>
          obtain ⟨block, hread, hblock⟩ := ByteMap.exists_read_of_some
            (ByteMap.bytes?_succ_of_some hb 0)
          have hfirst : block.get ⟨0, Nat.one_pos⟩ = b := by
            change block[0] = b
            rw [← Vector.getElem_toList (by simp)]
            simp [hblock]
          simp only [hread, hfirst]
          by_cases hzero : b = 0
          · rw [if_pos hzero, ByteMap.scan_succ_of_zero (by rw [hb, hzero]), prepend_some,
              List.append_nil]
            exact ⟨rfl, endsInAnswer_ok _ _⟩
          · rw [if_neg hzero, ByteMap.scan_succ_of_ne hb hzero, prepend_prepend]
            have hlt' : (a.add 1).value.toNat + count < 2 ^ 64 := by
              rw [Address.toNat_add_one_of_lt (by omega)]
              omega
            have hrest : m.bytes? (a.add 1) count = none := by
              rw [ByteMap.bytes?_succ_of_some hb] at h
              simpa using h
            exact ih hlt' hrest (text ++ [b]) _

theorem terminated?_cons (b : UInt8) (bytes : List UInt8) :
    terminated? (b :: bytes) =
      if b = 0 then some [] else (terminated? bytes).map (b :: ·) := by
  by_cases hb : b = 0
  · simp [terminated?, hb]
  · by_cases h : 0 ∈ bytes <;> simp [terminated?, hb, h, eq_comm]

/-- A scan that begins with bytes that are all there ends among them or goes on behind them. -/
theorem scan_of_bytes? {bytes : List UInt8} (h : m.bytes? a count = some bytes) (more : Nat) :
    m.scan a (count + more) =
      match terminated? bytes with
      | some last => .ok (some last)
      | none => (m.scan (a.add count.toUInt64) more).prepend bytes := by
  induction count generalizing a bytes with
  | zero =>
      obtain rfl : [] = bytes := by simpa using h
      simp [terminated?, show (0 : Nat).toUInt64 = 0 from rfl]
  | succ count ih =>
      obtain ⟨b, rest, hb, hrest, rfl⟩ := ByteMap.bytes?_succ_eq_some_iff.1 h
      rw [Nat.add_right_comm, terminated?_cons]
      by_cases hzero : b = 0
      · rw [ByteMap.scan_succ_of_zero (by rw [hb, hzero]), if_pos hzero]
      · rw [ByteMap.scan_succ_of_ne hb hzero, if_neg hzero, ih hrest, Address.add_one_add]
        cases terminated? rest with
        | none => simp
        | some last => simp

/-- The bytes that are asked for at once: up to the end of a page, if there is room for them. -/
def pageLength (a : Address) (room : Nat) : Nat :=
  min (pageSize - a.value.toNat % pageSize) room

theorem pageLength_pos {room : Nat} (h : room ≠ 0) : 0 < pageLength a room := by
  have hpage : a.value.toNat % pageSize < pageSize := Nat.mod_lt _ (by decide)
  rw [pageLength]
  omega

theorem pageLength_le (a : Address) (room : Nat) : pageLength a room ≤ room :=
  Nat.min_le_right _ _

@[simp] theorem chunks_zero (a : Address) (text : List UInt8) : chunks a text 0 = pure none := by
  rw [chunks, dif_pos rfl]

/-- How the text at an address goes on when `length` of its bytes have been asked for. -/
def afterPage (a : Address) (text : List UInt8) (room length : Nat) :
    Except MemoryError (Vector UInt8 length) → Dialogue Request Request.Answer Outcome
  | .error (.unreadable _ _) => (scan a text length).run
  | .error e => return .error e
  | .ok bytes =>
      match terminated? bytes.toList with
      | some last => return .ok (some (text ++ last))
      | none => (chunks (a.add length.toUInt64) (text ++ bytes.toList) (room - length)).run

theorem run_chunks {room : Nat} (h : room ≠ 0) (a : Address) (text : List UInt8) :
    (chunks a text room).run =
      (block a (pageLength a room)).run >>= afterPage a text room (pageLength a room) := by
  rw [chunks, dif_neg h]
  refine congrArg ((block a (pageLength a room)).run >>= ·) (funext fun answer => ?_)
  rcases answer with (_ | _ | _) | bytes <;> rfl

theorem asksOnly_chunks (a : Address) (text : List UInt8) (room : Nat) :
    (chunks a text room).run.AsksOnly Request.BelowTop := by
  induction room using Nat.strongRecOn generalizing a text with
  | ind room ih =>
      by_cases hroom : room = 0
      · subst hroom
        rw [chunks_zero]
        trivial
      · have hlength : pageLength a room ≤ pageSize :=
          Nat.le_trans (Nat.min_le_left _ _) (Nat.sub_le _ _)
        have hpos : 0 < pageLength a room := pageLength_pos hroom
        rw [pageSize] at hlength
        rw [run_chunks hroom]
        refine .bind (asksOnly_block (by omega)) fun answer => ?_
        unfold afterPage
        split
        · exact asksOnly_scan a text _
        · trivial
        · split
          · trivial
          · exact ih _ (by omega) _ _

/-- Below the top the count of the bytes fits a word. -/
theorem fits_of_lt {maxLength : UInt64} (h : a.value.toNat + maxLength.toNat + 1 < 2 ^ 64) :
    maxLength.toNat + 1 < UInt64.size :=
  Nat.lt_of_le_of_lt (by omega) h

theorem asksOnly_text (a : Address) {maxLength : UInt64} (hmax : maxLength.toNat + 1 < 2 ^ 64) :
    (Reading.text a maxLength hmax).run.AsksOnly Request.BelowTop :=
  asksOnly_chunks a [] _

theorem converse_chunks (room : Nat) (hlt : a.value.toNat + room < 2 ^ 64)
    (text : List UInt8) (said : Said) :
    ((chunks a text room).run.converse (fun _ => m.answer) said).1 =
        (m.scan a room).prepend text ∧
      EndsInAnswer ((chunks a text room).run.converse (fun _ => m.answer) said) := by
  -- Every page takes some of the room, and what is behind it is a shorter text of the same kind.
  induction room using Nat.strongRecOn generalizing a text said with
  | ind room ih =>
      by_cases hroom : room = 0
      · subst hroom
        rw [chunks_zero]
        exact ⟨rfl, endsInAnswer_ok _ _⟩
      · rw [run_chunks hroom]
        have hpos : 0 < pageLength a room := pageLength_pos hroom
        have hle : pageLength a room ≤ room := pageLength_le a room
        generalize pageLength a room = length at hpos hle
        obtain ⟨more, rfl⟩ : ∃ more, room = length + more := ⟨room - length, by omega⟩
        rw [block_of_lt (by omega), ExceptT.run_mk, Dialogue.put_bind, Dialogue.converse_ask,
          ByteMap.answer]
        cases hbytes : m.bytes? a length with
        | none =>
            -- The page is gone through again, and comes to an end where a byte is missing.
            rw [ByteMap.read_of_none hbytes]
            exact converse_scan (by omega) hbytes text more _
        | some bytes =>
            obtain ⟨block, hread, hblock⟩ := ByteMap.exists_read_of_some hbytes
            rw [hread, scan_of_bytes? hbytes]
            simp only [afterPage, hblock, Nat.add_sub_cancel_left]
            cases terminated? bytes with
            | some last => exact ⟨rfl, endsInAnswer_ok _ _⟩
            | none =>
                have hbehind : (a.add length.toUInt64).value.toNat + more < 2 ^ 64 := by
                  rw [Address.toNat_add_of_lt (by omega)]
                  omega
                rw [prepend_prepend]
                exact ih more (by omega) hbehind _ _

theorem result_text {maxLength : UInt64} (h : a.value.toNat + maxLength.toNat + 1 < 2 ^ 64) :
    (Reading.text a maxLength (fits_of_lt h)).run.result m.answer =
      m.scan a (maxLength.toNat + 1) := by
  rw [Dialogue.result, Reading.text]
  simpa using (converse_chunks (m := m) (maxLength.toNat + 1) (by omega) [] []).1

/-- Reading a text in pages agrees with looking at one byte after the other.  It is found if a zero
is within reach and nothing in front of it is missing; it does not end if no byte within reach is
zero or missing; and otherwise the first byte that is missing is to blame, by the memory's own
answer to the question for this one byte. -/
theorem text_agrees_with_scan (m : ByteMap) (a : Address) (maxLength : UInt64)
    (h : a.value.toNat + maxLength.toNat + 1 < 2 ^ 64) :
    let ended := (Reading.text a maxLength (fits_of_lt h)).run.converse (fun _ => m.answer) []
    ended.1 = m.scan a (maxLength.toNat + 1) ∧
      (∀ text, ended.1 = .ok (some text) ↔
        m.HasText a text ∧ text.length ≤ maxLength.toNat ∧
          m (a.add text.length.toUInt64) = some 0) ∧
      (ended.1 = .ok none ↔ ∃ text, m.HasText a text ∧ text.length = maxLength.toNat + 1) ∧
      (∀ e, ended.1 = .error e ↔
        ∃ text, m.HasText a text ∧ text.length ≤ maxLength.toNat ∧
          m (a.add text.length.toUInt64) = none ∧
            e = .unreadable (a.add text.length.toUInt64) 1) ∧
      ∀ e, ended.1 = .error e → ∃ q rest, ended.2 = ⟨q, .error e⟩ :: rest := by
  intro ended
  have houtcome : ended.1 = m.scan a (maxLength.toNat + 1) := result_text h
  have hanswer : EndsInAnswer ended := (converse_chunks _ (by omega) [] []).2
  refine ⟨houtcome, fun text => ?_, ?_, fun e => ?_, hanswer⟩
  · rw [houtcome, ByteMap.scan_eq_some_iff, Nat.lt_succ_iff]
  · rw [houtcome, ByteMap.scan_eq_none_iff]
  · simp only [houtcome, ByteMap.scan_eq_error_iff, Nat.lt_succ_iff]

/-- The text ends behind the end of a page, and the rest of the second page is missing. -/
theorem text_agrees_with_scan_over_page_end :
    4094 + 256 + 1 < 2 ^ 64 ∧
      ((Reading.text ⟨4094⟩ 256).run.converse
        (fun _ => (ByteMap.ofBytes ⟨4094⟩ [97, 98, 99, 0]).answer) []).1 =
          .ok (some [97, 98, 99]) :=
  ⟨by decide, ((text_agrees_with_scan _ ⟨4094⟩ 256 (by decide)).2.1 _).2
    ⟨⟨by decide, by decide⟩, by decide, by decide⟩⟩

end Reading

end ObjectView.Memory
