import ObjectView.Proofs.Memory.ByteMap

/-!
# Words in memory

A word is there if its bytes are, and if it does not reach the top of the address space.  A pointer
is its value, and a signed number is its value in two's complement.
-/

namespace ObjectView.Memory

open Binary

theorem ofLittleEndian_lt (bytes : List UInt8) :
    ofLittleEndian bytes < 256 ^ bytes.length := by
  induction bytes with
  | nil => decide
  | cons b rest ih =>
      have hb := b.toNat_lt
      rw [ofLittleEndian_cons, List.length_cons, Nat.pow_succ]
      omega

namespace ByteMap

/-- The number in the `width` bytes at an address, if the word is there. -/
def word? (m : ByteMap) (width : Nat) (a : Address) : Option Nat :=
  if a.value.toNat + width < 2 ^ 64 then (m.bytes? a width).map ofLittleEndian else none

variable {m : ByteMap} {width : Nat} {a : Address} {n : Nat}

/-- A word that is there does not reach the top. -/
theorem belowTop_of_word? (h : m.word? width a = some n) : a.value.toNat + width < 2 ^ 64 := by
  rw [word?, Option.ite_none_right_eq_some] at h
  exact h.1

theorem word?_lt (h : m.word? width a = some n) : n < 256 ^ width := by
  rw [word?, Option.ite_none_right_eq_some, Option.map_eq_some_iff] at h
  obtain ⟨-, bytes, hbytes, rfl⟩ := h
  simpa [length_of_bytes? hbytes] using ofLittleEndian_lt bytes

end ByteMap

namespace Reading

variable {m : ByteMap} {width : Nat} {a : Address} {n : Nat}

/-! ## The readers, whoever answers -/

section

variable {answer : (q : Request) → q.Answer}

theorem result_block (hwidth : width < 2 ^ 64) :
    (block a width).run.result answer =
      if a.value.toNat + width < 2 ^ 64 then answer ⟨a, width⟩ else .error (.overflow a width) := by
  split
  next h => rw [block_of_lt h, ExceptT.run_mk, Dialogue.result_put]
  next h =>
    rw [block_of_ge hwidth (by omega)]
    rfl

theorem result_word (hwidth : width < 2 ^ 64) :
    (word width a).run.result answer =
      if a.value.toNat + width < 2 ^ 64 then
        (answer ⟨a, width⟩).map fun block => ofLittleEndian block.toList
      else .error (.overflow a width) := by
  rw [word, Dialogue.result_run_bind_pure, result_block hwidth]
  split <;> rfl

theorem result_pointer (answer : (q : Request) → q.Answer) (width : Nat) (a : Address) :
    (pointer width a).run.result answer =
      ((word width a).run.result answer).map fun n => ⟨n.toUInt64⟩ :=
  Dialogue.result_run_bind_pure answer _ _

theorem result_signed (answer : (q : Request) → q.Answer) (width : Nat) (a : Address) :
    (signed width a).run.result answer = ((word width a).run.result answer).map (toSigned width) :=
  Dialogue.result_run_bind_pure answer _ _

end

theorem asksOnly_word (hwidth : width < 2 ^ 64) : (word width a).run.AsksOnly Request.BelowTop :=
  .run_bind (asksOnly_block hwidth) fun _ => trivial

theorem asksOnly_pointer (hwidth : width < 2 ^ 64) :
    (pointer width a).run.AsksOnly Request.BelowTop :=
  .run_bind (asksOnly_word hwidth) fun _ => trivial

theorem asksOnly_signed (hwidth : width < 2 ^ 64) :
    (signed width a).run.AsksOnly Request.BelowTop :=
  .run_bind (asksOnly_word hwidth) fun _ => trivial

/-! ## Words that are there -/

theorem result_word_eq_ok_iff (hwidth : width < 2 ^ 64) :
    (word width a).run.result m.answer = .ok n ↔ m.word? width a = some n := by
  rw [result_word hwidth, ByteMap.word?, ByteMap.answer]
  split
  next h =>
    cases hbytes : m.bytes? a width with
    | none => simp [ByteMap.read_of_none hbytes, Except.map]
    | some bytes =>
        obtain ⟨block, hread, rfl⟩ := ByteMap.exists_read_of_some hbytes
        simp [hread, Except.map]
  next h => simp

theorem result_pointer_eq_ok_iff {target : Address} (hwidth : width ≤ 8) :
    (pointer width a).run.result m.answer = .ok target ↔
      m.word? width a = some target.value.toNat := by
  rw [pointer, Dialogue.result_run_bind_eq_ok_iff]
  simp only [result_word_eq_ok_iff (show width < 2 ^ 64 by omega), Dialogue.result_run_pure]
  constructor
  · rintro ⟨n, hn, htarget⟩
    cases htarget
    have hlt : n < 2 ^ 64 := Nat.lt_of_lt_of_le (ByteMap.word?_lt hn)
      (Nat.pow_le_pow_right (show 0 < 256 by decide) hwidth)
    rw [hn, Address.toNat_toUInt64 hlt]
  · intro h
    exact ⟨_, h, by simp⟩

theorem result_signed_eq_ok_iff {value : Int} (hwidth : width < 2 ^ 64) :
    (signed width a).run.result m.answer = .ok value ↔
      ∃ n, m.word? width a = some n ∧ value = (BitVec.ofNat (8 * width) n).toInt := by
  rw [signed, Dialogue.result_run_bind_eq_ok_iff]
  simp only [result_word_eq_ok_iff hwidth, Dialogue.result_run_pure, Except.ok.injEq]
  apply exists_congr
  intro n
  apply and_congr_right
  intro _
  rw [toSigned, eq_comm]

end Reading

end ObjectView.Memory
