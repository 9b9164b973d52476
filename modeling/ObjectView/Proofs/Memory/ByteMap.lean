import Mathlib.Algebra.Group.Int.Defs
import Mathlib.Algebra.Group.Nat.Defs
import ObjectView.Memory.Reading
import ObjectView.Proofs.Conversation

/-!
# Memory as a map from addresses to bytes

The simplest memory has a byte at some addresses and none at others.  A block of it can be read if
all its bytes are there.  Readers of words and texts are described by what they make of such a map.
-/

namespace ObjectView

namespace Address

@[simp] theorem add_zero (a : Address) : a.add 0 = a := by
  simp [add]

theorem add_zero_toUInt64 (a : Address) : a.add (0 : Nat).toUInt64 = a :=
  a.add_zero

theorem add_add (a : Address) (m n : UInt64) : (a.add m).add n = a.add (m + n) := by
  simp only [add, UInt64.add_assoc]

theorem add_one_add (a : Address) (n : Nat) :
    (a.add 1).add n.toUInt64 = a.add (n + 1).toUInt64 := by
  rw [add_add, UInt64.add_comm]
  congr 1
  exact (UInt64.ofNat_add n 1).symm

theorem add_add_toUInt64 (a : Address) (m n : Nat) :
    (a.add m.toUInt64).add n.toUInt64 = a.add (m + n).toUInt64 := by
  rw [add_add]
  exact congrArg a.add (UInt64.ofNat_add m n).symm

theorem toNat_toUInt64 {n : Nat} (h : n < 2 ^ 64) : n.toUInt64.toNat = n :=
  UInt64.toNat_ofNat_of_lt' h

theorem toNat_add_mod (a : Address) (n : Nat) :
    (a.add n.toUInt64).value.toNat = (a.value.toNat + n) % 2 ^ 64 := by
  have hoffset : n.toUInt64.toNat = n % 2 ^ 64 := UInt64.toNat_ofNat'
  rw [add, UInt64.toNat_add, hoffset, Nat.add_mod_mod]

theorem add_eq_null {a : Address} {n : Nat} (h : a.value.toNat + n = 2 ^ 64) :
    a.add n.toUInt64 = .null := by
  have hvalue : (a.add n.toUInt64).value.toNat = (0 : UInt64).toNat := by
    rw [toNat_add_mod, h, Nat.mod_self]
    rfl
  exact congrArg Address.mk (UInt64.toNat_inj.1 hvalue)

theorem toNat_add_of_lt {a : Address} {n : Nat} (h : a.value.toNat + n < 2 ^ 64) :
    (a.add n.toUInt64).value.toNat = a.value.toNat + n := by
  rw [add, UInt64.toNat_add, toNat_toUInt64 (by omega), Nat.mod_eq_of_lt h]

theorem toNat_add_one_of_lt {a : Address} (h : a.value.toNat + 1 < 2 ^ 64) :
    (a.add 1).value.toNat = a.value.toNat + 1 :=
  toNat_add_of_lt (n := 1) h

theorem add?_of_lt {a : Address} {n : Nat} (h : a.value.toNat + n < 2 ^ 64) :
    a.add? n.toUInt64 = some (a.add n.toUInt64) := by
  have hbelow : a.value.toNat + n.toUInt64.toNat < UInt64.size := by
    rw [toNat_toUInt64 (by omega)]
    exact h
  rw [add?, if_pos hbelow, add]

theorem add?_of_ge {a : Address} {n : Nat} (hn : n < 2 ^ 64)
    (h : 2 ^ 64 ≤ a.value.toNat + n) : a.add? n.toUInt64 = none := by
  rw [add?_eq_none_iff, toNat_toUInt64 hn]
  exact h

end Address

namespace Memory

/-- The byte at an address, if there is one. -/
abbrev ByteMap := Address → Option UInt8

namespace ByteMap

/-- The bytes from an address on, if all of them are there. -/
def bytes? (m : ByteMap) : Address → Nat → Option (List UInt8)
  | _, 0 => some []
  | a, count + 1 => do
      let b ← m a
      let rest ← m.bytes? (a.add 1) count
      return b :: rest

@[simp] theorem bytes?_zero (m : ByteMap) (a : Address) : m.bytes? a 0 = some [] := rfl

theorem bytes?_succ_eq_some_iff {m : ByteMap} {a : Address} {count : Nat} {bytes : List UInt8} :
    m.bytes? a (count + 1) = some bytes ↔
      ∃ b rest, m a = some b ∧ m.bytes? (a.add 1) count = some rest ∧ b :: rest = bytes := by
  simp [bytes?, Option.bind_eq_some_iff]

theorem bytes?_succ_of_some {m : ByteMap} {a : Address} {b : UInt8} (h : m a = some b)
    (count : Nat) : m.bytes? a (count + 1) = (m.bytes? (a.add 1) count).map (b :: ·) := by
  rw [bytes?, h]
  cases m.bytes? (a.add 1) count <;> rfl

theorem bytes?_succ_of_none {m : ByteMap} {a : Address} (h : m a = none) (count : Nat) :
    m.bytes? a (count + 1) = none := by
  simp [bytes?, h]

theorem length_of_bytes? {m : ByteMap} {a : Address} {count : Nat} {bytes : List UInt8}
    (h : m.bytes? a count = some bytes) : bytes.length = count := by
  induction count generalizing a bytes with
  | zero => simp_all
  | succ count ih =>
      obtain ⟨b, rest, _, hrest, rfl⟩ := bytes?_succ_eq_some_iff.1 h
      rw [List.length_cons, ih hrest]

/-- A block is what stands at its addresses, byte for byte. -/
theorem bytes?_eq_some_iff {m : ByteMap} {a : Address} {count : Nat} {bytes : List UInt8} :
    m.bytes? a count = some bytes ↔
      bytes.length = count ∧
        ∀ (i : Nat) (h : i < bytes.length), m (a.add i.toUInt64) = some bytes[i] := by
  induction count generalizing a bytes with
  | zero =>
      rw [bytes?_zero, Option.some.injEq, eq_comm, List.length_eq_zero_iff]
      refine ⟨?_, And.left⟩
      rintro rfl
      exact ⟨rfl, fun i h => absurd h (Nat.not_lt_zero i)⟩
  | succ count ih =>
      rw [bytes?_succ_eq_some_iff]
      constructor
      · rintro ⟨b, rest, hb, hrest, rfl⟩
        obtain ⟨hlength, hbytes⟩ := ih.1 hrest
        refine ⟨congrArg (· + 1) hlength, fun i h => ?_⟩
        cases i with
        | zero => simpa using hb
        | succ i =>
            rw [← Address.add_one_add]
            exact hbytes i (Nat.lt_of_succ_lt_succ h)
      · rintro ⟨hlength, hbytes⟩
        obtain ⟨b, rest, rfl⟩ := List.exists_cons_of_length_eq_add_one hlength
        refine ⟨b, rest, by simpa using hbytes 0 (Nat.succ_pos _), ih.2 ⟨?_, fun i h => ?_⟩, rfl⟩
        · exact Nat.succ.inj hlength
        · rw [Address.add_one_add]
          exact hbytes (i + 1) (Nat.succ_lt_succ h)

/-- A block is there if its addresses have bytes. -/
theorem exists_bytes?_iff {m : ByteMap} {a : Address} {count : Nat} :
    (∃ bytes, m.bytes? a count = some bytes) ↔ ∀ i < count, ∃ b, m (a.add i.toUInt64) = some b := by
  induction count generalizing a with
  | zero => simp
  | succ count ih =>
      simp only [bytes?_succ_eq_some_iff]
      constructor
      · rintro ⟨_, b, rest, hb, hrest, -⟩ i hi
        cases i with
        | zero => exact ⟨b, by simpa using hb⟩
        | succ i =>
            rw [← Address.add_one_add]
            exact ih.1 ⟨rest, hrest⟩ i (Nat.lt_of_succ_lt_succ hi)
      · intro h
        obtain ⟨b, hb⟩ := h 0 (Nat.succ_pos _)
        obtain ⟨rest, hrest⟩ := ih.2 fun i hi => by
          rw [Address.add_one_add]
          exact h (i + 1) (Nat.succ_lt_succ hi)
        exact ⟨b :: rest, b, rest, by simpa using hb, hrest, rfl⟩

/-- A longer block is two, one behind the other. -/
theorem bytes?_add_of_some {m : ByteMap} {a : Address} {count : Nat} {bytes : List UInt8}
    (h : m.bytes? a count = some bytes) (more : Nat) :
    m.bytes? a (count + more) = (m.bytes? (a.add count.toUInt64) more).map (bytes ++ ·) := by
  induction count generalizing a bytes with
  | zero =>
      obtain rfl : [] = bytes := by simpa using h
      simp [show (0 : Nat).toUInt64 = 0 from rfl]
  | succ count ih =>
      obtain ⟨b, rest, hb, hrest, rfl⟩ := bytes?_succ_eq_some_iff.1 h
      rw [Nat.add_right_comm, bytes?_succ_of_some hb, ih hrest, Address.add_one_add]
      cases m.bytes? (a.add (count + 1).toUInt64) more <;> rfl

theorem bytes?_add_eq_some_iff {m : ByteMap} {a : Address} {count more : Nat}
    {bytes : List UInt8} :
    m.bytes? a (count + more) = some bytes ↔
      ∃ front back, m.bytes? a count = some front ∧
        m.bytes? (a.add count.toUInt64) more = some back ∧ front ++ back = bytes := by
  constructor
  · intro h
    have hall := exists_bytes?_iff.1 ⟨bytes, h⟩
    obtain ⟨front, hfront⟩ := exists_bytes?_iff.2 fun i hi => hall i (Nat.lt_add_right more hi)
    rw [bytes?_add_of_some hfront, Option.map_eq_some_iff] at h
    obtain ⟨back, hback, hsplit⟩ := h
    exact ⟨front, back, hfront, hback, hsplit⟩
  · rintro ⟨front, back, hfront, hback, rfl⟩
    rw [bytes?_add_of_some hfront, hback, Option.map_some]

/-- Reads a block; a byte that is not there makes all of it unreadable. -/
def read (m : ByteMap) (a : Address) (length : Nat) : Except MemoryError (Vector UInt8 length) :=
  match h : m.bytes? a length with
  | some bytes => .ok ⟨bytes.toArray, by simpa using length_of_bytes? h⟩
  | none => .error (.unreadable a length)

theorem read_eq_ok_iff {m : ByteMap} {a : Address} {length : Nat} {block : Vector UInt8 length} :
    m.read a length = .ok block ↔ m.bytes? a length = some block.toList := by
  unfold read
  split
  next bytes h =>
    constructor
    · intro hblock
      cases hblock
      exact h
    · intro hblock
      obtain rfl : bytes = block.toList := Option.some.inj (h.symm.trans hblock)
      rfl
  next h => simp [h]

theorem read_of_none {m : ByteMap} {a : Address} {length : Nat} (h : m.bytes? a length = none) :
    m.read a length = .error (.unreadable a length) := by
  unfold read
  split
  next bytes hb => rw [h] at hb; cases hb
  next => rfl

theorem exists_read_of_some {m : ByteMap} {a : Address} {length : Nat} {bytes : List UInt8}
    (h : m.bytes? a length = some bytes) :
    ∃ block : Vector UInt8 length, m.read a length = .ok block ∧ block.toList = bytes := by
  have hlength : bytes.toArray.size = length := by simpa using length_of_bytes? h
  exact ⟨⟨bytes.toArray, hlength⟩, read_eq_ok_iff.2 h, rfl⟩

theorem exists_read_iff {m : ByteMap} {a : Address} {length : Nat} :
    (∃ block, m.read a length = .ok block) ↔
      ∀ i < length, ∃ b, m (a.add i.toUInt64) = some b := by
  rw [← exists_bytes?_iff]
  constructor
  · rintro ⟨block, hblock⟩
    exact ⟨_, read_eq_ok_iff.1 hblock⟩
  · rintro ⟨bytes, hbytes⟩
    obtain ⟨block, hblock, -⟩ := exists_read_of_some hbytes
    exact ⟨block, hblock⟩

theorem get_of_read {m : ByteMap} {a : Address} {length : Nat} {block : Vector UInt8 length}
    (h : m.read a length = .ok block) {i : Nat} (hi : i < length) :
    m (a.add i.toUInt64) = some block[i] := by
  rw [read_eq_ok_iff, bytes?_eq_some_iff] at h
  rw [h.2 i (by simpa using hi), Vector.getElem_toList]

theorem read_of_not_exists {m : ByteMap} {a : Address} {length : Nat}
    (h : ¬ ∃ block, m.read a length = .ok block) :
    m.read a length = .error (.unreadable a length) := by
  cases hbytes : m.bytes? a length with
  | none => exact read_of_none hbytes
  | some bytes =>
      obtain ⟨block, hblock, -⟩ := exists_read_of_some hbytes
      exact absurd ⟨block, hblock⟩ h

/-- The memory that holds a block of bytes and nothing else. -/
def ofBytes (start : Address) (bytes : List UInt8) : ByteMap :=
  fun a => bytes[(a.value - start.value).toNat]?

def answer (m : ByteMap) (q : Request) : q.Answer :=
  m.read q.address q.length

end ByteMap

namespace Reading

variable {m : ByteMap} {a : Address} {length : Nat}

theorem block_of_lt (h : a.value.toNat + length < 2 ^ 64) :
    block a length = ExceptT.mk (Dialogue.put (A := Request.Answer) ⟨a, length⟩) := by
  rw [block, Address.add?_of_lt h]

theorem block_of_ge (hlength : length < 2 ^ 64) (h : 2 ^ 64 ≤ a.value.toNat + length) :
    block a length = throw (.overflow a length) := by
  rw [block, Address.add?_of_ge hlength h]

theorem asksOnly_block (hlength : length < 2 ^ 64) :
    (block a length).run.AsksOnly Request.BelowTop := by
  rcases Nat.lt_or_ge (a.value.toNat + length) (2 ^ 64) with hlt | hge
  · rw [block_of_lt hlt]
    exact .put hlt
  · rw [block_of_ge hlength hge]
    trivial

end Reading

end Memory

end ObjectView
