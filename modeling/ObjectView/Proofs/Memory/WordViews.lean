import Mathlib.Data.Int.ModEq
import ObjectView.Proofs.Memory.Patch
import ObjectView.Proofs.Memory.Word

/-!
# The two views of a word

A word is asked for with one question, whether it is read as a pointer or as a signed number.  The
pointer is the word with zeros in front of it, and the signed number is the word with copies of its
sign in front of it, so one is the other modulo the size of a word.

Captured memory whose regions keep apart gives back the word whose bytes stand in it, through
however many regions they go.  They stand there after a region with them has been inserted, and
after they have been written over what was there.
-/

namespace ObjectView

/-! ## The bytes of a number -/

namespace Binary

/-- The `count` lowest digits of a number in base 256, lowest first. -/
def toLittleEndian (count n : Nat) : List UInt8 :=
  (List.range count).map fun i => UInt8.ofNat (n / 256 ^ i)

@[simp] theorem length_toLittleEndian (count n : Nat) :
    (toLittleEndian count n).length = count := by
  rw [toLittleEndian, List.length_map, List.length_range]

theorem toLittleEndian_succ (count n : Nat) :
    toLittleEndian (count + 1) n = UInt8.ofNat n :: toLittleEndian count (n / 256) := by
  rw [toLittleEndian, List.range_succ_eq_map, List.map_cons, List.map_map, Nat.pow_zero,
    Nat.div_one, toLittleEndian]
  congr 2
  funext i
  rw [Function.comp_apply, Nat.succ_eq_add_one, Nat.pow_succ', Nat.div_div_eq_div_mul]

theorem ofLittleEndian_toLittleEndian {count n : Nat} (h : n < 256 ^ count) :
    ofLittleEndian (toLittleEndian count n) = n := by
  induction count generalizing n with
  | zero =>
      obtain rfl : n = 0 := by omega
      rfl
  | succ count ih =>
      have hrest : n / 256 < 256 ^ count := by
        rw [Nat.pow_succ] at h
        omega
      rw [toLittleEndian_succ, ofLittleEndian_cons, ih hrest, UInt8.toNat_ofNat']
      exact Nat.mod_add_div n 256

theorem toLittleEndian_ofLittleEndian (bytes : List UInt8) :
    toLittleEndian bytes.length (ofLittleEndian bytes) = bytes := by
  induction bytes with
  | nil => rfl
  | cons b rest ih =>
      have hb := b.toNat_lt
      have hfirst : UInt8.ofNat (b.toNat + 256 * ofLittleEndian rest) = b := by
        apply UInt8.toNat_inj.1
        rw [UInt8.toNat_ofNat']
        omega
      have hrest : (b.toNat + 256 * ofLittleEndian rest) / 256 = ofLittleEndian rest := by omega
      rw [List.length_cons, toLittleEndian_succ, ofLittleEndian_cons, hfirst, hrest, ih]

end Binary

namespace Memory

open Binary

variable {width : Nat} {v : BitVec (8 * width)} {a : Address}

/-! ## A word and its two numbers -/

/-- A pointer and a signed number that can be read from one word of `width` bytes. -/
structure SameWord (width : Nat) (p : Address) (n : Int) : Prop where
  pointer_lt : p.value.toNat < 2 ^ (8 * width)
  le_signed : -2 ^ (8 * width - 1) ≤ n
  signed_lt : n < 2 ^ (8 * width - 1)
  modEq : n ≡ p.value.toNat [ZMOD 2 ^ (8 * width)]

theorem sameWord_extended (v : BitVec (8 * width)) (hwidth : width ≤ 8) :
    SameWord width ⟨⟨v.zeroExtend 64⟩⟩ (v.signExtend 64).toInt := by
  have hpointer : (Address.mk ⟨v.zeroExtend 64⟩).value.toNat = v.toNat :=
    BitVec.toNat_setWidth_of_le (by omega)
  have hsigned : (v.signExtend 64).toInt = v.toInt := BitVec.toInt_signExtend_of_le (by omega)
  have hmod := Int.bmod_emod (x := v.toNat) (m := 2 ^ (8 * width))
  rw [← BitVec.toInt_eq_toNat_bmod] at hmod
  constructor
  · rw [hpointer]
    exact v.isLt
  · rw [hsigned]
    exact v.le_toInt
  · rw [hsigned]
    exact v.toInt_lt
  · rw [hpointer, hsigned]
    exact_mod_cast hmod

theorem two_pow_eight_mul (width : Nat) : 2 ^ (8 * width) = 256 ^ width :=
  Nat.pow_mul 2 8 width

theorem exists_word_of_block (block : Vector UInt8 width) :
    ∃ v : BitVec (8 * width), block.toList = toLittleEndian width v.toNat := by
  have hlt := ofLittleEndian_lt block.toList
  have hbytes := toLittleEndian_ofLittleEndian block.toList
  rw [Vector.length_toList] at hlt hbytes
  rw [← two_pow_eight_mul] at hlt
  exact ⟨BitVec.ofNatLT _ hlt, hbytes.symm⟩

/-! ## Reading it -/

namespace Reading

variable {answer : (q : Request) → q.Answer}

/-- The one question for a word, with its answer.  A word that reaches the top is not asked for. -/
def asked (answer : (q : Request) → q.Answer) (width : Nat) (a : Address) :
    List (Dialogue.Exchange Request Request.Answer) :=
  if a.value.toNat + width < 2 ^ 64 then [⟨⟨a, width⟩, answer ⟨a, width⟩⟩] else []

theorem transcript_word (hwidth : width < 2 ^ 64) :
    (word width a).run.transcript answer = asked answer width a := by
  rw [word, Dialogue.transcript_run_bind_pure, asked]
  split
  next hlt => rw [block_of_lt hlt, ExceptT.run_mk, Dialogue.transcript_put]
  next hge =>
    rw [block_of_ge hwidth (by omega)]
    rfl

/-- The word at an address is read as `v`: as a pointer with zeros in front of it, and as a signed
number with copies of its sign in front of it. -/
structure ReadsAs (answer : (q : Request) → q.Answer) (a : Address) (v : BitVec (8 * width)) :
    Prop where
  pointer : (pointer width a).run.result answer = .ok ⟨⟨v.zeroExtend 64⟩⟩
  signed : (signed width a).run.result answer = .ok (v.signExtend 64).toInt

theorem ReadsAs.of_block (hwidth : width ≤ 8) (hlt : a.value.toNat + width < 2 ^ 64)
    {block : Vector UInt8 width} (hblock : answer ⟨a, width⟩ = .ok block)
    (hbytes : block.toList = toLittleEndian width v.toNat) : ReadsAs answer a v := by
  have hvalue : ofLittleEndian block.toList = v.toNat := by
    rw [hbytes, ofLittleEndian_toLittleEndian (two_pow_eight_mul width ▸ v.isLt)]
  have hword : (word width a).run.result answer = .ok v.toNat := by
    rw [result_word (by omega), if_pos hlt, hblock, Except.map, hvalue]
  constructor
  · have hpointer : v.toNat.toUInt64 = ⟨v.zeroExtend 64⟩ :=
      congrArg UInt64.ofBitVec (BitVec.ofNat_toNat 64 v)
    rw [result_pointer, hword, Except.map, hpointer]
  · rw [result_signed, hword, Except.map, toSigned, BitVec.ofNat_toNat, BitVec.setWidth_eq,
      BitVec.toInt_signExtend_of_le (by omega)]

/-! ## Both readers at once -/

theorem both_overflow (hwidth : width < 2 ^ 64) (hge : 2 ^ 64 ≤ a.value.toNat + width) :
    (pointer width a).run.result answer = .error (.overflow a width) ∧
      (signed width a).run.result answer = .error (.overflow a width) := by
  rw [result_pointer, result_signed, result_word hwidth, if_neg (by omega)]
  exact ⟨rfl, rfl⟩

theorem both_refused (hlt : a.value.toNat + width < 2 ^ 64) {e : MemoryError}
    (he : answer ⟨a, width⟩ = .error e) :
    (pointer width a).run.result answer = .error e ∧
      (signed width a).run.result answer = .error e := by
  rw [result_pointer, result_signed, result_word (by omega), if_pos hlt, he]
  exact ⟨rfl, rfl⟩

theorem pointer_error_iff_signed (answer : (q : Request) → q.Answer) (width : Nat) (a : Address)
    (e : MemoryError) :
    (pointer width a).run.result answer = .error e ↔
      (signed width a).run.result answer = .error e := by
  rw [result_pointer, result_signed]
  cases (word width a).run.result answer with
  | error e' => simp [Except.map]
  | ok n => simp [Except.map]

theorem exists_readsAs_of_block (hwidth : width ≤ 8) (hlt : a.value.toNat + width < 2 ^ 64)
    {block : Vector UInt8 width} (hblock : answer ⟨a, width⟩ = .ok block) :
    ∃ v : BitVec (8 * width), block.toList = toLittleEndian width v.toNat ∧
      ReadsAs answer a v := by
  obtain ⟨v, hv⟩ := exists_word_of_block block
  exact ⟨v, hv, .of_block hwidth hlt hblock hv⟩

theorem exists_readsAs_of_pointer (hwidth : width ≤ 8) {p : Address}
    (hp : (pointer width a).run.result answer = .ok p) :
    ∃ v : BitVec (8 * width), ReadsAs answer a v := by
  rcases Nat.lt_or_ge (a.value.toNat + width) (2 ^ 64) with hlt | hge
  · cases hanswer : answer ⟨a, width⟩ with
    | error e => cases hp.symm.trans (both_refused hlt hanswer).1
    | ok block =>
        obtain ⟨v, -, hv⟩ := exists_readsAs_of_block hwidth hlt hanswer
        exact ⟨v, hv⟩
  · cases hp.symm.trans (both_overflow (by omega) hge).1

/-- The two readers of a word put the same question, or none, and come to the same error, or to two
numbers of one word. -/
structure BothWays (answer : (q : Request) → q.Answer) (width : Nat) (a : Address) : Prop where
  pointer_asks : (pointer width a).run.transcript answer = asked answer width a
  signed_asks : (signed width a).run.transcript answer = asked answer width a
  overflow : 2 ^ 64 ≤ a.value.toNat + width →
    (pointer width a).run.result answer = .error (.overflow a width) ∧
      (signed width a).run.result answer = .error (.overflow a width)
  refused : a.value.toNat + width < 2 ^ 64 → ∀ e, answer ⟨a, width⟩ = .error e →
    (pointer width a).run.result answer = .error e ∧ (signed width a).run.result answer = .error e
  delivered : a.value.toNat + width < 2 ^ 64 → ∀ block, answer ⟨a, width⟩ = .ok block →
    ∃ v : BitVec (8 * width), block.toList = toLittleEndian width v.toNat ∧ ReadsAs answer a v
  error_iff : ∀ e, (pointer width a).run.result answer = .error e ↔
    (signed width a).run.result answer = .error e
  sameWord : ∀ p n, (pointer width a).run.result answer = .ok p →
    (signed width a).run.result answer = .ok n → SameWord width p n

theorem bothWays (answer : (q : Request) → q.Answer) (hwidth : width ≤ 8) (a : Address) :
    BothWays answer width a where
  pointer_asks := by rw [pointer, Dialogue.transcript_run_bind_pure, transcript_word (by omega)]
  signed_asks := by rw [signed, Dialogue.transcript_run_bind_pure, transcript_word (by omega)]
  overflow := both_overflow (by omega)
  refused hlt _ he := both_refused hlt he
  delivered hlt _ hblock := exists_readsAs_of_block hwidth hlt hblock
  error_iff := pointer_error_iff_signed answer width a
  sameWord p n hp hn := by
    obtain ⟨v, hv⟩ := exists_readsAs_of_pointer hwidth hp
    cases hp.symm.trans hv.pointer
    cases hn.symm.trans hv.signed
    exact sameWord_extended v hwidth

end Reading

/-! ## Words in captured memory -/

namespace Snapshot

variable {s t : Snapshot} {bytes front back : List UInt8} {start : Address}

/-- The bytes stand in the regions, each at its own address. -/
def Holds (s : Snapshot) (a : Address) (bytes : List UInt8) : Prop :=
  ∀ (i : Nat) (hi : i < bytes.length),
    ∃ r ∈ s.regions, r.byte? (a.add i.toUInt64) = some bytes[i]

instance : Decidable (s.Holds a bytes) :=
  inferInstanceAs (Decidable (∀ (i : Nat) (hi : i < bytes.length),
    ∃ r ∈ s.regions, r.byte? (a.add i.toUInt64) = some bytes[i]))

theorem Apart.gather_of_holds (apart : s.Apart) (hlt : a.value.toNat + bytes.length < 2 ^ 64)
    (h : s.Holds a bytes) : s.gather a.value bytes.length = .ok bytes := by
  rw [apart.gather_eq_ok_iff hlt, ByteMap.bytes?_eq_some_iff]
  exact ⟨rfl, fun i hi => apart.byteMap_eq_some_iff.2 (h i hi)⟩

theorem holds_insert (hplace : a.value.toNat = start.value.toNat + front.length)
    (hlt : a.value.toNat + bytes.length < 2 ^ 64) :
    (s.insert start (front ++ bytes ++ back)).Holds a bytes := by
  intro i hi
  refine ⟨⟨start.value, front ++ bytes ++ back⟩, mem_insertInto_self _ _, ?_⟩
  rw [Region.byte?_add hplace (by omega), List.append_assoc,
    List.getElem?_append_right (Nat.le_add_right _ _), Nat.add_sub_cancel_left,
    List.getElem?_append_left hi, List.getElem?_eq_getElem hi]

theorem Apart.exists_patch (apart : s.Apart) (hlt : a.value.toNat + bytes.length < 2 ^ 64)
    (inside : ∀ i < bytes.length, ∃ r ∈ s.regions, r.Contains (a.add i.toUInt64)) :
    ∃ t, s.patch a bytes = .ok t ∧ t.Apart := by
  obtain ⟨old, hold⟩ := ByteMap.exists_bytes?_iff.2 fun i hi =>
    apart.exists_byteMap_iff.2 (inside i hi)
  obtain ⟨t, ht, hfills⟩ := exists_patch_of_ok ((apart.gather_eq_ok_iff hlt).2 hold)
  exact ⟨t, ht, hfills.agreesOn.apart apart⟩

theorem readsAs_of_gather (hwidth : width ≤ 8) (hlt : a.value.toNat + width < 2 ^ 64)
    (h : s.gather a.value width = .ok (toLittleEndian width v.toNat)) :
    Reading.ReadsAs s.answer a v := by
  obtain ⟨block, hblock, hbytes⟩ := exists_read_of_ok (q := ⟨a, width⟩) h
  exact .of_block hwidth hlt ((answer_eq_ok_iff (q := ⟨a, width⟩) hlt).2 hblock) hbytes

end Snapshot

namespace Reading

open Snapshot

/-- On every architecture a word is read as a pointer and as a signed number with the same question,
to the same error, or to two numbers that are the same modulo the size of a word.  Where its bytes
stand in captured memory whose regions keep apart, in one region or over the seams of many, it is
the word that is read both ways. -/
theorem word_read_both_ways (architecture : Architecture) (a : Address) :
    let width := architecture.pointerSize
    (∀ answer, BothWays answer width a) ∧
      (a.value.toNat + width < 2 ^ 64 → ∀ v : BitVec (8 * width),
        let bytes := toLittleEndian width v.toNat
        (∀ s : Snapshot, s.Apart → s.Holds a bytes → ReadsAs s.answer a v) ∧
          (∀ (s : Snapshot) (start : Address) (front back : List UInt8),
            a.value.toNat = start.value.toNat + front.length →
              (s.insert start (front ++ bytes ++ back)).Apart →
                ReadsAs (s.insert start (front ++ bytes ++ back)).answer a v) ∧
          (∀ s : Snapshot, s.Apart →
            (∀ i < width, ∃ r ∈ s.regions, r.Contains (a.add i.toUInt64)) →
              ∃ t, s.patch a bytes = .ok t ∧ t.Apart) ∧
          ∀ s t : Snapshot, s.patch a bytes = .ok t → ReadsAs t.answer a v) := by
  intro width
  have hwidth : width ≤ 8 := by
    have hsize := architecture.pointerSize_eq
    omega
  refine ⟨fun answer => bothWays answer hwidth a, fun hlt v => ?_⟩
  intro bytes
  have hlength : bytes.length = width := length_toLittleEndian width v.toNat
  have hfits : a.value.toNat + bytes.length < 2 ^ 64 := by rwa [hlength]
  have reads {s : Snapshot} (h : s.gather a.value bytes.length = .ok bytes) :
      ReadsAs s.answer a v := by
    rw [hlength] at h
    exact readsAs_of_gather hwidth hlt h
  refine ⟨fun s apart holds => reads (apart.gather_of_holds hfits holds), ?_, ?_, ?_⟩
  · intro s start front back hplace apart
    exact reads (apart.gather_of_holds hfits (holds_insert hplace hfits))
  · intro s apart inside
    exact apart.exists_patch hfits fun i hi => inside i (hlength ▸ hi)
  · exact fun s t hpatch => reads (fills_of_patch hpatch).gather_eq

/-- A word at the top, a word over the seam of two regions, a word that is written over the seam,
and a word between other bytes of a new region. -/
theorem word_read_both_ways_sideBySide :
    (signed 4 ⟨0xfffffffffffffffc⟩).run.result sideBySide.answer =
        .error (.overflow ⟨0xfffffffffffffffc⟩ 4) ∧
      0x1000 + 4 < 2 ^ 64 ∧ sideBySide.Apart ∧ sideBySide.Holds ⟨0x1000⟩ [1, 2, 3, 4] ∧
      (pointer 4 ⟨0x1000⟩).run.result sideBySide.answer = .ok ⟨0x04030201⟩ ∧
      (∃ t, sideBySide.patch ⟨0x1000⟩ [0xfe, 0xff, 0xff, 0xff] = .ok t ∧
        (pointer 4 ⟨0x1000⟩).run.result t.answer = .ok ⟨0xfffffffe⟩ ∧
        (signed 4 ⟨0x1000⟩).run.result t.answer = .ok (-2)) ∧
      (signed 8 ⟨0x1005⟩).run.result (sideBySide.insert ⟨0x1004⟩
        ([0] ++ [0xfe, 0xff, 0xff, 0xff, 0xff, 0xff, 0xff, 0xff] ++ [0])).answer = .ok (-2) := by
  have apart : sideBySide.Apart := by decide
  have holds : sideBySide.Holds ⟨0x1000⟩ [1, 2, 3, 4] := by decide +kernel
  have htop := (word_read_both_ways .x86 ⟨0xfffffffffffffffc⟩).1 sideBySide.answer
  have hnarrow := (word_read_both_ways .x86 ⟨0x1000⟩).2 (by decide)
  have hwide := (word_read_both_ways .arm64 ⟨0x1005⟩).2 (by decide)
  obtain ⟨t, ht, -⟩ := (hnarrow (0xfffffffe : BitVec 32)).2.2.1 sideBySide apart (by decide +kernel)
  have hpatched := (hnarrow (0xfffffffe : BitVec 32)).2.2.2 sideBySide t ht
  refine ⟨(htop.overflow (by decide)).2, by decide, apart, holds, ?_, ⟨t, ht, ?_, ?_⟩, ?_⟩
  · exact ((hnarrow (0x04030201 : BitVec 32)).1 sideBySide apart holds).pointer
  · exact hpatched.pointer
  · exact hpatched.signed
  · exact ((hwide (0xfffffffffffffffe : BitVec 64)).2.1 sideBySide ⟨0x1004⟩ [0] [0] (by decide)
      (by decide +kernel)).signed

end Reading

end Memory

end ObjectView
