import Mathlib.Logic.Relation
import ObjectView.Proofs.Memory.Patch
import ObjectView.Proofs.Memory.TopPage

/-!
# Edits of captured memory

Captured memory grows by regions and is written to.  An edit leaves alone what it is not about: a
new region between the others hides none of their bytes, and a patch changes the addresses of its
own range only.  So bytes that no edit is about are there after any number of them, and every
reading that needs no others comes to the same as before.
-/

namespace ObjectView

/-- The addresses of the `length` bytes from an address on, which go on at null behind the top. -/
def Address.Range (a : Address) (length : Nat) (x : Address) : Prop :=
  ∃ i < length, x = a.add i.toUInt64

instance (a : Address) (length : Nat) (x : Address) : Decidable (a.Range length x) :=
  inferInstanceAs (Decidable (∃ i < length, x = a.add i.toUInt64))

namespace Address

variable {a x : Address} {length more : Nat}

theorem range_add {i : Nat} (h : i < length) : a.Range length (a.add i.toUInt64) :=
  ⟨i, h, rfl⟩

theorem Range.mono (h : a.Range length x) (hle : length ≤ more) : a.Range more x := by
  obtain ⟨i, hi, hx⟩ := h
  exact ⟨i, Nat.lt_of_lt_of_le hi hle, hx⟩

theorem Range.behind (h : (a.add length.toUInt64).Range more x) : a.Range (length + more) x := by
  obtain ⟨i, hi, rfl⟩ := h
  refine ⟨length + i, Nat.add_lt_add_left hi length, ?_⟩
  rw [add_add_toUInt64]

theorem range_of_le (hle : a.value.toNat ≤ x.value.toNat)
    (hlt : x.value.toNat < a.value.toNat + length) : a.Range length x := by
  obtain ⟨i, hi⟩ := Nat.exists_eq_add_of_le hle
  have hbelow := x.value.toNat_lt
  have hvalue : (a.add i.toUInt64).value.toNat = x.value.toNat := by
    rw [toNat_add_of_lt (by omega), hi]
  refine ⟨i, by omega, ?_⟩
  exact congrArg Address.mk (UInt64.toNat_inj.1 hvalue.symm)

end Address

namespace Memory

/-! ## Bytes that are kept -/

/-- The bytes of the one memory at certain addresses are in the other one as well. -/
def ByteMap.Keeps (own : Address → Prop) (m m' : ByteMap) : Prop :=
  ∀ a b, own a → m a = some b → m' a = some b

namespace ByteMap.Keeps

variable {own : Address → Prop} {m m' m'' : ByteMap} {a : Address} {width length : Nat}

theorem refl (own : Address → Prop) (m : ByteMap) : m.Keeps own m :=
  fun _ _ _ hb => hb

theorem trans (h : m.Keeps own m') (h' : m'.Keeps own m'') : m.Keeps own m'' :=
  fun a b ha hb => h' a b ha (h a b ha hb)

theorem bytes? {bytes : List UInt8} (h : m.Keeps own m')
    (hown : ∀ x, a.Range length x → own x) (hbytes : m.bytes? a length = some bytes) :
    m'.bytes? a length = some bytes := by
  obtain ⟨hlength, hall⟩ := bytes?_eq_some_iff.1 hbytes
  refine bytes?_eq_some_iff.2 ⟨hlength, fun i hi => h _ _ ?_ (hall i hi)⟩
  exact hown _ (Address.range_add (hlength ▸ hi))

theorem result_word {n : Nat} (h : m.Keeps own m') (hwidth : width < 2 ^ 64)
    (hown : ∀ x, a.Range width x → own x)
    (hword : (Reading.word width a).run.result m.answer = .ok n) :
    (Reading.word width a).run.result m'.answer = .ok n := by
  rw [Reading.result_word_eq_ok_iff hwidth, word?, Option.ite_none_right_eq_some,
    Option.map_eq_some_iff] at hword ⊢
  obtain ⟨hbelow, bytes, hbytes, hn⟩ := hword
  exact ⟨hbelow, bytes, h.bytes? hown hbytes, hn⟩

theorem result_pointer {target : Address} (h : m.Keeps own m') (hwidth : width < 2 ^ 64)
    (hown : ∀ x, a.Range width x → own x)
    (hpointer : (Reading.pointer width a).run.result m.answer = .ok target) :
    (Reading.pointer width a).run.result m'.answer = .ok target := by
  rw [Reading.pointer, Dialogue.result_run_bind_eq_ok_iff] at hpointer ⊢
  obtain ⟨n, hword, htarget⟩ := hpointer
  exact ⟨n, h.result_word hwidth hown hword, htarget⟩

theorem result_signed {value : Int} (h : m.Keeps own m') (hwidth : width < 2 ^ 64)
    (hown : ∀ x, a.Range width x → own x)
    (hsigned : (Reading.signed width a).run.result m.answer = .ok value) :
    (Reading.signed width a).run.result m'.answer = .ok value := by
  rw [Reading.signed, Dialogue.result_run_bind_eq_ok_iff] at hsigned ⊢
  obtain ⟨n, hword, hvalue⟩ := hsigned
  exact ⟨n, h.result_word hwidth hown hword, hvalue⟩

/-- Whether a text is found is up to its bytes and the zero behind them, and to its place. -/
theorem result_text {text : List UInt8} {maxLength : UInt64} (h : m.Keeps own m')
    (hmax : maxLength.toNat + 1 < 2 ^ 64) (hown : ∀ x, a.Range (text.length + 1) x → own x)
    (htext : (Reading.text a maxLength hmax).run.result m.answer = .ok (some text)) :
    (Reading.text a maxLength hmax).run.result m'.answer = .ok (some text) := by
  rw [Reading.result_text_eq_some_iff hmax] at htext ⊢
  obtain ⟨⟨hpresent, hnonzero⟩, hlength, hzero, hplace⟩ := htext
  have hpresent' : m'.bytes? a text.length = some text :=
    h.bytes? (fun x hx => hown x (hx.mono (Nat.le_succ _))) hpresent
  have hzero' := h _ _ (hown _ (Address.range_add (Nat.lt_succ_self _))) hzero
  exact ⟨⟨hpresent', hnonzero⟩, hlength, hzero', hplace⟩

end ByteMap.Keeps

namespace Snapshot

variable {own : Address → Prop} {kept : Nat → Prop} {s t : Snapshot} {a : Address}
  {bytes : List UInt8}

/-! ## Captured memory that is in order -/

/-- The regions keep apart, and none passes the top of the address space. -/
structure Tidy (s : Snapshot) : Prop where
  apart : s.Apart
  fits : ∀ r ∈ s.regions, r.start.toNat + r.bytes.length ≤ 2 ^ 64

instance : Decidable s.Tidy :=
  decidable_of_iff (s.Apart ∧ ∀ r ∈ s.regions, r.start.toNat + r.bytes.length ≤ 2 ^ 64)
    ⟨fun h => ⟨h.1, h.2⟩, fun h => ⟨h.1, h.2⟩⟩

theorem AgreesOn.tidy (h : s.AgreesOn kept t) (tidy : s.Tidy) : t.Tidy := by
  refine ⟨h.apart tidy.apart, fun r hr => ?_⟩
  obtain ⟨x, hx, hrx⟩ := h.symm.exists_mem hr
  have hfits := tidy.fits x hx
  rw [hrx.start, hrx.length] at hfits
  exact hfits

theorem AgreesOn.keeps (h : s.AgreesOn kept t) (tidy : s.Tidy)
    (hkept : ∀ x, own x → kept x.value.toNat) : s.byteMap.Keeps own t.byteMap := by
  intro x b hx hb
  obtain ⟨r, hr, hbyte⟩ := tidy.apart.byteMap_eq_some_iff.1 hb
  obtain ⟨r', hr', hagrees⟩ := h.exists_mem hr
  refine (h.tidy tidy).apart.byteMap_eq_some_iff.2 ⟨r', hr', ?_⟩
  rw [Region.byte?, Option.ite_none_right_eq_some] at hbyte ⊢
  obtain ⟨hstart, hbyte⟩ := hbyte
  rw [hagrees.start]
  refine ⟨hstart, ?_⟩
  rw [hagrees.bytes _ (by rw [Nat.add_sub_of_le hstart]; exact hkept x hx)]
  exact hbyte

/-! ## Writing -/

theorem Fills.keeps (h : s.Fills a.value bytes t) (tidy : s.Tidy)
    (beside : ∀ x, own x → ¬ a.Range bytes.length x) :
    t.Tidy ∧ s.byteMap.Keeps own t.byteMap := by
  refine ⟨h.agreesOn.tidy tidy, h.agreesOn.keeps tidy fun x hx => ?_⟩
  by_contra hwritten
  rw [Beside, not_or, Nat.not_lt, Nat.not_le] at hwritten
  exact beside x hx (Address.range_of_le hwritten.1 hwritten.2)

/-! ## Inserting -/

theorem mem_insertInto_of_mem {r x : Region} {regions : List Region} (hx : x ∈ regions)
    (hne : x.start ≠ r.start) : x ∈ insertInto r regions := by
  induction regions with
  | nil => cases hx
  | cons first rest ih =>
      rw [insertInto]
      split
      · exact List.mem_cons_of_mem r hx
      · rcases List.mem_cons.1 hx with rfl | hrest
        · split
          next heq => exact absurd heq.symm hne
          next => exact List.mem_cons_self
        · split
          · exact List.mem_cons_of_mem r hrest
          · exact List.mem_cons_of_mem first (ih hrest)

theorem insert_keeps (tidy : s.Tidy) (isNew : ∀ r ∈ s.regions, r.start ≠ a.value)
    (tidy' : (s.insert a bytes).Tidy) : s.byteMap.Keeps own (s.insert a bytes).byteMap := by
  intro x b _ hb
  obtain ⟨r, hr, hbyte⟩ := tidy.apart.byteMap_eq_some_iff.1 hb
  have hr' : r ∈ (s.insert a bytes).regions := mem_insertInto_of_mem hr (isNew r hr)
  exact tidy'.apart.byteMap_eq_some_iff.2 ⟨r, hr', hbyte⟩

/-! ## Edits -/

/-- One edit: a region is inserted where none starts, and the regions are in order then, or a
patch is tried, the range of which has no own byte in it. -/
inductive Edit (own : Address → Prop) (s : Snapshot) : Snapshot → Prop
  | insert (start : Address) (bytes : List UInt8) (isNew : ∀ r ∈ s.regions, r.start ≠ start.value)
      (tidy : (s.insert start bytes).Tidy) : Edit own s (s.insert start bytes)
  | patch (a : Address) (bytes : List UInt8)
      (beside : ∀ i < bytes.length, ¬ own (a.add i.toUInt64)) : Edit own s (s.patched a bytes)

/-- Captured memory comes from another by any number of edits. -/
abbrev Edits (own : Address → Prop) : Snapshot → Snapshot → Prop :=
  Relation.ReflTransGen (Edit own)

theorem Edit.keeps (h : Edit own s t) (tidy : s.Tidy) :
    t.Tidy ∧ s.byteMap.Keeps own t.byteMap := by
  cases h with
  | insert start bytes isNew tidy' => exact ⟨tidy', insert_keeps tidy isNew tidy'⟩
  | patch a bytes beside =>
      rw [patched]
      cases hpatch : s.patch a bytes with
      | error f => exact ⟨tidy, .refl own _⟩
      | ok t =>
          refine (fills_of_patch hpatch).keeps tidy fun x hx hrange => ?_
          obtain ⟨i, hi, rfl⟩ := hrange
          exact beside i hi hx

/-- After any number of edits the regions are still in order, and no own byte is lost. -/
theorem Edits.keeps (h : Edits own s t) (tidy : s.Tidy) :
    t.Tidy ∧ s.byteMap.Keeps own t.byteMap := by
  induction h with
  | refl => exact ⟨tidy, .refl own _⟩
  | tail _ edit ih =>
      obtain ⟨htidy, hkeeps⟩ := ih
      obtain ⟨htidy', hkeeps'⟩ := edit.keeps htidy
      exact ⟨htidy', hkeeps.trans hkeeps'⟩

end Snapshot

end Memory

end ObjectView
