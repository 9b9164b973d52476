import ObjectView.Memory.Snapshot
import ObjectView.Proofs.Memory.ByteMap

/-!
# Captured memory as a map of bytes

Where no region reaches into another one, every byte is in one region at most, and a snapshot is
the map of these bytes: a block can be read if each of its addresses lies inside some region,
however many regions it goes through.

What carries a read over the seams is that the region an address lies inside is always the last one
that starts at or in front of it.  Regions without bytes are no exception.
-/

namespace ObjectView.Memory

namespace Region

/-- An address lies inside a region. -/
def Contains (r : Region) (a : Address) : Prop :=
  r.start.toNat ≤ a.value.toNat ∧ a.value.toNat < r.start.toNat + r.bytes.length

instance (r : Region) (a : Address) : Decidable (r.Contains a) :=
  inferInstanceAs (Decidable (_ ∧ _))

/-- The byte that a region holds for an address, if the address lies inside it. -/
def byte? (r : Region) (a : Address) : Option UInt8 :=
  if r.start.toNat ≤ a.value.toNat then r.bytes[a.value.toNat - r.start.toNat]? else none

variable {r : Region} {a : Address}

theorem exists_byte?_iff : (∃ b, r.byte? a = some b) ↔ r.Contains a := by
  simp only [byte?, Contains, Option.ite_none_right_eq_some]
  constructor
  · rintro ⟨b, hstart, hb⟩
    obtain ⟨hinside, -⟩ := List.getElem?_eq_some_iff.1 hb
    exact ⟨hstart, by omega⟩
  · rintro ⟨hstart, hend⟩
    have hinside : a.value.toNat - r.start.toNat < r.bytes.length := by omega
    exact ⟨_, hstart, List.getElem?_eq_getElem hinside⟩

theorem byte?_add {offset i : Nat} (hoffset : a.value.toNat = r.start.toNat + offset)
    (hlt : a.value.toNat + i < 2 ^ 64) :
    r.byte? (a.add i.toUInt64) = r.bytes[offset + i]? := by
  have hvalue : (a.add i.toUInt64).value.toNat = r.start.toNat + (offset + i) := by
    rw [Address.toNat_add_of_lt hlt, hoffset, Nat.add_assoc]
  rw [byte?, hvalue, if_pos (Nat.le_add_right _ _), Nat.add_sub_cancel_left]

end Region

namespace Snapshot

variable {s : Snapshot} {r r' : Region} {cursor : UInt64} {a : Address} {b : UInt8}

/-! ## Which region answers -/

theorem region?_eq_some_iff :
    s.region? cursor = some r ↔
      r ∈ s.regions ∧ r.start ≤ cursor ∧
        ∀ x ∈ s.regions, x.start ≤ cursor → x.start ≤ r.start := by
  have hordered := s.ordered.filter fun x => x.start ≤ cursor
  have hmem (x : Region) : x ∈ s.regions.filter (fun x => x.start ≤ cursor) ↔
      x ∈ s.regions ∧ x.start ≤ cursor := by
    rw [List.mem_filter, decide_eq_true_eq]
  rw [region?, List.getLast?_eq_some_iff]
  constructor
  · rintro ⟨front, hfront⟩
    rw [hfront] at hordered hmem
    obtain ⟨hr, hstart⟩ := (hmem r).1 (by simp)
    refine ⟨hr, hstart, fun x hx hxstart => ?_⟩
    rcases List.mem_append.1 ((hmem x).2 ⟨hx, hxstart⟩) with hx | hx
    · exact UInt64.le_of_lt ((List.pairwise_append.1 hordered).2.2 x hx r (by simp))
    · rw [List.mem_singleton.1 hx]
      exact UInt64.le_refl _
  · rintro ⟨hr, hstart, hlast⟩
    obtain ⟨front, back, hsplit⟩ := List.append_of_mem ((hmem r).2 ⟨hr, hstart⟩)
    rw [hsplit] at hordered hmem
    -- Whatever came behind the region would start behind it, and still not behind the cursor.
    have hback : back = [] := by
      refine List.eq_nil_iff_forall_not_mem.2 fun x hx => ?_
      have hlater : r.start < x.start :=
        (List.pairwise_cons.1 (List.pairwise_append.1 hordered).2.1).1 x hx
      obtain ⟨hx, hxstart⟩ := (hmem x).1 (by simp [hx])
      exact absurd (hlast x hx hxstart) (UInt64.not_le.2 hlater)
    exact ⟨front, by rw [hsplit, hback]⟩

theorem spot?_of_region? {offset : Nat} (hregion : s.region? cursor = some r)
    (hoffset : cursor.toNat = r.start.toNat + offset) (hinside : offset < r.bytes.length) :
    s.spot? cursor = some ⟨r, offset, hinside⟩ := by
  have hsub : (cursor - r.start).toNat = offset := by
    rw [UInt64.toNat_sub_of_le _ _ (UInt64.le_iff_toNat_le.2 (by omega)), hoffset,
      Nat.add_sub_cancel_left]
  subst hsub
  rw [spot?, hregion, Option.bind_eq_bind, Option.bind_some, dif_pos hinside]

theorem region?_of_spot? {spot : Spot} (h : s.spot? cursor = some spot) :
    s.region? cursor = some spot.region ∧
      cursor.toNat = spot.region.start.toNat + spot.offset := by
  rw [spot?, Option.bind_eq_bind, Option.bind_eq_some_iff] at h
  obtain ⟨r, hregion, h⟩ := h
  split at h
  next hinside =>
    obtain rfl := Option.some.inj h
    have hstart : r.start ≤ cursor := (region?_eq_some_iff.1 hregion).2.1
    have hle : r.start.toNat ≤ cursor.toNat := UInt64.le_iff_toNat_le.1 hstart
    have hsub : (cursor - r.start).toNat = cursor.toNat - r.start.toNat :=
      UInt64.toNat_sub_of_le _ _ hstart
    have hoffset : cursor.toNat = r.start.toNat + (cursor - r.start).toNat := by omega
    exact ⟨hregion, hoffset⟩
  next => cases h

/-! ## What is answered -/

theorem read_eq_ok_iff {q : Request} {block : Vector UInt8 q.length} :
    s.read q = .ok block ↔ s.gather q.address.value q.length = .ok block.toList := by
  unfold read
  split
  next bytes h =>
    constructor
    · intro hblock
      cases hblock
      exact h
    · intro hblock
      obtain rfl : bytes = block.toList := Except.ok.inj (h.symm.trans hblock)
      rfl
  next stop h => simp [h]

theorem read_of_error {q : Request} {stop : Stop}
    (h : s.gather q.address.value q.length = .error stop) : s.read q = .error (stop.fault q) := by
  unfold read
  split
  next bytes hb => cases h.symm.trans hb
  next stop' hstop => rw [Except.error.inj (h.symm.trans hstop)]

theorem exists_read_of_ok {q : Request} {bytes : List UInt8}
    (h : s.gather q.address.value q.length = .ok bytes) :
    ∃ block, s.read q = .ok block ∧ block.toList = bytes := by
  have hlength : bytes.toArray.size = q.length := by simpa using length_of_gather h
  exact ⟨⟨bytes.toArray, hlength⟩, read_eq_ok_iff.2 h, rfl⟩

theorem exists_read_iff {q : Request} :
    (∃ block, s.read q = .ok block) ↔ ∃ bytes, s.gather q.address.value q.length = .ok bytes := by
  constructor
  · rintro ⟨block, hblock⟩
    exact ⟨_, read_eq_ok_iff.1 hblock⟩
  · rintro ⟨bytes, hbytes⟩
    obtain ⟨block, hblock, -⟩ := exists_read_of_ok hbytes
    exact ⟨block, hblock⟩

/-- Below the top a process is answered what the captured memory answers. -/
theorem read_of_belowTop {q : Request} (hlt : q.BelowTop) :
    s.read q = (s.answer q).mapError .failed := by
  rw [answer, dif_pos hlt]
  split
  next bytes h => exact read_eq_ok_iff.2 h
  next h => exact read_of_error h
  next h => exact absurd h (gather_ne_overflow hlt)

theorem answer_eq_ok_iff {q : Request} {block : Vector UInt8 q.length} (hlt : q.BelowTop) :
    s.answer q = .ok block ↔ s.read q = .ok block := by
  rw [read_of_belowTop hlt]
  cases s.answer q with
  | ok found =>
      constructor
      · rintro ⟨⟩
        rfl
      · rintro ⟨⟩
        rfl
  | error e => exact iff_of_false (fun h => by cases h) fun h => by cases h

theorem answer_eq_error_iff {q : Request} {e : MemoryError} (hlt : q.BelowTop) :
    s.answer q = .error e ↔ s.read q = .error (.failed e) := by
  rw [read_of_belowTop hlt]
  cases s.answer q with
  | ok found => exact iff_of_false (fun h => by cases h) fun h => by cases h
  | error e' =>
      constructor
      · rintro ⟨⟩
        rfl
      · rintro ⟨⟩
        rfl

theorem answer_of_ne_ok {q : Request} (hlt : q.BelowTop)
    (h : ∀ bytes, s.gather q.address.value q.length ≠ .ok bytes) :
    s.answer q = .error (.unreadable q.address q.length) := by
  rw [answer, dif_pos hlt]
  split
  next bytes hb => exact absurd hb (h bytes)
  next => rfl
  next h => exact absurd h (gather_ne_overflow hlt)

/-- The loop over the regions goes through a map of bytes from one end to the other if every block
that it takes from a region stands in the map, and there is no byte where it finds no region. -/
theorem gather_eq_ok_iff_of_blocks {m : ByteMap}
    (hnone : ∀ a : Address, s.spot? a.value = none → m a = none)
    (hblock : ∀ (a : Address) (spot : Spot) (length : Nat), s.spot? a.value = some spot →
      a.value.toNat + length < 2 ^ 64 →
      m.bytes? a (spot.block length).length = some (spot.block length))
    {length : Nat} {bytes : List UInt8} (hlt : a.value.toNat + length < 2 ^ 64) :
    s.gather a.value length = .ok bytes ↔ m.bytes? a length = some bytes := by
  obtain ⟨cursor⟩ := a
  fun_induction gather s cursor length generalizing bytes with
  | case1 cursor => simp
  | case2 cursor length hlength hspot =>
      obtain ⟨rest, rfl⟩ := Nat.exists_eq_succ_of_ne_zero hlength
      simp [ByteMap.bytes?_succ_of_none (hnone _ hspot)]
  | case3 cursor length _ spot hspot block hfits =>
      rename_i ih
      have hle : block.length ≤ length := List.length_take_le _ _
      have hlt' : cursor.toNat + length < 2 ^ 64 := hlt
      have hbelow : (cursor + block.length.toUInt64).toNat + (length - block.length) < 2 ^ 64 := by
        rw [toNat_cursor_add hfits]
        omega
      have hchunk : m.bytes? ⟨cursor⟩ block.length = some block := hblock _ _ _ hspot hlt
      have hsplit := ByteMap.bytes?_add_of_some hchunk (length - block.length)
      rw [Nat.add_sub_of_le hle] at hsplit
      rw [map_eq_ok_iff, hsplit, Option.map_eq_some_iff]
      exact exists_congr fun rest => and_congr_left' (ih hbelow)
  | case4 cursor length _ spot _ block =>
      rename_i habove
      have hle : block.length ≤ length := List.length_take_le _ _
      have hlt' : cursor.toNat + length < 2 ^ 64 := hlt
      have hge : 2 ^ 64 ≤ cursor.toNat + block.length := Nat.not_lt.1 habove
      omega

/-! ## Regions that keep apart -/

/-- Every region ends before the next one starts, or where it starts. -/
def Apart (s : Snapshot) : Prop :=
  ∀ r ∈ s.regions, ∀ r' ∈ s.regions, r.start < r'.start →
    r.start.toNat + r.bytes.length ≤ r'.start.toNat

instance : Decidable s.Apart :=
  inferInstanceAs (Decidable (∀ r ∈ s.regions, ∀ r' ∈ s.regions, r.start < r'.start →
    r.start.toNat + r.bytes.length ≤ r'.start.toNat))

/-- The bytes of all regions.  For an address in several regions, the first one counts. -/
def byteMap (s : Snapshot) : ByteMap :=
  fun a => s.regions.findSome? fun r => r.byte? a

section Apart

variable (apart : s.Apart)

include apart

theorem Apart.region?_of_contains (hr : r ∈ s.regions) (h : r.Contains a) :
    s.region? a.value = some r := by
  refine region?_eq_some_iff.2 ⟨hr, UInt64.le_iff_toNat_le.2 h.1, fun x hx hxstart => ?_⟩
  apply UInt64.not_lt.1
  intro hlater
  have hbehind := apart r hr x hx hlater
  have hxstart' := UInt64.le_iff_toNat_le.1 hxstart
  have hinside := h.2
  omega

theorem Apart.byteMap_eq_some_iff :
    s.byteMap a = some b ↔ ∃ r ∈ s.regions, r.byte? a = some b := by
  constructor
  · exact List.exists_of_findSome?_eq_some
  · rintro ⟨r, hr, hb⟩
    have hmapped : (s.byteMap a).isSome := by
      rw [byteMap, List.findSome?_isSome_iff]
      exact ⟨r, hr, by rw [hb]; rfl⟩
    obtain ⟨b', hb'⟩ := Option.isSome_iff_exists.1 hmapped
    obtain ⟨r', hr', hbyte⟩ := List.exists_of_findSome?_eq_some hb'
    -- The region that was found first is the one that answers, and so is the given one.
    have hsame : r' = r := by
      have hfirst := apart.region?_of_contains hr' (Region.exists_byte?_iff.1 ⟨b', hbyte⟩)
      have hgiven := apart.region?_of_contains hr (Region.exists_byte?_iff.1 ⟨b, hb⟩)
      exact Option.some.inj (hfirst.symm.trans hgiven)
    rw [hb', ← hbyte, hsame, hb]

theorem Apart.byteMap_of_contains (hr : r ∈ s.regions) (h : r.Contains a) :
    s.byteMap a = r.byte? a := by
  obtain ⟨b, hb⟩ := Region.exists_byte?_iff.2 h
  rw [hb]
  exact apart.byteMap_eq_some_iff.2 ⟨r, hr, hb⟩

theorem Apart.exists_byteMap_iff :
    (∃ b, s.byteMap a = some b) ↔ ∃ r ∈ s.regions, r.Contains a := by
  simp only [apart.byteMap_eq_some_iff, ← Region.exists_byte?_iff]
  constructor
  · rintro ⟨b, r, hr, hb⟩
    exact ⟨r, hr, b, hb⟩
  · rintro ⟨r, hr, b, hb⟩
    exact ⟨b, r, hr, hb⟩

theorem Apart.byteMap_of_spot?_none (h : s.spot? a.value = none) : s.byteMap a = none := by
  apply Option.eq_none_iff_forall_ne_some.2
  intro b hb
  obtain ⟨r, hr, hbyte⟩ := apart.byteMap_eq_some_iff.1 hb
  have hcontains : r.Contains a := Region.exists_byte?_iff.1 ⟨b, hbyte⟩
  obtain ⟨offset, hoffset⟩ := Nat.exists_eq_add_of_le hcontains.1
  have hinside := hcontains.2
  have hspot := spot?_of_region? (apart.region?_of_contains hr hcontains) hoffset (by omega)
  rw [h] at hspot
  cases hspot

theorem Apart.bytes?_byteMap_of_spot? {spot : Spot} (h : s.spot? a.value = some spot)
    {length : Nat} (hlt : a.value.toNat + length < 2 ^ 64) :
    s.byteMap.bytes? a (spot.block length).length = some (spot.block length) := by
  obtain ⟨hregion, hoffset⟩ := region?_of_spot? h
  refine ByteMap.bytes?_eq_some_iff.2 ⟨rfl, fun i hi => apart.byteMap_eq_some_iff.2 ?_⟩
  refine ⟨spot.region, (region?_eq_some_iff.1 hregion).1, ?_⟩
  have hlength := spot.length_block length
  rw [Region.byte?_add hoffset (by omega), ← List.getElem?_eq_getElem hi,
    spot.getElem?_block (by omega)]

/-- The loop over the regions goes through the map of bytes from one end to the other. -/
theorem Apart.gather_eq_ok_iff {length : Nat} {bytes : List UInt8}
    (hlt : a.value.toNat + length < 2 ^ 64) :
    s.gather a.value length = .ok bytes ↔ s.byteMap.bytes? a length = some bytes :=
  gather_eq_ok_iff_of_blocks (fun _ => apart.byteMap_of_spot?_none)
    (fun _ _ _ hspot hfits => apart.bytes?_byteMap_of_spot? hspot hfits) hlt

/-- A snapshot whose regions keep apart answers like the map of their bytes. -/
theorem Apart.answer_eq {q : Request} (hlt : q.BelowTop) : s.answer q = s.byteMap.answer q := by
  cases hbytes : s.byteMap.bytes? q.address q.length with
  | none =>
      rw [ByteMap.answer, ByteMap.read_of_none hbytes]
      refine answer_of_ne_ok hlt fun bytes hgather => ?_
      cases hbytes.symm.trans ((apart.gather_eq_ok_iff hlt).1 hgather)
  | some bytes =>
      obtain ⟨block, hread, rfl⟩ := ByteMap.exists_read_of_some hbytes
      rw [ByteMap.answer, hread, answer_eq_ok_iff hlt]
      exact read_eq_ok_iff.2 ((apart.gather_eq_ok_iff hlt).2 hbytes)

/-- Whoever asks for nothing at the top cannot tell one from the other. -/
theorem Apart.result_eq {α : Type} {d : Dialogue Request Request.Answer α}
    (h : d.AsksOnly Request.BelowTop) : d.result s.answer = d.result s.byteMap.answer :=
  h.result_congr fun _ => apart.answer_eq

end Apart

/-- Captured memory whose regions keep apart can be read wherever every address lies inside some
region, and then each byte is the one that its own region holds.  Anywhere else the whole request
is unreadable.  A read of nothing is always possible. -/
theorem read_of_regions_apart (s : Snapshot) (apart : s.Apart) (q : Request)
    (hlt : q.address.value.toNat + q.length < 2 ^ 64) :
    ((∃ block, s.read q = .ok block) ↔
        ∀ i < q.length, ∃ r ∈ s.regions, r.Contains (q.address.add i.toUInt64)) ∧
      (∀ block, s.read q = .ok block → ∀ (i : Nat) (hi : i < q.length), ∀ r ∈ s.regions,
        r.Contains (q.address.add i.toUInt64) →
          r.bytes[q.address.value.toNat + i - r.start.toNat]? = some block[i]) ∧
      ((¬ ∃ block, s.read q = .ok block) →
        s.read q = .error (.failed (.unreadable q.address q.length))) ∧
      ∀ a : Address, ∃ block, s.read ⟨a, 0⟩ = .ok block := by
  have hread {block : Vector UInt8 q.length} :
      s.read q = .ok block ↔ s.byteMap.read q.address q.length = .ok block := by
    rw [← answer_eq_ok_iff hlt, apart.answer_eq hlt, ByteMap.answer]
  refine ⟨?_, fun block hblock i hi r hr hcontains => ?_, fun hnone => ?_, fun a => ?_⟩
  · simp only [hread, ByteMap.exists_read_iff]
    exact forall₂_congr fun i _ => apart.exists_byteMap_iff
  · rw [hread] at hblock
    have hbyte : r.byte? (q.address.add i.toUInt64) = some block[i] := by
      rw [← apart.byteMap_of_contains hr hcontains]
      exact ByteMap.get_of_read hblock hi
    rw [Region.byte?, if_pos hcontains.1, Address.toNat_add_of_lt (by omega)] at hbyte
    exact hbyte
  · simp only [hread] at hnone
    rw [← answer_eq_error_iff hlt, apart.answer_eq hlt]
    exact ByteMap.read_of_not_exists hnone
  · refine ⟨#v[], read_eq_ok_iff.2 ?_⟩
    rw [gather, dif_pos rfl]
    rfl

/-- Two regions side by side, between empty ones. -/
def sideBySide : Snapshot :=
  (((empty.insert ⟨0x1000⟩ [1, 2]).insert ⟨0x1002⟩ [3, 4]).insert ⟨0x0fff⟩ []).insert ⟨0x1004⟩ []

/-- A read over the seam, and one that reaches the empty region behind it. -/
theorem read_of_regions_apart_sideBySide :
    sideBySide.Apart ∧ 0x1001 + 3 < 2 ^ 64 ∧
      sideBySide.read ⟨⟨0x1001⟩, 3⟩ = .ok #v[2, 3, 4] ∧
      sideBySide.read ⟨⟨0x1003⟩, 2⟩ = .error (.failed (.unreadable ⟨0x1003⟩ 2)) := by
  have apart : sideBySide.Apart := by decide
  refine ⟨apart, by decide, ?_, ?_⟩
  · have hread := read_of_regions_apart sideBySide apart ⟨⟨0x1001⟩, 3⟩ (by decide)
    obtain ⟨block, hblock⟩ := hread.1.2 (by decide)
    have hfirst : some (2 : UInt8) = some block[0] :=
      hread.2.1 block hblock 0 (by decide) ⟨0x1000, [1, 2]⟩ (by decide) (by decide)
    have hsecond : some (3 : UInt8) = some block[1] :=
      hread.2.1 block hblock 1 (by decide) ⟨0x1002, [3, 4]⟩ (by decide) (by decide)
    have hthird : some (4 : UInt8) = some block[2] :=
      hread.2.1 block hblock 2 (by decide) ⟨0x1002, [3, 4]⟩ (by decide) (by decide)
    have hall : block = #v[2, 3, 4] := by
      refine Vector.ext fun i hi => ?_
      match i, hi with
      | 0, _ => exact (Option.some.inj hfirst).symm
      | 1, _ => exact (Option.some.inj hsecond).symm
      | 2, _ => exact (Option.some.inj hthird).symm
    rw [hblock, hall]
  · have hread := read_of_regions_apart sideBySide apart ⟨⟨0x1003⟩, 2⟩ (by decide)
    refine hread.2.2.1 fun hblock => ?_
    have hinside := hread.1.1 hblock 1 (by decide)
    revert hinside
    decide

end Snapshot

end ObjectView.Memory
