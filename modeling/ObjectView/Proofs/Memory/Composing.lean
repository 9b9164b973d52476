import ObjectView.Proofs.Memory.Patch

/-!
# Reading a block in two parts

A read goes through a region to its end and does not look whether another one starts before that,
while a read from there on asks the other one.  So two regions that reach into one another can hide
bytes: what an address shows depends on where the read started.  Where nothing is hidden, and only
there, a read in two parts comes to the same as a read of the whole.
-/

namespace ObjectView.Memory.Snapshot

variable {s : Snapshot} {r : Region} {spot : Spot} {a : Address} {b : UInt8} {length : Nat}

/-- A block can be read exactly if its two parts can, and then it is the one behind the other,
wherever it is cut. -/
def Composes (s : Snapshot) : Prop :=
  ∀ (a : Address) (n m : Nat), a.value.toNat + n + m < 2 ^ 64 → ∀ block : Vector UInt8 (n + m),
    s.read ⟨a, n + m⟩ = .ok block ↔
      ∃ front back, s.read ⟨a, n⟩ = .ok front ∧ s.read ⟨a.add n.toUInt64, m⟩ = .ok back ∧
        front ++ back = block

/-- Each byte of each region is what a read of its address alone shows. -/
def HidesNothing (s : Snapshot) : Prop :=
  ∀ r ∈ s.regions, ∀ (a : Address) (b : UInt8), a.value.toNat + 1 < 2 ^ 64 →
    r.byte? a = some b → s.read ⟨a, 1⟩ = .ok #v[b]

/-! ## What a single address shows -/

/-- The byte that the region answering for an address holds there. -/
def shown (s : Snapshot) : ByteMap :=
  fun a => (s.region? a.value).bind fun r => r.byte? a

theorem shown_eq_some_iff :
    s.shown a = some b ↔ ∃ r, s.region? a.value = some r ∧ r.byte? a = some b :=
  Option.bind_eq_some_iff

theorem shown_of_spot?_none (hspot : s.spot? a.value = none) : s.shown a = none := by
  apply Option.eq_none_iff_forall_ne_some.2
  intro b hb
  obtain ⟨r, hregion, hbyte⟩ := shown_eq_some_iff.1 hb
  obtain ⟨hstart, hend⟩ := Region.exists_byte?_iff.1 ⟨b, hbyte⟩
  obtain ⟨offset, hoffset⟩ := Nat.exists_eq_add_of_le hstart
  rw [spot?_of_region? hregion hoffset (by omega)] at hspot
  cases hspot

theorem shown_of_spot? (hspot : s.spot? a.value = some spot) :
    s.shown a = spot.region.bytes[spot.offset]? := by
  obtain ⟨hregion, hoffset⟩ := region?_of_spot? hspot
  have hstart : spot.region.start.toNat ≤ a.value.toNat := by omega
  rw [shown, hregion, Option.bind_some, Region.byte?, if_pos hstart, hoffset,
    Nat.add_sub_cancel_left]

theorem Spot.block_one (spot : Spot) :
    spot.block 1 = spot.region.bytes[spot.offset]?.toList := by
  rw [block, List.take_one, List.head?_drop]

theorem gather_one_eq_ok_iff {bytes : List UInt8} (hlt : a.value.toNat + 1 < 2 ^ 64) :
    s.gather a.value 1 = .ok bytes ↔ (s.shown a).map ([·]) = some bytes := by
  cases hspot : s.spot? a.value with
  | none =>
      rw [shown_of_spot?_none hspot, gather_of_gap Nat.one_ne_zero hspot]
      exact iff_of_false nofun nofun
  | some spot =>
      have hinside := spot.inside
      have hblock : spot.block 1 = [spot.region.bytes[spot.offset]] := by
        rw [spot.block_one, List.getElem?_eq_getElem spot.inside, Option.toList_some]
      have hgather := gather_of_spot? Nat.one_ne_zero hspot (by rw [hblock]; exact hlt)
      rw [hblock, List.length_singleton, Nat.sub_self, gather_zero] at hgather
      rw [hgather, shown_of_spot? hspot, List.getElem?_eq_getElem spot.inside, Option.map_some,
        Except.map, List.append_nil, Except.ok.injEq, Option.some.injEq]

theorem read_one_eq_ok_iff (hlt : a.value.toNat + 1 < 2 ^ 64) :
    s.read ⟨a, 1⟩ = .ok #v[b] ↔ s.shown a = some b := by
  rw [read_eq_ok_iff, gather_one_eq_ok_iff hlt, Option.map_eq_some_iff]
  constructor
  · rintro ⟨_, hshown, hb⟩
    obtain rfl := List.singleton_inj.1 hb
    exact hshown
  · intro hshown
    exact ⟨b, hshown, rfl⟩

/-! ## Cutting a read in two -/

theorem read_at_eq_ok_iff {block : Vector UInt8 length} :
    s.read ⟨a, length⟩ = .ok block ↔ s.gather a.value length = .ok block.toList :=
  read_eq_ok_iff

theorem Composes.hidesNothing (composes : s.Composes) : s.HidesNothing := by
  intro r hr a b hlt hb
  obtain ⟨hstart, hend⟩ := Region.exists_byte?_iff.1 ⟨b, hb⟩
  obtain ⟨i, hi⟩ := Nat.exists_eq_add_of_le hstart
  have hcut : r.start.toNat + i + 1 < 2 ^ 64 := by omega
  have hplace : a = Address.add ⟨r.start⟩ i.toUInt64 := by
    have hvalue := Address.toNat_add_of_lt (a := ⟨r.start⟩) (Nat.lt_of_succ_lt hcut)
    exact congrArg Address.mk (UInt64.toNat_inj.1 (hi.trans hvalue.symm))
  have hinside : i < r.bytes.length := by omega
  rw [Region.byte?, if_pos hstart, hi, Nat.add_sub_cancel_left] at hb
  -- The region is read up to the byte, and this read is cut in front of the byte.
  have hwhole : s.gather r.start (i + 1) = .ok (r.bytes.take i ++ [b]) := by
    rw [gather_of_mem hr hinside hcut, List.take_add_one, hb, Option.toList_some]
  obtain ⟨block, hblock, hbytes⟩ := exists_read_of_ok (q := ⟨⟨r.start⟩, i + 1⟩) hwhole
  obtain ⟨front, back, -, hback, rfl⟩ := (composes ⟨r.start⟩ i 1 hcut block).1 hblock
  have hsplit : front.toList ++ back.toList = r.bytes.take i ++ [b] := by
    rw [← Vector.toList_append]
    exact hbytes
  have hlast : back.toList = [b] := by
    refine List.append_inj_right hsplit ?_
    rw [Vector.length_toList, List.length_take_of_le (Nat.le_of_lt hinside)]
  rw [← hplace] at hback
  rw [hback]
  exact congrArg _ (Vector.toList_inj.1 hlast)

theorem HidesNothing.gather_eq_ok_iff (h : s.HidesNothing) {bytes : List UInt8}
    (hlt : a.value.toNat + length < 2 ^ 64) :
    s.gather a.value length = .ok bytes ↔ s.shown.bytes? a length = some bytes := by
  refine gather_eq_ok_iff_of_blocks (fun _ => shown_of_spot?_none)
    (fun a spot length hspot hlt => ?_) hlt
  obtain ⟨hregion, hoffset⟩ := region?_of_spot? hspot
  refine ByteMap.bytes?_eq_some_iff.2 ⟨rfl, fun i hi => ?_⟩
  have hblock := spot.length_block length
  have hbelow : (a.add i.toUInt64).value.toNat + 1 < 2 ^ 64 := by
    rw [Address.toNat_add_of_lt (by omega)]
    omega
  apply (read_one_eq_ok_iff hbelow).1
  refine h spot.region (region?_eq_some_iff.1 hregion).1 _ _ hbelow ?_
  rw [Region.byte?_add hoffset (by omega), ← List.getElem?_eq_getElem hi,
    spot.getElem?_block (by omega)]

theorem HidesNothing.composes (h : s.HidesNothing) : s.Composes := by
  intro a n m hlt block
  have hbehind : (a.add n.toUInt64).value.toNat = a.value.toNat + n :=
    Address.toNat_add_of_lt (by omega)
  rw [read_at_eq_ok_iff, h.gather_eq_ok_iff (by omega), ByteMap.bytes?_add_eq_some_iff]
  simp only [← h.gather_eq_ok_iff (show a.value.toNat + n < 2 ^ 64 by omega),
    ← h.gather_eq_ok_iff (show (a.add n.toUInt64).value.toNat + m < 2 ^ 64 by omega)]
  constructor
  · rintro ⟨front, back, hfront, hback, hsplit⟩
    obtain ⟨front, hread, rfl⟩ := exists_read_of_ok (q := ⟨a, n⟩) hfront
    obtain ⟨back, hread', rfl⟩ := exists_read_of_ok (q := ⟨a.add n.toUInt64, m⟩) hback
    refine ⟨front, back, hread, hread', Vector.toList_inj.1 ?_⟩
    rw [Vector.toList_append, hsplit]
  · rintro ⟨front, back, hfront, hback, rfl⟩
    exact ⟨_, _, read_at_eq_ok_iff.1 hfront, read_at_eq_ok_iff.1 hback, Vector.toList_append.symm⟩

/-! ## Regions that keep apart -/

theorem Apart.hidesNothing (apart : s.Apart) : s.HidesNothing := by
  intro r hr a b hlt hb
  have hcontains : r.Contains a := Region.exists_byte?_iff.1 ⟨b, hb⟩
  apply (read_one_eq_ok_iff hlt).2
  exact shown_eq_some_iff.2 ⟨r, apart.region?_of_contains hr hcontains, hb⟩

theorem agreesOn_patched (s : Snapshot) (a : Address) (bytes : List UInt8) :
    s.AgreesOn (fun _ => False) (s.patched a bytes) := by
  rw [patched]
  cases hpatch : s.patch a bytes with
  | error f => exact .refl _ s
  | ok t => exact (fills_of_patch hpatch).agreesOn.mono fun _ => False.elim

/-- Captured memory that was empty at first.  Regions came to it that kept apart from those before
them, and whatever was written was written. -/
inductive BuiltApart : Snapshot → Prop
  | empty : BuiltApart empty
  | insert {s : Snapshot} (built : BuiltApart s) (start : Address) (bytes : List UInt8)
      (apart : (s.insert start bytes).Apart) : BuiltApart (s.insert start bytes)
  | patch {s : Snapshot} (built : BuiltApart s) (a : Address) (bytes : List UInt8) :
      BuiltApart (s.patched a bytes)

theorem BuiltApart.apart (built : BuiltApart s) : s.Apart := by
  induction built with
  | empty => exact nofun
  | insert _ _ _ apart => exact apart
  | patch _ a bytes ih => exact (agreesOn_patched _ a bytes).apart ih

/-- Reads can be cut anywhere exactly if no region hides a byte of another one.  This is so after
any inserts and patches as long as every inserted region keeps apart from those that are there. -/
theorem reads_compose_iff (s : Snapshot) :
    (s.Composes ↔ s.HidesNothing) ∧ (BuiltApart s → s.Composes) :=
  ⟨⟨Composes.hidesNothing, HidesNothing.composes⟩, fun built => built.apart.hidesNothing.composes⟩

/-- Regions side by side, and a write over the seam. -/
theorem reads_compose_iff_sideBySide :
    BuiltApart (sideBySide.patched ⟨0x1001⟩ [21, 22]) ∧
      Composes (sideBySide.patched ⟨0x1001⟩ [21, 22]) := by
  have hfirst : BuiltApart (empty.insert ⟨0x1000⟩ [1, 2]) := .insert .empty _ _ (by decide)
  have hsecond := hfirst.insert ⟨0x1002⟩ [3, 4] (by decide)
  have hthird := hsecond.insert ⟨0x0fff⟩ [] (by decide)
  have hall : BuiltApart sideBySide := hthird.insert ⟨0x1004⟩ [] (by decide)
  have hbuilt := hall.patch ⟨0x1001⟩ [21, 22]
  exact ⟨hbuilt, (reads_compose_iff _).2 hbuilt⟩

/-- A region, and another one that starts and ends inside it. -/
def covering : Snapshot :=
  (empty.insert ⟨0x1000⟩ [1, 2, 3, 4]).insert ⟨0x1001⟩ [5]

/-- The whole of the first region can be read, but its last two bytes alone cannot, and the second
byte alone is another one. -/
theorem read_inside_covering_region_lost :
    covering.read ⟨⟨0x1000⟩, 4⟩ = .ok #v[1, 2, 3, 4] ∧
      covering.read ⟨⟨0x1000⟩, 2⟩ = .ok #v[1, 2] ∧
      covering.read ⟨⟨0x1002⟩, 2⟩ = .error (.failed (.unreadable ⟨0x1002⟩ 2)) ∧
      covering.read ⟨⟨0x1001⟩, 1⟩ = .ok #v[5] ∧ ¬ covering.Composes := by
  have hwhole : covering.read ⟨⟨0x1000⟩, 4⟩ = .ok #v[1, 2, 3, 4] :=
    read_eq_ok_iff.2 (by decide +kernel)
  have hgap : covering.gather 0x1002 2 = .error .gap := by decide +kernel
  have hback : covering.read ⟨⟨0x1002⟩, 2⟩ = .error (.failed (.unreadable ⟨0x1002⟩ 2)) :=
    read_of_error (q := ⟨⟨0x1002⟩, 2⟩) hgap
  refine ⟨hwhole, read_eq_ok_iff.2 (by decide +kernel), hback, read_eq_ok_iff.2 (by decide +kernel),
    fun composes => ?_⟩
  obtain ⟨-, back, -, hok, -⟩ := (composes ⟨0x1000⟩ 2 2 (by decide) #v[1, 2, 3, 4]).1 hwhole
  cases hback.symm.trans hok

end ObjectView.Memory.Snapshot
