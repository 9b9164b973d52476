import ObjectView.Proofs.Memory.Patch

/-!
# Ranges past the top

The cursor of a read or a write is a word, and it is moved on behind every block, the last one
included.  Where a block ends at the top or behind it, the cursor does not fit any more, and the
program stops.  So no range that reaches the top is read or written, and none goes on at null: it
is refused where a byte in front of the top is missing, and otherwise the program stops.  Below the
top the cursor always fits, behind the last block too.
-/

namespace ObjectView.Memory.Snapshot

variable {s : Snapshot} {t? : Option Snapshot} {r : Region} {spot : Spot} {cursor : UInt64}
  {length : Nat} {bytes : List UInt8} {q : Request} {a : Address} {f : Fault}

/-! ## Passes of the loops -/

/-- A pass of a loop: where the cursor stands, and how many bytes it is moved on by. -/
structure Pass where
  cursor : UInt64
  count : Nat

/-- Where the cursor stands behind a pass. -/
def Pass.next (p : Pass) : UInt64 :=
  p.cursor + p.count.toUInt64

/-- The passes of a read, and what comes of it. -/
inductive Gathers (s : Snapshot) :
    UInt64 → Nat → List Pass → Except Stop (List UInt8) → Prop
  | done (cursor : UInt64) : Gathers s cursor 0 [] (.ok [])
  | gap {cursor : UInt64} {length : Nat} (left : length ≠ 0) (nowhere : s.spot? cursor = none) :
      Gathers s cursor length [] (.error .gap)
  | overflow {cursor : UInt64} {length : Nat} {spot : Spot} (left : length ≠ 0)
      (inside : s.spot? cursor = some spot)
      (above : 2 ^ 64 ≤ cursor.toNat + (spot.block length).length) :
      Gathers s cursor length [] (.error .overflow)
  | pass {cursor : UInt64} {length : Nat} {spot : Spot} {passes : List Pass}
      {found : Except Stop (List UInt8)} (left : length ≠ 0) (inside : s.spot? cursor = some spot)
      (fits : cursor.toNat + (spot.block length).length < 2 ^ 64)
      (next : Gathers s (cursor + (spot.block length).length.toUInt64)
        (length - (spot.block length).length) passes found) :
      Gathers s cursor length (⟨cursor, (spot.block length).length⟩ :: passes)
        (found.map (spot.block length ++ ·))

/-- The passes of a write, and the snapshot behind it, if the cursor fits to its end. -/
inductive Stores : Snapshot → UInt64 → List UInt8 → List Pass → Option Snapshot → Prop
  | done (s : Snapshot) (cursor : UInt64) : Stores s cursor [] [] (some s)
  | gap {s : Snapshot} {cursor : UInt64} {bytes : List UInt8} (left : bytes ≠ [])
      (nowhere : s.spot? cursor = none) : Stores s cursor bytes [] (some s)
  | overflow {s : Snapshot} {cursor : UInt64} {spot : Spot} {chunk rest : List UInt8}
      (inside : s.spot? cursor = some spot) (nonempty : chunk ≠ [])
      (whole : chunk.length =
        min (spot.region.bytes.length - spot.offset) (chunk ++ rest).length)
      (above : 2 ^ 64 ≤ cursor.toNat + chunk.length) : Stores s cursor (chunk ++ rest) [] none
  | pass {s : Snapshot} {t? : Option Snapshot} {cursor : UInt64} {spot : Spot}
      {chunk rest : List UInt8} {passes : List Pass} (inside : s.spot? cursor = some spot)
      (nonempty : chunk ≠ [])
      (whole : chunk.length =
        min (spot.region.bytes.length - spot.offset) (chunk ++ rest).length)
      (fits : cursor.toNat + chunk.length < 2 ^ 64)
      (next : Stores (s.overwriteAt spot chunk) (cursor + chunk.length.toUInt64) rest passes t?) :
      Stores s cursor (chunk ++ rest) (⟨cursor, chunk.length⟩ :: passes) t?

theorem exists_gathers (s : Snapshot) (cursor : UInt64) (length : Nat) :
    ∃ passes, s.Gathers cursor length passes (s.gather cursor length) := by
  induction length using Nat.strongRecOn generalizing cursor with
  | ind length ih =>
  by_cases hlength : length = 0
  · subst hlength
    rw [gather_zero]
    exact ⟨[], .done cursor⟩
  cases hspot : s.spot? cursor with
  | none =>
      rw [gather_of_gap hlength hspot]
      exact ⟨[], .gap hlength hspot⟩
  | some spot =>
      rcases Nat.lt_or_ge (cursor.toNat + (spot.block length).length) (2 ^ 64) with hfits | hge
      · have hinside := spot.inside
        have hblock := spot.length_block length
        obtain ⟨passes, hnext⟩ := ih (length - (spot.block length).length) (by omega)
          (cursor + (spot.block length).length.toUInt64)
        rw [gather_of_spot? hlength hspot hfits]
        exact ⟨_, .pass hlength hspot hfits hnext⟩
      · rw [gather_of_top hlength hspot hge]
        exact ⟨[], .overflow hlength hspot hge⟩

theorem exists_stores (s : Snapshot) (cursor : UInt64) (bytes : List UInt8) :
    ∃ passes, s.Stores cursor bytes passes (s.write? cursor bytes) := by
  generalize hlength : bytes.length = length
  induction length using Nat.strongRecOn generalizing s cursor bytes with
  | ind length ih =>
  by_cases hbytes : bytes = []
  · subst hbytes
    rw [write?_nil]
    exact ⟨[], .done s cursor⟩
  cases hspot : s.spot? cursor with
  | none =>
      rw [write?_of_gap hbytes hspot]
      exact ⟨[], .gap hbytes hspot⟩
  | some spot =>
      obtain ⟨chunk, rest, rfl, hnonempty, hwhole, hwrite⟩ := write?_of_spot? hbytes hspot
      rw [hwrite]
      split
      next hfits =>
        have hpos := List.length_pos_iff.2 hnonempty
        rw [List.length_append] at hlength
        obtain ⟨passes, hnext⟩ := ih rest.length (by omega) (s.overwriteAt spot chunk)
          (cursor + chunk.length.toUInt64) rest rfl
        exact ⟨_, .pass hspot hnonempty hwhole hfits hnext⟩
      next hge => exact ⟨[], .overflow hspot hnonempty hwhole (Nat.not_lt.1 hge)⟩

/-- The cursor is moved on from pass to pass, by `length` at most, and fits behind each. -/
inductive Advances : UInt64 → Nat → List Pass → Prop
  | stop (cursor : UInt64) (length : Nat) : Advances cursor length []
  | pass {cursor : UInt64} {length count : Nat} {passes : List Pass} (le : count ≤ length)
      (fits : cursor.toNat + count < 2 ^ 64)
      (next : Advances (cursor + count.toUInt64) (length - count) passes) :
      Advances cursor length (⟨cursor, count⟩ :: passes)

theorem Gathers.advances {passes : List Pass} {found : Except Stop (List UInt8)}
    (h : s.Gathers cursor length passes found) : Advances cursor length passes := by
  induction h with
  | done cursor => exact .stop cursor 0
  | gap => exact .stop _ _
  | overflow => exact .stop _ _
  | pass _ _ fits _ ih => exact .pass (List.length_take_le _ _) fits ih

theorem Stores.advances {passes : List Pass} (h : s.Stores cursor bytes passes t?) :
    Advances cursor bytes.length passes := by
  induction h with
  | done s cursor => exact .stop cursor 0
  | gap => exact .stop _ _
  | overflow => exact .stop _ _
  | pass _ _ _ fits _ ih =>
      rw [List.length_append]
      refine .pass (Nat.le_add_right _ _) fits ?_
      rwa [Nat.add_sub_cancel_left]

/-- A pass stays in a range: the cursor stands in it, and behind the pass in it or at its end, as a
number too. -/
structure Pass.StaysIn (p : Pass) (low high : Nat) : Prop where
  le : low ≤ p.cursor.toNat
  next_eq : p.next.toNat = p.cursor.toNat + p.count
  next_le : p.next.toNat ≤ high

theorem Advances.staysIn {passes : List Pass} (h : Advances cursor length passes) :
    ∀ p ∈ passes, p.StaysIn cursor.toNat (cursor.toNat + length) := by
  induction h with
  | stop => exact List.forall_mem_nil _
  | @pass cursor length count passes le fits _ ih =>
      have hnext : (Pass.mk cursor count).next.toNat = cursor.toNat + count := toNat_cursor_add fits
      refine List.forall_mem_cons.2 ⟨⟨Nat.le_refl _, hnext, by omega⟩, fun p hp => ?_⟩
      have hrest := ih p hp
      rw [toNat_cursor_add fits] at hrest
      exact ⟨Nat.le_of_add_right_le hrest.le, hrest.next_eq, by have := hrest.next_le; omega⟩

/-! ## Where the cursor does not fit -/

/-- No region reaches the top. -/
def EndsBelowTop (s : Snapshot) : Prop :=
  ∀ r ∈ s.regions, r.start.toNat + r.bytes.length < 2 ^ 64

theorem toNat_add_length_block_le (hspot : s.spot? cursor = some spot) (length : Nat) :
    cursor.toNat + (spot.block length).length ≤
      spot.region.start.toNat + spot.region.bytes.length := by
  have hoffset := (region?_of_spot? hspot).2
  have hinside := spot.inside
  have hblock := spot.length_block length
  omega

theorem mem_of_spot? (hspot : s.spot? cursor = some spot) : spot.region ∈ s.regions :=
  (region?_eq_some_iff.1 (region?_of_spot? hspot).1).1

theorem EndsBelowTop.gather_ne_overflow (below : s.EndsBelowTop) :
    s.gather cursor length ≠ .error .overflow := by
  fun_induction gather s cursor length with
  | case1 =>
      intro h
      cases h
  | case2 =>
      intro h
      cases h
  | case3 cursor length _ spot _ block hfits ih => exact fun h => ih (map_eq_error_iff.1 h)
  | case4 cursor length _ spot hspot block hge =>
      have hend := toNat_add_length_block_le hspot length
      have hbelow := below _ (mem_of_spot? hspot)
      exact absurd (Nat.lt_of_le_of_lt hend hbelow) hge

theorem read_of_mem_at_top (hr : r ∈ s.regions) (htop : 2 ^ 64 ≤ r.start.toNat + r.bytes.length)
    (more : Nat) : s.read ⟨⟨r.start⟩, r.bytes.length + more⟩ = .error .panicked := by
  have hstart := r.start.toNat_lt
  have hpos : 0 < r.bytes.length := by omega
  have hregion : s.region? r.start = some r :=
    region?_eq_some_iff.2 ⟨hr, UInt64.le_refl _, fun _ _ hx => hx⟩
  have hspot := spot?_of_region? hregion (Nat.add_zero _).symm hpos
  have hblock : (Spot.block ⟨r, 0, hpos⟩ (r.bytes.length + more)).length = r.bytes.length := by
    rw [Spot.length_block]
    exact Nat.min_eq_left (Nat.le_add_right _ _)
  have hleft : r.bytes.length + more ≠ 0 := by omega
  exact read_of_error (q := ⟨⟨r.start⟩, r.bytes.length + more⟩)
    (gather_of_top hleft hspot (by rwa [hblock]))

/-- A range that reaches the top is refused, or the program stops. -/
theorem read_of_ge (hge : 2 ^ 64 ≤ q.address.value.toNat + q.length) :
    s.read q = .error (.failed (.unreadable q.address q.length)) ∨
      s.read q = .error .panicked := by
  cases hgather : s.gather q.address.value q.length with
  | ok bytes =>
      have hlt := lt_of_gather_eq_ok hgather
      omega
  | error stop =>
      have hread := read_of_error hgather
      cases stop with
      | gap => exact .inl hread
      | overflow => exact .inr hread

theorem endsBelowTop_iff :
    (∀ q : Request, 2 ^ 64 < q.address.value.toNat + q.length →
        s.read q = .error (.failed (.unreadable q.address q.length))) ↔ s.EndsBelowTop := by
  constructor
  · intro h r hr
    by_contra htop
    have hread := h ⟨⟨r.start⟩, r.bytes.length + 1⟩
      (show _ < r.start.toNat + (r.bytes.length + 1) by omega)
    cases hread.symm.trans (read_of_mem_at_top hr (Nat.not_lt.1 htop) 1)
  · intro below q habove
    refine (read_of_ge (Nat.le_of_lt habove)).resolve_right fun hpanic => ?_
    cases hgather : s.gather q.address.value q.length with
    | ok bytes =>
        have hlt := lt_of_gather_eq_ok hgather
        omega
    | error stop =>
        cases stop with
        | gap => cases hpanic.symm.trans (read_of_error hgather)
        | overflow => exact below.gather_ne_overflow hgather

/-- Where regions keep apart, the cursor comes to the top if all bytes up to it are in regions. -/
theorem Apart.gather_eq_overflow_iff (apart : s.Apart) :
    s.gather cursor length = .error .overflow ↔
      2 ^ 64 ≤ cursor.toNat + length ∧
        ∀ x : Address, cursor.toNat ≤ x.value.toNat → ∃ r ∈ s.regions, r.Contains x := by
  fun_induction gather s cursor length with
  | case1 cursor =>
      have hcursor := cursor.toNat_lt
      exact iff_of_false (fun h => by cases h) fun h => by omega
  | case2 cursor length _ hspot =>
      refine iff_of_false (fun h => by cases h) fun h => ?_
      obtain ⟨b, hb⟩ := apart.exists_byteMap_iff.2 (h.2 ⟨cursor⟩ (Nat.le_refl _))
      cases (apart.byteMap_of_spot?_none (a := ⟨cursor⟩) hspot).symm.trans hb
  | case3 cursor length _ spot hspot block hfits =>
      rename_i ih
      have hblock : block.length ≤ length := List.length_take_le _ _
      have hoffset := (region?_of_spot? hspot).2
      have hend := toNat_add_length_block_le hspot length
      rw [map_eq_error_iff, ih, toNat_cursor_add hfits, Nat.add_assoc, Nat.add_sub_of_le hblock]
      refine and_congr_right fun _ => ⟨fun h x hx => ?_, fun h x hx => h x (by omega)⟩
      rcases Nat.lt_or_ge x.value.toNat (cursor.toNat + block.length) with hfirst | hbehind
      · exact ⟨spot.region, mem_of_spot? hspot, by omega, Nat.lt_of_lt_of_le hfirst hend⟩
      · exact h x hbehind
  | case4 cursor length _ spot hspot block habove =>
      have hge : 2 ^ 64 ≤ cursor.toNat + block.length := Nat.not_lt.1 habove
      have hblock : block.length ≤ length := List.length_take_le _ _
      have hoffset := (region?_of_spot? hspot).2
      have hend : cursor.toNat + block.length ≤ _ := toNat_add_length_block_le hspot length
      refine iff_of_true rfl ⟨by omega, fun x hx => ⟨spot.region, mem_of_spot? hspot, ?_⟩⟩
      have hx' := x.value.toNat_lt
      exact ⟨by omega, by omega⟩

theorem read_eq_panicked_iff :
    s.read q = .error .panicked ↔ s.gather q.address.value q.length = .error .overflow := by
  refine ⟨fun h => ?_, read_of_error⟩
  cases hgather : s.gather q.address.value q.length with
  | ok bytes =>
      obtain ⟨block, hblock, -⟩ := exists_read_of_ok hgather
      cases h.symm.trans hblock
  | error stop =>
      cases stop with
      | gap => cases h.symm.trans (read_of_error hgather)
      | overflow => rfl

/-- No range that reaches the top is read or written: it is refused or the program stops, and the
snapshot stays as it is.  All ranges past the top are refused exactly if no region reaches the top.
Where regions keep apart, the program stops exactly for the ranges up to or past the top all of
whose bytes in front of the top are there.  Below the top it never does: each pass of a read or a
write stays in the range, and the cursor behind it too. -/
theorem past_top_refused_iff (s : Snapshot) :
    ((∀ q : Request, 2 ^ 64 < q.address.value.toNat + q.length →
        s.read q = .error (.failed (.unreadable q.address q.length))) ↔ s.EndsBelowTop) ∧
      ((∀ (a : Address) (bytes : List UInt8), 2 ^ 64 < a.value.toNat + bytes.length →
          s.patch a bytes = .error (.failed (.unreadable a bytes.length))) ↔ s.EndsBelowTop) ∧
      (∀ q : Request, 2 ^ 64 ≤ q.address.value.toNat + q.length →
        (s.read q = .error (.failed (.unreadable q.address q.length)) ∨
            s.read q = .error .panicked) ∧
          (s.Apart → (s.read q = .error .panicked ↔
            ∀ x : Address, q.address.value.toNat ≤ x.value.toNat →
              ∃ r ∈ s.regions, r.Contains x))) ∧
      (∀ (a : Address) (bytes : List UInt8),
        (∀ f, s.patch a bytes = .error f ↔ s.read ⟨a, bytes.length⟩ = .error f) ∧
          (2 ^ 64 ≤ a.value.toNat + bytes.length → s.patched a bytes = s)) ∧
      (∀ (a : Address) (length : Nat), a.value.toNat + length < 2 ^ 64 →
        s.read ⟨a, length⟩ ≠ .error .panicked ∧
          ∃ passes, s.Gathers a.value length passes (s.gather a.value length) ∧
            ∀ p ∈ passes, p.StaysIn a.value.toNat (a.value.toNat + length)) ∧
      ∀ (a : Address) (bytes : List UInt8), a.value.toNat + bytes.length < 2 ^ 64 →
        s.patch a bytes ≠ .error .panicked ∧
          ∃ passes, s.Stores a.value bytes passes (s.write? a.value bytes) ∧
            ∀ p ∈ passes, p.StaysIn a.value.toNat (a.value.toNat + bytes.length) := by
  refine ⟨endsBelowTop_iff, ?_, fun q hge => ⟨read_of_ge hge, fun apart => ?_⟩,
    fun a bytes => ⟨fun f => patch_eq_error_iff, fun hge => ?_⟩, fun a length hlt => ⟨?_, ?_⟩,
    fun a bytes hlt => ⟨?_, ?_⟩⟩
  · rw [← endsBelowTop_iff]
    simp only [patch_eq_error_iff]
    refine ⟨fun h q habove => ?_, fun h a bytes => h ⟨a, bytes.length⟩⟩
    have hread := h q.address (List.replicate q.length 0)
    rw [List.length_replicate] at hread
    exact hread habove
  · rw [read_eq_panicked_iff, apart.gather_eq_overflow_iff, and_iff_right hge]
  · cases hpatch : s.patch a bytes with
    | error f => rw [patched, hpatch]
    | ok t =>
        obtain ⟨⟨old, hold⟩, -⟩ := patch_eq_ok_iff.1 hpatch
        have hlt := lt_of_gather_eq_ok hold
        omega
  · exact fun hpanic => gather_ne_overflow hlt (read_eq_panicked_iff.1 hpanic)
  · obtain ⟨passes, hpasses⟩ := s.exists_gathers a.value length
    exact ⟨passes, hpasses, hpasses.advances.staysIn⟩
  · intro hpanic
    exact gather_ne_overflow hlt (read_eq_panicked_iff.1 (patch_eq_error_iff.1 hpanic))
  · obtain ⟨passes, hpasses⟩ := s.exists_stores a.value bytes
    exact ⟨passes, hpasses, hpasses.advances.staysIn⟩

/-- A region of the last eight bytes, and one of the first eight. -/
def aroundTop : Snapshot :=
  (empty.insert ⟨0xfffffffffffffff8⟩ [1, 2, 3, 4, 5, 6, 7, 8]).insert ⟨0⟩
    [17, 18, 19, 20, 21, 22, 23, 24]

/-- A read of sixteen bytes at the last eight makes the program stop, and so do a write, and a read
of these eight bytes alone. -/
theorem read_panics_at_top :
    2 ^ 64 < (0xfffffffffffffff8 : UInt64).toNat + 16 ∧
      aroundTop.read ⟨⟨0xfffffffffffffff8⟩, 16⟩ = .error .panicked ∧
      aroundTop.patch ⟨0xfffffffffffffff8⟩ (List.replicate 16 0) = .error .panicked ∧
      aroundTop.read ⟨⟨0xfffffffffffffff8⟩, 8⟩ = .error .panicked := by
  have hread : aroundTop.read ⟨⟨0xfffffffffffffff8⟩, 16⟩ = .error .panicked :=
    read_eq_panicked_iff.2 (by decide +kernel)
  exact ⟨by decide, hread, patch_eq_error_iff.2 hread, read_eq_panicked_iff.2 (by decide +kernel)⟩

end ObjectView.Memory.Snapshot
