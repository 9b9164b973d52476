import Mathlib.Data.List.Forall2
import ObjectView.Proofs.Memory.Regions

/-!
# Writing into captured memory

A patch is taken as a whole or not at all.  The regions may reach into one another: a write changes
the bytes of a region only at addresses of its own range, and it never changes where the regions
start and how long they are, which alone decides where a read goes.  So the passes of a write go
through the regions that a read goes through, and each leaves alone what was written before it.
-/

namespace ObjectView.Memory

namespace Region

/-- Two regions of one shape, with the same bytes at the addresses that are kept. -/
structure AgreesOn (kept : Nat → Prop) (r r' : Region) : Prop where
  start : r'.start = r.start
  length : r'.bytes.length = r.bytes.length
  bytes : ∀ i, kept (r.start.toNat + i) → r'.bytes[i]? = r.bytes[i]?

namespace AgreesOn

variable {kept kept' : Nat → Prop} {r r' r'' : Region}

theorem refl (kept : Nat → Prop) (r : Region) : r.AgreesOn kept r :=
  ⟨rfl, rfl, fun _ _ => rfl⟩

theorem symm (h : r.AgreesOn kept r') : r'.AgreesOn kept r := by
  refine ⟨h.start.symm, h.length.symm, fun i hi => (h.bytes i ?_).symm⟩
  rwa [h.start] at hi

theorem trans (h : r.AgreesOn kept r') (h' : r'.AgreesOn kept r'') : r.AgreesOn kept r'' := by
  refine ⟨h'.start.trans h.start, h'.length.trans h.length, fun i hi => ?_⟩
  have hi' : kept (r'.start.toNat + i) := by rwa [h.start]
  rw [h'.bytes i hi', h.bytes i hi]

theorem mono (h : r.AgreesOn kept r') (fewer : ∀ x, kept' x → kept x) : r.AgreesOn kept' r' :=
  ⟨h.start, h.length, fun i hi => h.bytes i (fewer _ hi)⟩

end AgreesOn

end Region

namespace Snapshot

variable {s t : Snapshot} {r r' : Region} {spot : Spot} {cursor : UInt64} {length : Nat}
  {bytes chunk rest : List UInt8} {stop : Stop}

/-! ## Passes of a read -/

theorem gather_zero (s : Snapshot) (cursor : UInt64) : s.gather cursor 0 = .ok [] := by
  rw [gather, dif_pos rfl]

theorem gather_of_gap (hlength : length ≠ 0) (hspot : s.spot? cursor = none) :
    s.gather cursor length = .error .gap := by
  rw [gather, dif_neg hlength]
  simp only [hspot]

theorem gather_of_spot? (hlength : length ≠ 0) (hspot : s.spot? cursor = some spot)
    (hfits : cursor.toNat + (spot.block length).length < 2 ^ 64) :
    s.gather cursor length =
      (s.gather (cursor + (spot.block length).length.toUInt64)
        (length - (spot.block length).length)).map (spot.block length ++ ·) := by
  rw [gather, dif_neg hlength]
  simp only [hspot]
  exact if_pos hfits

theorem gather_of_top (hlength : length ≠ 0) (hspot : s.spot? cursor = some spot)
    (hge : 2 ^ 64 ≤ cursor.toNat + (spot.block length).length) :
    s.gather cursor length = .error .overflow := by
  rw [gather, dif_neg hlength]
  simp only [hspot]
  exact if_neg (Nat.not_lt.2 hge)

/-- What is read begins with a block of the region that answers for the cursor. -/
theorem exists_of_gather_eq_ok (hlength : length ≠ 0) (h : s.gather cursor length = .ok bytes) :
    ∃ spot rest, s.spot? cursor = some spot ∧
      cursor.toNat + (spot.block length).length < 2 ^ 64 ∧
      s.gather (cursor + (spot.block length).length.toUInt64)
        (length - (spot.block length).length) = .ok rest ∧
      spot.block length ++ rest = bytes := by
  cases hspot : s.spot? cursor with
  | none =>
      rw [gather_of_gap hlength hspot] at h
      cases h
  | some spot =>
      rcases Nat.lt_or_ge (cursor.toNat + (spot.block length).length) (2 ^ 64) with hfits | hge
      · rw [gather_of_spot? hlength hspot hfits, map_eq_ok_iff] at h
        obtain ⟨rest, hrest, hbytes⟩ := h
        exact ⟨spot, rest, rfl, hfits, hrest, hbytes⟩
      · rw [gather_of_top hlength hspot hge] at h
        cases h

/-- A read that goes through ends below the top. -/
theorem lt_of_gather_eq_ok (h : s.gather cursor length = .ok bytes) :
    cursor.toNat + length < 2 ^ 64 := by
  fun_induction gather s cursor length generalizing bytes with
  | case1 cursor => exact cursor.toNat_lt
  | case2 => cases h
  | case3 cursor length _ spot _ block hfits =>
      rename_i ih
      obtain ⟨rest, hrest, -⟩ := map_eq_ok_iff.1 h
      have hblock : block.length ≤ length := List.length_take_le _ _
      have hlt := ih hrest
      rw [toNat_cursor_add hfits] at hlt
      omega
  | case4 => cases h

/-- The beginning of a region can be read, whatever starts inside the region. -/
theorem gather_of_mem (hr : r ∈ s.regions) (hlength : length ≤ r.bytes.length)
    (hfits : r.start.toNat + length < 2 ^ 64) :
    s.gather r.start length = .ok (r.bytes.take length) := by
  by_cases hzero : length = 0
  · rw [hzero, gather_zero, List.take_zero]
  have hregion : s.region? r.start = some r :=
    region?_eq_some_iff.2 ⟨hr, UInt64.le_refl _, fun _ _ hx => hx⟩
  have hspot := spot?_of_region? hregion (Nat.add_zero _).symm (by omega)
  have hblock : Spot.block ⟨r, 0, by omega⟩ length = r.bytes.take length := by
    rw [Spot.block, List.drop_zero]
  have hcount : (r.bytes.take length).length = length := List.length_take_of_le hlength
  rw [gather_of_spot? hzero hspot (by rw [hblock, hcount]; exact hfits), hblock, hcount,
    Nat.sub_self, gather_zero, Except.map, List.append_nil]

theorem eq_of_start_eq (hr : r ∈ s.regions) (hr' : r' ∈ s.regions) (h : r.start = r'.start) :
    r = r' := by
  have hfirst : s.region? r.start = some r :=
    region?_eq_some_iff.2 ⟨hr, UInt64.le_refl _, fun _ _ hx => hx⟩
  have hsecond : s.region? r'.start = some r' :=
    region?_eq_some_iff.2 ⟨hr', UInt64.le_refl _, fun _ _ hx => hx⟩
  rw [h, hsecond] at hfirst
  exact (Option.some.inj hfirst).symm

/-! ## Snapshots of one shape -/

/-- Two snapshots have the same regions, with the same bytes at the addresses that are kept. -/
def AgreesOn (kept : Nat → Prop) (s t : Snapshot) : Prop :=
  s.regions.Forall₂ (Region.AgreesOn kept) t.regions

namespace AgreesOn

variable {kept kept' : Nat → Prop} {u : Snapshot}

theorem refl (kept : Nat → Prop) (s : Snapshot) : s.AgreesOn kept s :=
  List.forall₂_same.2 fun r _ => .refl kept r

theorem symm (h : s.AgreesOn kept t) : t.AgreesOn kept s :=
  (h.imp fun _ _ hr => hr.symm).flip

theorem mono (h : s.AgreesOn kept t) (fewer : ∀ x, kept' x → kept x) : s.AgreesOn kept' t :=
  h.imp fun _ _ hr => hr.mono fewer

theorem trans (h : s.AgreesOn kept t) (h' : t.AgreesOn kept u) : s.AgreesOn kept u := by
  unfold AgreesOn at h h' ⊢
  generalize s.regions = first, t.regions = second, u.regions = third at h h' ⊢
  induction h generalizing third with
  | nil => exact h'
  | cons hr _ ih =>
      rcases h' with _ | ⟨hr', hrest'⟩
      exact .cons (hr.trans hr') (ih _ hrest')

theorem exists_mem (h : s.AgreesOn kept t) (hr : r ∈ s.regions) :
    ∃ r' ∈ t.regions, r.AgreesOn kept r' := by
  unfold AgreesOn at h
  generalize s.regions = first, t.regions = second at h hr ⊢
  induction h with
  | nil => cases hr
  | cons hagrees _ ih =>
      rcases List.mem_cons.1 hr with rfl | hr
      · exact ⟨_, List.mem_cons_self, hagrees⟩
      · obtain ⟨r', hr', hagrees⟩ := ih hr
        exact ⟨r', List.mem_cons_of_mem _ hr', hagrees⟩

theorem shapes_eq (h : s.AgreesOn kept t) :
    t.regions.map (fun r => (r.start, r.bytes.length)) =
      s.regions.map (fun r => (r.start, r.bytes.length)) := by
  unfold AgreesOn at h
  generalize s.regions = first, t.regions = second at h ⊢
  induction h with
  | nil => rfl
  | cons hr _ ih => rw [List.map_cons, List.map_cons, ih, hr.start, hr.length]

theorem apart (h : s.AgreesOn kept t) (apart : s.Apart) : t.Apart := by
  intro r hr r' hr' hlt
  obtain ⟨x, hx, hrx⟩ := h.symm.exists_mem hr
  obtain ⟨x', hx', hrx'⟩ := h.symm.exists_mem hr'
  rw [← hrx.start, ← hrx'.start] at hlt
  have hends := apart x hx x' hx' hlt
  rw [hrx.start, hrx.length, hrx'.start] at hends
  exact hends

theorem exists_region? (h : s.AgreesOn kept t) (hr : s.region? cursor = some r) :
    ∃ r', t.region? cursor = some r' ∧ r.AgreesOn kept r' := by
  obtain ⟨hmem, hstart, hlast⟩ := region?_eq_some_iff.1 hr
  obtain ⟨r', hr', hagrees⟩ := h.exists_mem hmem
  have hstart' : r'.start ≤ cursor := by rwa [hagrees.start]
  refine ⟨r', region?_eq_some_iff.2 ⟨hr', hstart', fun y hy hystart => ?_⟩, hagrees⟩
  obtain ⟨x, hx, hxy⟩ := h.symm.exists_mem hy
  rw [← hxy.start] at hystart ⊢
  rw [hagrees.start]
  exact hlast x hx hystart

theorem exists_spot? (h : s.AgreesOn kept t) (hspot : s.spot? cursor = some spot) :
    ∃ spot', t.spot? cursor = some spot' ∧ spot'.offset = spot.offset ∧
      spot.region.AgreesOn kept spot'.region := by
  obtain ⟨hregion, hoffset⟩ := region?_of_spot? hspot
  obtain ⟨r', hregion', hagrees⟩ := h.exists_region? hregion
  have hinside : spot.offset < r'.bytes.length := by
    rw [hagrees.length]
    exact spot.inside
  rw [← hagrees.start] at hoffset
  exact ⟨⟨r', spot.offset, hinside⟩, spot?_of_region? hregion' hoffset hinside, rfl, hagrees⟩

theorem spot?_eq_none (h : s.AgreesOn kept t) (hspot : s.spot? cursor = none) :
    t.spot? cursor = none := by
  apply Option.eq_none_iff_forall_ne_some.2
  intro spot' hspot'
  obtain ⟨spot, hsome, -⟩ := h.symm.exists_spot? hspot'
  cases hspot.symm.trans hsome

theorem exists_spot?_of_block (h : s.AgreesOn kept t) (hspot : s.spot? cursor = some spot)
    (length : Nat) :
    ∃ spot', t.spot? cursor = some spot' ∧
      (spot'.block length).length = (spot.block length).length ∧
      ∀ i < length, kept (cursor.toNat + i) →
        (spot'.block length)[i]? = (spot.block length)[i]? := by
  obtain ⟨spot', hspot', hoffset, hagrees⟩ := h.exists_spot? hspot
  have hstart := (region?_of_spot? hspot).2
  refine ⟨spot', hspot', ?_, fun i hi hkept => ?_⟩
  · rw [Spot.length_block, Spot.length_block, hoffset, hagrees.length]
  · rw [spot'.getElem?_block hi, spot.getElem?_block hi, hoffset]
    apply hagrees.bytes
    rwa [← Nat.add_assoc, ← hstart]

/-- What can be read of one can be read of the other, and the bytes that are kept are the same. -/
theorem exists_gather (h : s.AgreesOn kept t) (hbytes : s.gather cursor length = .ok bytes) :
    ∃ bytes', t.gather cursor length = .ok bytes' ∧
      ∀ i < length, kept (cursor.toNat + i) → bytes'[i]? = bytes[i]? := by
  induction length using Nat.strongRecOn generalizing cursor bytes with
  | ind length ih =>
  by_cases hlength : length = 0
  · subst hlength
    exact ⟨[], gather_zero t cursor, fun i hi => absurd hi (Nat.not_lt_zero i)⟩
  obtain ⟨spot, rest, hspot, hfits, hrest, rfl⟩ := exists_of_gather_eq_ok hlength hbytes
  obtain ⟨spot', hspot', hblock, hsame⟩ := h.exists_spot?_of_block hspot length
  have hinside := spot.inside
  have hcount := spot.length_block length
  obtain ⟨rest', hrest', hrestSame⟩ := ih _ (by omega) hrest
  refine ⟨spot'.block length ++ rest', ?_, fun i hi hkept => ?_⟩
  · rw [gather_of_spot? hlength hspot' (by rwa [hblock]), hblock, hrest', Except.map]
  by_cases hfirst : i < (spot.block length).length
  · rw [List.getElem?_append_left (by omega), List.getElem?_append_left hfirst]
    exact hsame i hi hkept
  · rw [List.getElem?_append_right (by omega), List.getElem?_append_right (by omega), hblock]
    apply hrestSame _ (by omega)
    rw [toNat_cursor_add hfits, Nat.add_assoc, Nat.add_sub_of_le (by omega)]
    exact hkept

theorem gather_eq_error (h : s.AgreesOn kept t) (hstop : s.gather cursor length = .error stop) :
    t.gather cursor length = .error stop := by
  fun_induction gather s cursor length with
  | case1 => cases hstop
  | case2 cursor length hlength hspot =>
      rw [gather_of_gap hlength (h.spot?_eq_none hspot), hstop]
  | case3 cursor length hlength spot hspot block hfits =>
      rename_i ih
      obtain ⟨spot', hspot', hblock, -⟩ := h.exists_spot?_of_block hspot length
      have hrest := ih (map_eq_error_iff.1 hstop)
      rw [gather_of_spot? hlength hspot' (by rwa [hblock]), hblock, map_eq_error_iff]
      exact hrest
  | case4 cursor length hlength spot hspot block hge =>
      obtain ⟨spot', hspot', hblock, -⟩ := h.exists_spot?_of_block hspot length
      rw [gather_of_top hlength hspot' (by rw [hblock]; exact Nat.not_lt.1 hge), hstop]

/-- What is asked for where all bytes are kept is answered in the same way. -/
theorem read_eq (h : s.AgreesOn kept t) {q : Request}
    (hkept : ∀ i < q.length, kept (q.address.value.toNat + i)) : t.read q = s.read q := by
  cases hgather : s.gather q.address.value q.length with
  | error stop => rw [read_of_error hgather, read_of_error (h.gather_eq_error hgather)]
  | ok bytes =>
      obtain ⟨bytes', hbytes', hsame⟩ := h.exists_gather hgather
      have hlength := length_of_gather hgather
      have hlength' := length_of_gather hbytes'
      obtain rfl : bytes' = bytes := by
        refine List.ext_getElem? fun i => ?_
        by_cases hi : i < q.length
        · exact hsame i hi (hkept i hi)
        · rw [List.getElem?_eq_none (by omega), List.getElem?_eq_none (by omega)]
      obtain ⟨block, hblock, rfl⟩ := exists_read_of_ok hgather
      rw [hblock]
      exact read_eq_ok_iff.2 hbytes'

end AgreesOn

/-! ## Writing -/

theorem length_overwritten {old new : List UInt8} {offset : Nat}
    (hfits : offset + new.length ≤ old.length) :
    (old.take offset ++ new ++ old.drop (offset + new.length)).length = old.length := by
  simp only [List.length_append, List.length_take, List.length_drop]
  omega

theorem getElem?_overwritten_inside {old new : List UInt8} {offset i : Nat}
    (hfits : offset + new.length ≤ old.length) (hi : i < new.length) :
    (old.take offset ++ new ++ old.drop (offset + new.length))[offset + i]? = new[i]? := by
  have htake : (old.take offset).length = offset := List.length_take_of_le (by omega)
  rw [List.append_assoc, List.getElem?_append_right (by omega), htake, Nat.add_sub_cancel_left,
    List.getElem?_append_left hi]

theorem getElem?_overwritten_outside {old new : List UInt8} {offset i : Nat}
    (hfits : offset + new.length ≤ old.length) (hi : i < offset ∨ offset + new.length ≤ i) :
    (old.take offset ++ new ++ old.drop (offset + new.length))[i]? = old[i]? := by
  have htake : (old.take offset).length = offset := List.length_take_of_le (by omega)
  rw [List.append_assoc]
  rcases hi with hi | hi
  · rw [List.getElem?_append_left (by omega), List.getElem?_take_of_lt hi]
  · rw [List.getElem?_append_right (by omega), List.getElem?_append_right (by omega), htake,
      List.getElem?_drop]
    congr 1
    omega

/-- The addresses that a range of `length` bytes leaves out. -/
def Beside (low length x : Nat) : Prop :=
  x < low ∨ low + length ≤ x

theorem agreesOn_overwriteAt (hspot : s.spot? cursor = some spot)
    (hfits : spot.offset + chunk.length ≤ spot.region.bytes.length) :
    s.AgreesOn (Beside cursor.toNat chunk.length) (s.overwriteAt spot chunk) := by
  obtain ⟨hregion, hoffset⟩ := region?_of_spot? hspot
  have hmem := (region?_eq_some_iff.1 hregion).1
  refine List.forall₂_map_right_iff.2 (List.forall₂_same.2 fun r hr => ?_)
  split
  next hstart =>
    obtain rfl := eq_of_start_eq hr hmem hstart
    refine ⟨rfl, length_overwritten hfits, fun i hi => getElem?_overwritten_outside hfits ?_⟩
    rcases hi with hi | hi
    · exact .inl (by omega)
    · exact .inr (by omega)
  next => exact .refl _ r

theorem exists_spot?_overwriteAt (hspot : s.spot? cursor = some spot)
    (hfits : spot.offset + chunk.length ≤ spot.region.bytes.length) :
    ∃ spot', (s.overwriteAt spot chunk).spot? cursor = some spot' ∧
      spot'.offset = spot.offset ∧ spot'.region.start = spot.region.start ∧
      spot'.region.bytes.length = spot.region.bytes.length ∧
      ∀ i < chunk.length, spot'.region.bytes[spot.offset + i]? = chunk[i]? := by
  obtain ⟨hregion, hoffset⟩ := region?_of_spot? hspot
  obtain ⟨spot', hspot', hoffset', hagrees⟩ := (agreesOn_overwriteAt hspot hfits).exists_spot? hspot
  refine ⟨spot', hspot', hoffset', hagrees.start, hagrees.length, fun i hi => ?_⟩
  have hmem' := (region?_eq_some_iff.1 (region?_of_spot? hspot').1).1
  have hwritten : { spot.region with
      bytes := spot.region.bytes.take spot.offset ++ chunk ++
        spot.region.bytes.drop (spot.offset + chunk.length) } ∈
      (s.overwriteAt spot chunk).regions := by
    refine List.mem_map.2 ⟨spot.region, (region?_eq_some_iff.1 hregion).1, ?_⟩
    rw [if_pos rfl]
  rw [eq_of_start_eq hmem' hwritten hagrees.start]
  exact getElem?_overwritten_inside hfits hi

/-- Bytes go into one region after the other until all are written.  On every pass a region
answers for the cursor, the cursor lies inside it, and it takes as many bytes as there is room for
up to its end.  The cursor stays below the top. -/
inductive Fills : Snapshot → UInt64 → List UInt8 → Snapshot → Prop
  | done (s : Snapshot) (cursor : UInt64) : Fills s cursor [] s
  | pass {s t : Snapshot} {cursor : UInt64} {r : Region} {offset : Nat} {chunk rest : List UInt8}
      (answers : s.region? cursor = some r) (offset_eq : cursor.toNat = r.start.toNat + offset)
      (inside : offset < r.bytes.length) (nonempty : chunk ≠ [])
      (whole : chunk.length = min (r.bytes.length - offset) (chunk ++ rest).length)
      (fits : cursor.toNat + chunk.length < 2 ^ 64)
      (next : Fills (s.overwriteAt ⟨r, offset, inside⟩ chunk)
        (cursor + chunk.length.toUInt64) rest t) :
      Fills s cursor (chunk ++ rest) t

theorem write?_nil (s : Snapshot) (cursor : UInt64) : s.write? cursor [] = some s := by
  rw [write?, dif_pos rfl]

theorem write?_of_gap (hbytes : bytes ≠ []) (hspot : s.spot? cursor = none) :
    s.write? cursor bytes = some s := by
  rw [write?, dif_neg hbytes]
  simp only [hspot]

theorem write?_of_spot? (hbytes : bytes ≠ []) (hspot : s.spot? cursor = some spot) :
    ∃ chunk rest, chunk ++ rest = bytes ∧ chunk ≠ [] ∧
      chunk.length = min (spot.region.bytes.length - spot.offset) bytes.length ∧
      s.write? cursor bytes =
        if cursor.toNat + chunk.length < 2 ^ 64 then
          (s.overwriteAt spot chunk).write? (cursor + chunk.length.toUInt64) rest
        else none := by
  have hinside := spot.inside
  have hpos := List.length_pos_iff.2 hbytes
  generalize hroom : spot.region.bytes.length - spot.offset = room
  have hchunk : (bytes.take room).length = min room bytes.length := List.length_take
  refine ⟨bytes.take room, bytes.drop (bytes.take room).length, ?_, ?_, hchunk, ?_⟩
  · rw [hchunk, List.take_eq_take_min, List.take_append_drop]
  · apply List.ne_nil_of_length_pos
    omega
  · rw [write?, dif_neg hbytes]
    simp only [hspot, hroom]
    rfl

/-- What can be read can be written to its end. -/
theorem exists_fills {old : List UInt8} (hold : s.gather cursor bytes.length = .ok old) :
    ∃ t, s.write? cursor bytes = some t ∧ s.Fills cursor bytes t := by
  generalize hlength : bytes.length = length at hold
  induction length using Nat.strongRecOn generalizing s cursor bytes old with
  | ind length ih =>
  by_cases hbytes : bytes = []
  · subst hbytes
    exact ⟨s, write?_nil s cursor, .done s cursor⟩
  have hpos : length ≠ 0 := by
    rw [← hlength]
    exact fun h => hbytes (List.length_eq_zero_iff.1 h)
  obtain ⟨spot, oldRest, hspot, hfits, holdRest, -⟩ := exists_of_gather_eq_ok hpos hold
  obtain ⟨hregion, hoffset⟩ := region?_of_spot? hspot
  have hinside := spot.inside
  obtain ⟨chunk, rest, hsplit, hnonempty, hwhole, hwrite⟩ := write?_of_spot? hbytes hspot
  have hlengths : chunk.length + rest.length = length := by
    rw [← List.length_append, hsplit, hlength]
  have hblock : (spot.block length).length = chunk.length := by
    rw [Spot.length_block, hwhole, hlength]
  rw [hblock] at hfits holdRest
  have hchunkPos := List.length_pos_iff.2 hnonempty
  -- The pass has changed no shape, so what is left can still be read, and the next pass finds
  -- a region too.
  have hagrees : s.AgreesOn _ (s.overwriteAt spot chunk) :=
    agreesOn_overwriteAt hspot (by omega)
  obtain ⟨newRest, hnewRest, -⟩ := hagrees.exists_gather holdRest
  have hlengthRest : rest.length = length - chunk.length := by omega
  obtain ⟨t, hnext, hfills⟩ := ih (length - chunk.length) (by omega) hlengthRest hnewRest
  rw [if_pos hfits] at hwrite
  rw [hwrite, ← hsplit]
  refine ⟨t, hnext, .pass hregion hoffset hinside hnonempty ?_ hfits hfills⟩
  rw [hsplit, hwhole]

namespace Fills

theorem agreesOn (h : s.Fills cursor bytes t) :
    s.AgreesOn (Beside cursor.toNat bytes.length) t := by
  induction h with
  | done s cursor => exact .refl _ s
  | @pass s t cursor r offset chunk rest answers offset_eq inside _ whole fits _ ih =>
      rw [List.length_append] at whole ⊢
      rw [toNat_cursor_add fits] at ih
      have hfits : offset + chunk.length ≤ r.bytes.length := by omega
      have hfirst := agreesOn_overwriteAt (spot?_of_region? answers offset_eq inside) hfits
      refine (hfirst.mono ?_).trans (ih.mono ?_)
      all_goals
        intro x hx
        rcases hx with hx | hx
        · exact .inl (by omega)
        · exact .inr (by omega)

/-- Later passes write behind the earlier ones, so what was written stays. -/
theorem gather_eq (h : s.Fills cursor bytes t) : t.gather cursor bytes.length = .ok bytes := by
  induction h with
  | done s cursor => exact gather_zero s cursor
  | @pass s t cursor r offset chunk rest answers offset_eq inside nonempty whole fits next ih =>
      have hpos := List.length_pos_iff.2 nonempty
      rw [List.length_append] at whole ⊢
      have hfits : offset + chunk.length ≤ r.bytes.length := by omega
      obtain ⟨spot, hspot, hoffset, hstart, hlength, hwritten⟩ :=
        exists_spot?_overwriteAt (spot?_of_region? answers offset_eq inside) hfits
      have hagrees := next.agreesOn
      rw [toNat_cursor_add fits] at hagrees
      obtain ⟨spot', hspot', hoffset', hkept⟩ := hagrees.exists_spot? hspot
      have hblock : spot'.block (chunk.length + rest.length) = chunk := by
        have hsame : (spot'.block (chunk.length + rest.length)).length = chunk.length := by
          rw [Spot.length_block, hoffset', hoffset, hkept.length, hlength]
          exact whole.symm
        refine List.ext_getElem? fun i => ?_
        by_cases hi : i < chunk.length
        · rw [spot'.getElem?_block (by omega), hoffset', hoffset, ← hwritten i hi]
          apply hkept.bytes
          rw [hstart]
          exact .inl (show r.start.toNat + (offset + i) < _ by omega)
        · rw [List.getElem?_eq_none (by omega), List.getElem?_eq_none (by omega)]
      rw [gather_of_spot? (by omega) hspot' (by rwa [hblock]), hblock, Nat.add_sub_cancel_left, ih,
        Except.map]

end Fills

/-- The snapshot that is held after a patch has been tried. -/
def patched (s : Snapshot) (a : Address) (bytes : List UInt8) : Snapshot :=
  match s.patch a bytes with
  | .ok t => t
  | .error _ => s

theorem patch_of_error {a : Address} (h : s.gather a.value bytes.length = .error stop) :
    s.patch a bytes = .error (stop.fault ⟨a, bytes.length⟩) := by
  rw [patch, read_of_error h]
  rfl

/-- A patch that has passed the check is written, and nothing else is. -/
theorem patch_eq_ok_iff {a : Address} :
    s.patch a bytes = .ok t ↔
      (∃ old, s.gather a.value bytes.length = .ok old) ∧ s.write? a.value bytes = some t := by
  cases hold : s.gather a.value bytes.length with
  | error stop => simp [patch_of_error hold]
  | ok old =>
      obtain ⟨block, hblock, -⟩ := exists_read_of_ok (q := ⟨a, bytes.length⟩) hold
      rw [patch, hblock]
      cases s.write? a.value bytes <;> simp [bind, Except.bind]

theorem exists_patch_of_ok {a : Address} {old : List UInt8}
    (hold : s.gather a.value bytes.length = .ok old) :
    ∃ t, s.patch a bytes = .ok t ∧ s.Fills a.value bytes t := by
  obtain ⟨t, hwrite, hfills⟩ := exists_fills hold
  exact ⟨t, patch_eq_ok_iff.2 ⟨⟨old, hold⟩, hwrite⟩, hfills⟩

theorem fills_of_patch {a : Address} (h : s.patch a bytes = .ok t) : s.Fills a.value bytes t := by
  obtain ⟨⟨old, hold⟩, hwrite⟩ := patch_eq_ok_iff.1 h
  obtain ⟨t', hwrite', hfills⟩ := exists_fills hold
  rwa [Option.some.inj (hwrite.symm.trans hwrite')]

/-- A patch fails where the read of its range fails, in the same way. -/
theorem patch_eq_error_iff {a : Address} {f : Fault} :
    s.patch a bytes = .error f ↔ s.read ⟨a, bytes.length⟩ = .error f := by
  cases hold : s.gather a.value bytes.length with
  | error stop =>
      have hread := read_of_error (q := ⟨a, bytes.length⟩) hold
      simp only [patch_of_error hold, hread, Except.error.injEq]
  | ok old =>
      obtain ⟨block, hblock, -⟩ := exists_read_of_ok (q := ⟨a, bytes.length⟩) hold
      obtain ⟨t, ht, -⟩ := exists_patch_of_ok hold
      simp [hblock, ht]

theorem eq_unreadable_of_read {q : Request} {f : Fault} (hlt : q.BelowTop)
    (h : s.read q = .error f) : f = .failed (.unreadable q.address q.length) := by
  cases hgather : s.gather q.address.value q.length with
  | ok bytes =>
      obtain ⟨block, hblock, -⟩ := exists_read_of_ok hgather
      cases h.symm.trans hblock
  | error stop =>
      cases stop with
      | gap => exact Except.error.inj (h.symm.trans (read_of_error hgather))
      | overflow => exact absurd hgather (gather_ne_overflow hlt)

/-- A patch is taken exactly where its range can be read.  If it is not taken, nothing has changed.
If it is, every pass of the write finds a region to write to until no byte is left, the regions
start where they did and are as long as they were, the range reads as what was written, and what is
read beside it reads as before.  None of this needs regions that keep apart. -/
theorem patch_all_or_nothing (s : Snapshot) (a : Address) (bytes : List UInt8)
    (hlt : a.value.toNat + bytes.length < 2 ^ 64) :
    ((∃ t, s.patch a bytes = .ok t) ↔ ∃ block, s.read ⟨a, bytes.length⟩ = .ok block) ∧
      (∀ f, s.patch a bytes = .error f →
        f = .failed (.unreadable a bytes.length) ∧ s.patched a bytes = s) ∧
      ∀ t, s.patch a bytes = .ok t →
        s.patched a bytes = t ∧
        s.Fills a.value bytes t ∧
        t.regions.map (fun r => (r.start, r.bytes.length)) =
          s.regions.map (fun r => (r.start, r.bytes.length)) ∧
        (∃ block, t.read ⟨a, bytes.length⟩ = .ok block ∧ block.toList = bytes) ∧
        ∀ q : Request, (q.address.value.toNat + q.length ≤ a.value.toNat ∨
            a.value.toNat + bytes.length ≤ q.address.value.toNat) →
          t.read q = s.read q := by
  refine ⟨?_, fun f hf => ⟨?_, by rw [patched, hf]⟩, fun t ht => ?_⟩
  · rw [exists_read_iff]
    constructor
    · rintro ⟨t, ht⟩
      exact (patch_eq_ok_iff.1 ht).1
    · rintro ⟨old, hold⟩
      obtain ⟨t, ht, -⟩ := exists_patch_of_ok hold
      exact ⟨t, ht⟩
  · exact eq_unreadable_of_read (q := ⟨a, bytes.length⟩) hlt (patch_eq_error_iff.1 hf)
  · have hfills := fills_of_patch ht
    have hagrees := hfills.agreesOn
    refine ⟨by rw [patched, ht], hfills, hagrees.shapes_eq,
      exists_read_of_ok (q := ⟨a, bytes.length⟩) hfills.gather_eq, fun q hbeside => ?_⟩
    refine hagrees.read_eq fun i hi => ?_
    rcases hbeside with hbelow | habove
    · exact .inl (by omega)
    · exact .inr (by omega)

/-- Two regions, of which the first reaches into the second. -/
def overlapping : Snapshot :=
  (empty.insert ⟨0x1000⟩ [1, 2, 3, 4, 5, 6]).insert ⟨0x1004⟩ [7, 8, 9, 10]

/-- A write over the seam, and one that would go on behind the last region. -/
theorem patch_all_or_nothing_overlapping :
    0x1003 + 4 < 2 ^ 64 ∧
      (∃ t, overlapping.patch ⟨0x1003⟩ [21, 22, 23, 24] = .ok t ∧
        (∃ block, t.read ⟨⟨0x1003⟩, 4⟩ = .ok block ∧ block.toList = [21, 22, 23, 24]) ∧
        t.read ⟨⟨0x1007⟩, 1⟩ = overlapping.read ⟨⟨0x1007⟩, 1⟩) ∧
      overlapping.patched ⟨0x1007⟩ [21, 22] = overlapping := by
  have hread : overlapping.gather 0x1003 4 = .ok [4, 5, 6, 9] := by decide +kernel
  have hnone : overlapping.gather 0x1007 2 = .error .gap := by decide +kernel
  refine ⟨by decide, ?_, ?_⟩
  · have hpatch := patch_all_or_nothing overlapping ⟨0x1003⟩ [21, 22, 23, 24] (by decide)
    obtain ⟨t, ht⟩ := hpatch.1.2 (exists_read_iff.2 ⟨_, hread⟩)
    obtain ⟨-, -, -, hback, hbeside⟩ := hpatch.2.2 t ht
    exact ⟨t, ht, hback, hbeside ⟨⟨0x1007⟩, 1⟩ (.inr (by decide))⟩
  · have hpatch := patch_all_or_nothing overlapping ⟨0x1007⟩ [21, 22] (by decide)
    exact (hpatch.2.1 _ (patch_of_error hnone)).2

end Snapshot

end ObjectView.Memory
