import ObjectView.Memory.Reading

/-!
# Captured memory

A snapshot is a set of regions, each a block of bytes at an address.  A read goes through
neighbouring regions but not over a gap.  Which region answers for an address is decided by the
starts alone: it is the last one that starts at or in front of it, even where an earlier region
reaches further.
-/

namespace ObjectView

section Except

variable {ε α β : Type} {x : Except ε α} {f : α → β}

theorem map_eq_ok_iff {b : β} : x.map f = .ok b ↔ ∃ a, x = .ok a ∧ f a = b := by
  cases x <;> simp [Except.map]

theorem map_eq_error_iff {e : ε} : x.map f = .error e ↔ x = .error e := by
  cases x <;> simp [Except.map]

end Except

namespace Memory

structure Region where
  start : UInt64
  bytes : List UInt8
  deriving DecidableEq

/-- Regions in the order of their starts, no two of which are equal. -/
structure Snapshot where
  regions : List Region := []
  ordered : regions.Pairwise fun a b => a.start < b.start := by simp

namespace Snapshot

/-- An empty snapshot. -/
def empty : Snapshot := {}

/-- Puts a region in its place, instead of one with the same start. -/
def insertInto (r : Region) : List Region → List Region
  | [] => [r]
  | first :: rest =>
      if r.start < first.start then r :: first :: rest
      else if r.start = first.start then r :: rest
      else first :: insertInto r rest

theorem mem_insertInto {r x : Region} {regions : List Region} (h : x ∈ insertInto r regions) :
    x = r ∨ x ∈ regions := by
  induction regions with
  | nil => simpa [insertInto] using h
  | cons first rest ih =>
      simp only [insertInto] at h
      split at h
      · simpa using h
      · split at h
        · rcases List.mem_cons.1 h with h | h <;> simp [h]
        · rcases List.mem_cons.1 h with h | h
          · simp [h]
          · rcases ih h with h | h <;> simp [h]

theorem mem_insertInto_self (r : Region) (regions : List Region) : r ∈ insertInto r regions := by
  induction regions with
  | nil => exact List.mem_cons_self
  | cons first rest ih =>
      rw [insertInto]
      split
      · exact List.mem_cons_self
      · split
        · exact List.mem_cons_self
        · exact List.mem_cons_of_mem first ih

theorem insertInto_pairwise (r : Region) {regions : List Region}
    (h : regions.Pairwise fun a b => a.start < b.start) :
    (insertInto r regions).Pairwise fun a b => a.start < b.start := by
  induction regions with
  | nil => simp [insertInto]
  | cons first rest ih =>
      obtain ⟨hfirst, hrest⟩ := List.pairwise_cons.1 h
      simp only [insertInto]
      split
      next hlt =>
        refine List.pairwise_cons.2 ⟨fun x hx => ?_, h⟩
        rcases List.mem_cons.1 hx with rfl | hx
        · exact hlt
        · exact UInt64.lt_trans hlt (hfirst x hx)
      next hge =>
        split
        next heq =>
          refine List.pairwise_cons.2 ⟨fun x hx => ?_, hrest⟩
          rw [heq]
          exact hfirst x hx
        next hne =>
          refine List.pairwise_cons.2 ⟨fun x hx => ?_, ih hrest⟩
          rcases mem_insertInto hx with rfl | hx
          · exact UInt64.lt_of_le_of_ne (UInt64.not_lt.1 hge) (Ne.symm hne)
          · exact hfirst x hx

/-- Adds a region, or replaces the one with the same start. -/
def insert (s : Snapshot) (start : Address) (bytes : List UInt8) : Snapshot where
  regions := insertInto ⟨start.value, bytes⟩ s.regions
  ordered := insertInto_pairwise _ s.ordered

/-- The last region that starts at or in front of an address. -/
def region? (s : Snapshot) (cursor : UInt64) : Option Region :=
  (s.regions.filter fun r => r.start ≤ cursor).getLast?

/-- A byte of a region. -/
structure Spot where
  region : Region
  offset : Nat
  inside : offset < region.bytes.length

/-- Where an address lies in its region, if it lies inside it. -/
def spot? (s : Snapshot) (cursor : UInt64) : Option Spot := do
  let r ← s.region? cursor
  if h : (cursor - r.start).toNat < r.bytes.length then some ⟨r, _, h⟩ else none

/-- The bytes from a spot on, `length` at most. -/
def Spot.block (spot : Spot) (length : Nat) : List UInt8 :=
  (spot.region.bytes.drop spot.offset).take length

theorem Spot.length_block (spot : Spot) (length : Nat) :
    (spot.block length).length = min (spot.region.bytes.length - spot.offset) length := by
  rw [block, List.length_take, List.length_drop, Nat.min_comm]

theorem Spot.getElem?_block (spot : Spot) {length i : Nat} (h : i < length) :
    (spot.block length)[i]? = spot.region.bytes[spot.offset + i]? := by
  rw [block, List.getElem?_take_of_lt h, List.getElem?_drop]

/-- Why a loop over the regions stops early. -/
inductive Stop
  /-- No region has a byte for the cursor. -/
  | gap
  /-- The cursor does not fit a word any more. -/
  | overflow
  deriving DecidableEq

/-- The `length` bytes at an address, region after region.  The cursor is moved on behind each
block, the last one included, and has to stay below the top. -/
def gather (s : Snapshot) (cursor : UInt64) (length : Nat) : Except Stop (List UInt8) :=
  if _hl : length = 0 then .ok []
  else
    match s.spot? cursor with
    | none => .error .gap
    | some spot =>
        let block := spot.block length
        if cursor.toNat + block.length < UInt64.size then
          (s.gather (cursor + block.length.toUInt64) (length - block.length)).map (block ++ ·)
        else .error .overflow
termination_by length
decreasing_by
  have := spot.inside
  have := spot.length_block length
  omega

variable {s : Snapshot} {cursor : UInt64} {length : Nat} {bytes : List UInt8}

theorem length_of_gather (h : s.gather cursor length = .ok bytes) : bytes.length = length := by
  fun_induction gather s cursor length generalizing bytes with
  | case1 => simp_all
  | case2 => cases h
  | case3 cursor length _ spot _ block =>
      rename_i ih
      obtain ⟨rest, hrest, rfl⟩ := map_eq_ok_iff.1 h
      have hblock : block.length ≤ length := List.length_take_le _ _
      rw [List.length_append, ih hrest]
      omega
  | case4 => cases h

theorem toNat_cursor_add {count : Nat} (hlt : cursor.toNat + count < UInt64.size) :
    (cursor + count.toUInt64).toNat = cursor.toNat + count := by
  have hcount : count.toUInt64.toNat = count :=
    UInt64.toNat_ofNat_of_lt' (Nat.lt_of_le_of_lt (Nat.le_add_left _ _) hlt)
  rw [UInt64.toNat_add, hcount, Nat.mod_eq_of_lt hlt]

/-- Below the top the cursor always fits. -/
theorem gather_ne_overflow (hlt : cursor.toNat + length < UInt64.size) :
    s.gather cursor length ≠ .error .overflow := by
  fun_induction gather s cursor length with
  | case1 =>
      intro h
      cases h
  | case2 =>
      intro h
      cases h
  | case3 cursor length _ spot _ block hfits ih =>
      have hblock : block.length ≤ length := List.length_take_le _ _
      have hrest := ih (by rw [toNat_cursor_add hfits]; omega)
      exact fun h => hrest (map_eq_error_iff.1 h)
  | case4 cursor length _ spot _ block =>
      have hblock : block.length ≤ length := List.length_take_le _ _
      omega

/-- What comes of a call in place of a result. -/
inductive Fault
  | failed (e : MemoryError)
  /-- The program has stopped. -/
  | panicked
  deriving DecidableEq

def Stop.fault (q : Request) : Stop → Fault
  | gap => .failed (.unreadable q.address q.length)
  | overflow => .panicked

/-- Reads a block; a gap anywhere in it makes all of it unreadable. -/
def read (s : Snapshot) (q : Request) : Except Fault (Vector UInt8 q.length) :=
  match h : s.gather q.address.value q.length with
  | .ok bytes => .ok ⟨bytes.toArray, by simpa using length_of_gather h⟩
  | .error stop => .error (stop.fault q)

/-- What a process is answered whose memory was captured.  It is refused a range that reaches the
top before the regions are looked at, and the cursor fits below it. -/
def answer (s : Snapshot) (q : Request) : q.Answer :=
  if hlt : q.BelowTop then
    match h : s.gather q.address.value q.length with
    | .ok bytes => .ok ⟨bytes.toArray, by simpa using length_of_gather h⟩
    | .error .gap => .error (.unreadable q.address q.length)
    | .error .overflow => (gather_ne_overflow hlt h).elim
  else .error (.overflow q.address q.length)

/-- Replaces the bytes of one region from `offset` on. -/
def overwrite (regions : List Region) (start : UInt64) (offset : Nat) (bytes : List UInt8) :
    List Region :=
  regions.map fun r =>
    if r.start = start then
      { r with bytes := r.bytes.take offset ++ bytes ++ r.bytes.drop (offset + bytes.length) }
    else r

theorem overwrite_pairwise {regions : List Region} (start : UInt64) (offset : Nat)
    (bytes : List UInt8) (h : regions.Pairwise fun a b => a.start < b.start) :
    (overwrite regions start offset bytes).Pairwise fun a b => a.start < b.start := by
  refine List.pairwise_map.2 (h.imp ?_)
  intro a b hab
  split <;> split <;> exact hab

/-- The snapshot with other bytes from a spot on. -/
def overwriteAt (s : Snapshot) (spot : Spot) (chunk : List UInt8) : Snapshot where
  regions := overwrite s.regions spot.region.start spot.offset chunk
  ordered := overwrite_pairwise _ _ _ s.ordered

/-- Writes bytes region after region, and stops where none takes them.  Nothing comes of it where
the cursor does not fit a word any more. -/
def write? (s : Snapshot) (cursor : UInt64) (bytes : List UInt8) : Option Snapshot :=
  if _hb : bytes = [] then some s
  else
    match s.spot? cursor with
    | none => some s
    | some spot =>
        let chunk := bytes.take (spot.region.bytes.length - spot.offset)
        if cursor.toNat + chunk.length < UInt64.size then
          (s.overwriteAt spot chunk).write? (cursor + chunk.length.toUInt64)
            (bytes.drop chunk.length)
        else none
termination_by bytes.length
decreasing_by
  have := spot.inside
  have := List.length_pos_iff.2 _hb
  simp only [List.length_drop, List.length_take]
  omega

/-- Writes into captured memory.  A range that cannot be read cannot be written, and then the
snapshot stays as it is. -/
def patch (s : Snapshot) (address : Address) (bytes : List UInt8) : Except Fault Snapshot := do
  let _ ← s.read ⟨address, bytes.length⟩
  (s.write? address.value bytes).elim (.error .panicked) .ok

end Snapshot

end Memory

end ObjectView
