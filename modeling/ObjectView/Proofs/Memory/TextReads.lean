import Mathlib.Data.List.TakeWhile
import ObjectView.Proofs.Memory.Text

/-!
# What is read for a text

Whoever holds the memory may answer as they like, and differently each time.  Still the reads for a
text stay where they belong: each within one page and within reach of the text, and each behind the
one before it.  A page that is refused is gone through once more from its beginning, byte by byte,
and nothing is read behind it.

A text that comes of this is what was delivered in front of the first zero.
-/

namespace ObjectView.Memory

open Dialogue

/-- A block that was asked for, with the answer. -/
abbrev BlockRead := Exchange Request Request.Answer

namespace BlockRead

/-- The bytes that were delivered, none where the block was refused. -/
def bytes (x : BlockRead) : List UInt8 :=
  match x.2 with
  | .ok block => block.toList
  | .error _ => []

/-- The block lies within one page, between two places, and below the top. -/
structure Within (start stop : Nat) (x : BlockRead) : Prop where
  nonempty : 1 ≤ x.1.length
  inPage : x.1.address.value.toNat % pageSize + x.1.length ≤ pageSize
  above : start ≤ x.1.address.value.toNat
  below : x.1.address.value.toNat + x.1.length ≤ stop
  belowTop : x.1.address.value.toNat + x.1.length < 2 ^ 64

theorem Within.mono {start stop start' stop' : Nat} {x : BlockRead} (h : x.Within start stop)
    (hstart : start' ≤ start) (hstop : stop ≤ stop') : x.Within start' stop' :=
  ⟨h.nonempty, h.inPage, Nat.le_trans hstart h.above, Nat.le_trans h.below hstop, h.belowTop⟩

theorem within_of_page {a : Address} {length : Nat} (hpos : 1 ≤ length)
    (hpage : a.value.toNat % pageSize + length ≤ pageSize)
    (hlt : a.value.toNat + length < 2 ^ 64) (found : Except MemoryError (Vector UInt8 length)) :
    Within a.value.toNat (a.value.toNat + length) ⟨⟨a, length⟩, found⟩ :=
  ⟨hpos, hpage, Nat.le_refl _, Nat.le_refl _, hlt⟩

end BlockRead

/-- The bytes of all reads. -/
def delivered (reads : List BlockRead) : List UInt8 :=
  reads.flatMap BlockRead.bytes

@[simp] theorem delivered_nil : delivered [] = [] := rfl

theorem delivered_cons_ok (a : Address) {length : Nat} (block : Vector UInt8 length)
    (reads : List BlockRead) :
    delivered (⟨⟨a, length⟩, .ok block⟩ :: reads) = block.toList ++ delivered reads := rfl

theorem delivered_cons_error (q : Request) (e : MemoryError) (reads : List BlockRead) :
    delivered (⟨q, .error e⟩ :: reads) = delivered reads := rfl

/-- Each read begins where the one before it ended, and only the last one may have failed. -/
inductive Successive : Address → List BlockRead → Prop
  | nil (a : Address) : Successive a []
  | last {q : Request} (found : q.Answer) : Successive q.address [⟨q, found⟩]
  | cons {q : Request} (block : Vector UInt8 q.length) {reads : List BlockRead}
      (rest : Successive (q.address.add q.length.toUInt64) reads) :
      Successive q.address (⟨q, .ok block⟩ :: reads)

/-- What is read behind the pages: nothing if all of them could be read, and otherwise the bytes of
the last one, one by one from its beginning. -/
inductive Rescan : List BlockRead → List BlockRead → Prop
  | none {pages : List BlockRead}
      (readable : ∀ x ∈ pages, ∀ p n, x.2 ≠ .error (.unreadable p n)) : Rescan pages []
  | last (front : List BlockRead) {bytes : List BlockRead} {q : Request} {p : Address} {n : Nat}
      (successive : Successive q.address bytes) (single : ∀ x ∈ bytes, x.1.length = 1)
      (begun : bytes ≠ []) (length_le : bytes.length ≤ q.length) :
      Rescan (front ++ [⟨q, .error (.unreadable p n)⟩]) bytes

theorem Rescan.cons {pages bytes : List BlockRead} {q : Request} (block : Vector UInt8 q.length)
    (h : Rescan pages bytes) : Rescan (⟨q, .ok block⟩ :: pages) bytes := by
  cases h with
  | none readable => exact .none (List.forall_mem_cons.2 ⟨by simp, readable⟩)
  | last front successive single begun length_le =>
      exact .last (_ :: front) successive single begun length_le

/-- What an error is about: the last read; or the block behind all reads, which would pass the top
and was not asked for; or, where every byte of an unreadable page was delivered after all, the one
behind the page. -/
inductive Blames (a : Address) : List BlockRead → MemoryError → Prop
  | answer (front : List BlockRead) (q : Request) (e : MemoryError) :
      Blames a (front ++ [⟨q, .error e⟩]) e
  | top {reads : List BlockRead} {p : Address} {n : Nat}
      (delivers : ∀ x ∈ reads, ∃ block, x.2 = .ok block)
      (place : p.value.toNat = a.value.toNat + (delivered reads).length)
      (above : 2 ^ 64 ≤ p.value.toNat + n) : Blames a reads (.overflow p n)
  | behind (front : List BlockRead) {bytes : List BlockRead} {q : Request} {p : Address} {n : Nat}
      (delivers : ∀ x ∈ bytes, ∃ block, x.2 = .ok block) (all : bytes.length = q.length) :
      Blames a (front ++ ⟨q, .error (.unreadable p n)⟩ :: bytes)
        (.unreadable (q.address.add q.length.toUInt64) 1)

theorem Blames.cons {a : Address} {length : Nat} {reads : List BlockRead} {e : MemoryError}
    (block : Vector UInt8 length) (hlt : a.value.toNat + length < 2 ^ 64)
    (h : Blames (a.add length.toUInt64) reads e) :
    Blames a (⟨⟨a, length⟩, .ok block⟩ :: reads) e := by
  cases h with
  | answer front q => exact .answer (_ :: front) q e
  | @top reads p n delivers place above =>
      refine .top (List.forall_mem_cons.2 ⟨⟨block, rfl⟩, delivers⟩) ?_ above
      rw [delivered_cons_ok, List.length_append, Vector.length_toList, place,
        Address.toNat_add_of_lt hlt, Nat.add_assoc]
  | behind front delivers all => exact .behind (_ :: front) delivers all

namespace Reading

variable {a : Address} {text : List UInt8} {count room : Nat} {reads : List BlockRead}
  {outcome : Outcome}

theorem runs_block_of_lt {length : Nat} (hlt : a.value.toNat + length < 2 ^ 64)
    {found : Except MemoryError (Vector UInt8 length)} :
    Runs (block a length).run reads found ↔ reads = [⟨⟨a, length⟩, found⟩] := by
  rw [block_of_lt hlt, ExceptT.run_mk]
  exact runs_put_iff

/-! ## A page that is gone through byte by byte -/

/-- The reads of the bytes of a page, what has been found before, and what comes of it. -/
inductive Scanned : Address → List UInt8 → Nat → List BlockRead → Outcome → Prop
  | exhausted (a : Address) (text : List UInt8) : Scanned a text 0 [] (.error (.unreadable a 1))
  | refused (a : Address) (text : List UInt8) (count : Nat) (e : MemoryError) :
      Scanned a text (count + 1) [⟨⟨a, 1⟩, .error e⟩] (.error e)
  | zero (a : Address) (text : List UInt8) (count : Nat) {block : Vector UInt8 1}
      (isZero : block.toList = [0]) :
      Scanned a text (count + 1) [⟨⟨a, 1⟩, .ok block⟩] (.ok (some text))
  | byte {a : Address} {text : List UInt8} {count : Nat} {b : UInt8} {block : Vector UInt8 1}
      {reads : List BlockRead} {outcome : Outcome} (isByte : block.toList = [b]) (nonzero : b ≠ 0)
      (rest : Scanned (a.add 1) (text ++ [b]) count reads outcome) :
      Scanned a text (count + 1) (⟨⟨a, 1⟩, .ok block⟩ :: reads) outcome

theorem toList_eq_singleton (block : Vector UInt8 1) :
    block.toList = [block.get ⟨0, Nat.one_pos⟩] := by
  apply List.ext_getElem
  · simp
  · intro i hi _
    obtain rfl : i = 0 := by simpa using hi
    simp [Vector.get]

theorem scanned_of_runs (hlt : a.value.toNat + count < 2 ^ 64)
    (h : Runs (scan a text count).run reads outcome) : Scanned a text count reads outcome := by
  induction count generalizing a text reads with
  | zero =>
      obtain ⟨rfl, rfl⟩ := runs_done_iff.1 h
      exact .exhausted a text
  | succ count ih =>
      rw [scan_succ, runs_run_bind_iff] at h
      rcases h with ⟨e, hblock, rfl⟩ | ⟨block, first, last, rfl, hblock, hrest⟩
      · rw [(runs_block_of_lt (by omega)).1 hblock]
        exact .refused a text count e
      · rw [(runs_block_of_lt (by omega)).1 hblock]
        have hbyte := toList_eq_singleton block
        split at hrest
        next hzero =>
          obtain ⟨rfl, rfl⟩ := runs_done_iff.1 hrest
          rw [hzero] at hbyte
          exact .zero a text count hbyte
        next hnonzero =>
          have hnext : (a.add 1).value.toNat = a.value.toNat + 1 :=
            Address.toNat_add_one_of_lt (by omega)
          exact .byte hbyte hnonzero (ih (by omega) hrest)

namespace Scanned

theorem within (h : Scanned a text count reads outcome) (hlt : a.value.toNat + count < 2 ^ 64)
    (hpage : a.value.toNat % pageSize + count ≤ pageSize) :
    ∀ x ∈ reads, x.Within a.value.toNat (a.value.toNat + count) := by
  have first {a : Address} {count : Nat} (found : Except MemoryError (Vector UInt8 1))
      (hlt : a.value.toNat + (count + 1) < 2 ^ 64)
      (hpage : a.value.toNat % pageSize + (count + 1) ≤ pageSize) :
      BlockRead.Within a.value.toNat (a.value.toNat + (count + 1)) ⟨⟨a, 1⟩, found⟩ :=
    (BlockRead.within_of_page (Nat.le_refl 1) (by omega) (by omega) found).mono (Nat.le_refl _)
      (by omega)
  induction h with
  | exhausted a text => simp
  | refused a text count e => simpa using first (.error e) hlt hpage
  | zero a text count _ => simpa using first (.ok _) hlt hpage
  | @byte a text count b block reads outcome _ _ _ ih =>
      have hnext : (a.add 1).value.toNat = a.value.toNat + 1 :=
        Address.toNat_add_one_of_lt (by omega)
      rw [hnext] at ih
      have hpage' : (a.value.toNat + 1) % pageSize + count ≤ pageSize := by
        rw [pageSize] at hpage ⊢
        omega
      refine List.forall_mem_cons.2 ⟨first (.ok block) hlt hpage, fun x hx => ?_⟩
      exact (ih (by omega) hpage' x hx).mono (by omega) (by omega)

theorem length_le (h : Scanned a text count reads outcome) : reads.length ≤ count := by
  induction h with
  | exhausted a text => simp
  | refused a text count e => simp
  | zero a text count _ => simp
  | byte _ _ _ ih => exact Nat.succ_le_succ ih

theorem successive (h : Scanned a text count reads outcome) :
    Successive a reads ∧ ∀ x ∈ reads, x.1.length = 1 := by
  induction h with
  | exhausted a text => exact ⟨.nil a, by simp⟩
  | refused a text count e => exact ⟨.last (q := ⟨a, 1⟩) (.error e), by simp⟩
  | @zero a text count block _ => exact ⟨.last (q := ⟨a, 1⟩) (.ok block), by simp⟩
  | @byte a text count b block reads outcome _ _ _ ih =>
      exact ⟨.cons (q := ⟨a, 1⟩) block ih.1, List.forall_mem_cons.2 ⟨rfl, ih.2⟩⟩

theorem ne_nil (h : Scanned a text count reads outcome) (hcount : count ≠ 0) : reads ≠ [] := by
  cases h with
  | exhausted => exact absurd rfl hcount
  | refused => simp
  | zero => simp
  | byte => simp

/-- A byte that is refused ends the reads, and the error is what comes of them. -/
theorem outcome_of_refused (h : Scanned a text count reads outcome) {front back : List BlockRead}
    {x : BlockRead} {e : MemoryError} (hreads : reads = front ++ x :: back)
    (hrefused : x.2 = .error e) : back = [] ∧ outcome = .error e := by
  induction h generalizing front with
  | exhausted a text => simp at hreads
  | refused a text count e' =>
      rcases front with _ | ⟨y, front⟩
      · obtain ⟨rfl, rfl⟩ := List.cons.inj hreads
        cases hrefused
        exact ⟨rfl, rfl⟩
      · simp at hreads
  | @zero a text count block _ =>
      rcases front with _ | ⟨y, front⟩
      · obtain ⟨rfl, -⟩ := List.cons.inj hreads
        cases hrefused
      · simp at hreads
  | @byte a text count b block reads outcome _ _ _ ih =>
      rcases front with _ | ⟨y, front⟩
      · obtain ⟨rfl, -⟩ := List.cons.inj hreads
        cases hrefused
      · exact ih (List.cons.inj hreads).2

theorem length_delivered_le (h : Scanned a text count reads outcome) :
    (delivered reads).length ≤ count := by
  induction h with
  | exhausted a text => simp
  | refused a text count e =>
      rw [delivered_cons_error]
      simp
  | zero a text count _ =>
      rw [delivered_cons_ok]
      simp
  | byte _ _ _ ih =>
      rw [delivered_cons_ok, List.length_append, Vector.length_toList]
      omega

theorem of_ok (h : Scanned a text count reads outcome) {found : Option (List UInt8)}
    (hfound : outcome = .ok found) :
    0 ∈ delivered reads ∧
      found = some (text ++ (delivered reads).takeWhile (· ≠ 0)) := by
  induction h with
  | exhausted a text => cases hfound
  | refused a text count e => cases hfound
  | @zero a text count block isZero =>
      cases hfound
      rw [delivered_cons_ok, isZero]
      simp
  | @byte a text count b block reads outcome isByte nonzero _ ih =>
      obtain ⟨hzero, hfound⟩ := ih hfound
      rw [delivered_cons_ok, isByte, List.singleton_append]
      refine ⟨List.mem_cons_of_mem _ hzero, ?_⟩
      rw [List.takeWhile_cons_of_pos (by simpa using nonzero), hfound, List.append_assoc]
      rfl

theorem of_error (h : Scanned a text count reads outcome) {e : MemoryError}
    (he : outcome = .error e) :
    (∃ front q, reads = front ++ [⟨q, .error e⟩]) ∨
      (∀ x ∈ reads, ∃ block, x.2 = .ok block) ∧ reads.length = count ∧
        e = .unreadable (a.add count.toUInt64) 1 := by
  induction h with
  | exhausted a text =>
      cases he
      refine .inr ⟨by simp, rfl, ?_⟩
      rw [show (0 : Nat).toUInt64 = 0 from rfl, Address.add_zero]
  | refused a text count e' =>
      cases he
      exact .inl ⟨[], ⟨a, 1⟩, rfl⟩
  | zero a text count _ => cases he
  | @byte a text count b block reads outcome _ _ _ ih =>
      rcases ih he with ⟨front, q, rfl⟩ | ⟨hdelivers, hlength, hbehind⟩
      · exact .inl ⟨_ :: front, q, rfl⟩
      · refine .inr ⟨List.forall_mem_cons.2 ⟨⟨block, rfl⟩, hdelivers⟩,
          by rw [List.length_cons, hlength], ?_⟩
        rw [hbehind, Address.add_one_add]

end Scanned

/-! ## Pages -/

/-- The reads of a text page by page, what has been found before, and what comes of it. -/
inductive Paged : Address → List UInt8 → Nat → List BlockRead → Outcome → Prop
  | full (a : Address) (text : List UInt8) : Paged a text 0 [] (.ok none)
  | overflow {a : Address} (text : List UInt8) {room : Nat}
      (above : 2 ^ 64 ≤ a.value.toNat + pageLength a room) :
      Paged a text room [] (.error (.overflow a (pageLength a room)))
  | refused {a : Address} (text : List UInt8) {room : Nat} {e : MemoryError} (left : room ≠ 0)
      (below : a.value.toNat + pageLength a room < 2 ^ 64)
      (other : ∀ p n, e ≠ .unreadable p n) :
      Paged a text room [⟨⟨a, pageLength a room⟩, .error e⟩] (.error e)
  | scanned {a : Address} {text : List UInt8} {room : Nat} {reads : List BlockRead}
      {outcome : Outcome} (p : Address) (n : Nat) (left : room ≠ 0)
      (below : a.value.toNat + pageLength a room < 2 ^ 64)
      (rest : Scanned a text (pageLength a room) reads outcome) :
      Paged a text room (⟨⟨a, pageLength a room⟩, .error (.unreadable p n)⟩ :: reads) outcome
  | ended {a : Address} (text : List UInt8) {room : Nat} {block : Vector UInt8 (pageLength a room)}
      (left : room ≠ 0) (below : a.value.toNat + pageLength a room < 2 ^ 64)
      (zero : 0 ∈ block.toList) :
      Paged a text room [⟨⟨a, pageLength a room⟩, .ok block⟩]
        (.ok (some (text ++ block.toList.takeWhile (· ≠ 0))))
  | page {a : Address} {text : List UInt8} {room : Nat} {block : Vector UInt8 (pageLength a room)}
      {reads : List BlockRead} {outcome : Outcome} (left : room ≠ 0)
      (below : a.value.toNat + pageLength a room < 2 ^ 64) (nonzero : 0 ∉ block.toList)
      (rest : Paged (a.add (pageLength a room).toUInt64) (text ++ block.toList)
        (room - pageLength a room) reads outcome) :
      Paged a text room (⟨⟨a, pageLength a room⟩, .ok block⟩ :: reads) outcome

theorem pageLength_le_pageSize (a : Address) (room : Nat) :
    a.value.toNat % pageSize + pageLength a room ≤ pageSize := by
  have hpage : a.value.toNat % pageSize < pageSize := Nat.mod_lt _ (by decide)
  rw [pageLength]
  omega

theorem paged_of_runs (h : Runs (chunks a text room).run reads outcome) :
    Paged a text room reads outcome := by
  -- Every page takes some of the room, so the pages come to an end whatever is answered.
  induction room using Nat.strongRecOn generalizing a text reads with
  | ind room ih =>
  by_cases hroom : room = 0
  · subst hroom
    rw [chunks_zero] at h
    obtain ⟨rfl, rfl⟩ := runs_done_iff.1 h
    exact .full a text
  rw [run_chunks hroom, runs_bind_iff] at h
  obtain ⟨answer, first, last, rfl, hblock, hafter⟩ := h
  have hsmall := pageLength_le_pageSize a room
  rw [pageSize] at hsmall
  by_cases hlt : a.value.toNat + pageLength a room < 2 ^ 64
  · rw [(runs_block_of_lt hlt).1 hblock]
    rcases answer with e | block
    · rcases e with ⟨p, n⟩ | ⟨p, n⟩ | reason
      · exact .scanned p n hroom hlt (scanned_of_runs hlt hafter)
      · obtain ⟨rfl, rfl⟩ := runs_done_iff.1 hafter
        exact .refused text hroom hlt (by simp)
      · obtain ⟨rfl, rfl⟩ := runs_done_iff.1 hafter
        exact .refused text hroom hlt (by simp)
    · by_cases hzero : 0 ∈ block.toList
      · simp only [afterPage, terminated?, if_pos hzero] at hafter
        obtain ⟨rfl, rfl⟩ := runs_done_iff.1 hafter
        exact .ended text hroom hlt hzero
      · simp only [afterPage, terminated?, if_neg hzero] at hafter
        have hpos : 0 < pageLength a room := pageLength_pos hroom
        exact .page hroom hlt hzero (ih _ (by omega) hafter)
  · rw [block_of_ge (by omega) (by omega)] at hblock
    obtain ⟨rfl, rfl⟩ := runs_done_iff.1 hblock
    obtain ⟨rfl, rfl⟩ := runs_done_iff.1 hafter
    exact .overflow text (by omega)

namespace Paged

theorem within (h : Paged a text room reads outcome) :
    ∀ x ∈ reads, x.Within a.value.toNat (a.value.toNat + room) := by
  have first {a : Address} {room : Nat} (left : room ≠ 0)
      (below : a.value.toNat + pageLength a room < 2 ^ 64)
      (found : Except MemoryError (Vector UInt8 (pageLength a room))) :
      BlockRead.Within a.value.toNat (a.value.toNat + room) ⟨⟨a, pageLength a room⟩, found⟩ :=
    (BlockRead.within_of_page (pageLength_pos left) (pageLength_le_pageSize a room) below
      found).mono (Nat.le_refl _) (Nat.add_le_add_left (pageLength_le a room) _)
  induction h with
  | full a text => simp
  | overflow text above => simp
  | refused text left below _ => simpa using first left below _
  | ended text left below _ => simpa using first left below _
  | @scanned a text room reads outcome p n left below rest =>
      have hle := pageLength_le a room
      have hrest := rest.within below (pageLength_le_pageSize a room)
      refine List.forall_mem_cons.2 ⟨first left below _, fun x hx => ?_⟩
      exact (hrest x hx).mono (Nat.le_refl _) (by omega)
  | @page a text room block reads outcome left below _ _ ih =>
      have hle := pageLength_le a room
      rw [Address.toNat_add_of_lt below] at ih
      refine List.forall_mem_cons.2 ⟨first left below _, fun x hx => ?_⟩
      exact (ih x hx).mono (by omega) (by omega)

theorem length_le (h : Paged a text room reads outcome) : reads.length ≤ room + 1 := by
  induction h with
  | full a text => simp
  | overflow text above => simp
  | refused text left below _ => simp
  | ended text left below _ => simp
  | @scanned a text room reads outcome p n left below rest =>
      exact Nat.succ_le_succ (Nat.le_trans rest.length_le (pageLength_le a room))
  | @page a text room block reads outcome left below _ _ ih =>
      have hpos : 0 < pageLength a room := pageLength_pos left
      rw [List.length_cons]
      omega

theorem outcome_of_refused (h : Paged a text room reads outcome) {front back : List BlockRead}
    {x : BlockRead} {e : MemoryError} (hreads : reads = front ++ x :: back)
    (hrefused : x.2 = .error e) (other : ∀ p n, e ≠ .unreadable p n) :
    back = [] ∧ outcome = .error e := by
  induction h generalizing front with
  | full a text => simp at hreads
  | overflow text above => simp at hreads
  | refused text left below _ =>
      rcases front with _ | ⟨y, front⟩
      · obtain ⟨rfl, rfl⟩ := List.cons.inj hreads
        cases hrefused
        exact ⟨rfl, rfl⟩
      · simp at hreads
  | ended text left below _ =>
      rcases front with _ | ⟨y, front⟩
      · obtain ⟨rfl, -⟩ := List.cons.inj hreads
        cases hrefused
      · simp at hreads
  | scanned p n left below rest =>
      rcases front with _ | ⟨y, front⟩
      · obtain ⟨rfl, -⟩ := List.cons.inj hreads
        cases hrefused
        exact absurd rfl (other p n)
      · exact rest.outcome_of_refused (List.cons.inj hreads).2 hrefused
  | page left below _ _ ih =>
      rcases front with _ | ⟨y, front⟩
      · obtain ⟨rfl, -⟩ := List.cons.inj hreads
        cases hrefused
      · exact ih (List.cons.inj hreads).2

theorem length_delivered_le (h : Paged a text room reads outcome) :
    (delivered reads).length ≤ room := by
  induction h with
  | full a text => simp
  | overflow text above => simp
  | refused text left below _ =>
      rw [delivered_cons_error]
      simp
  | @ended a text room block left below _ =>
      rw [delivered_cons_ok]
      simpa using pageLength_le a room
  | @scanned a text room reads outcome p n left below rest =>
      rw [delivered_cons_error]
      exact Nat.le_trans rest.length_delivered_le (pageLength_le a room)
  | @page a text room block reads outcome left below _ _ ih =>
      have hle := pageLength_le a room
      rw [delivered_cons_ok, List.length_append, Vector.length_toList]
      omega

theorem of_some (h : Paged a text room reads outcome) {found : List UInt8}
    (hfound : outcome = .ok (some found)) :
    0 ∈ delivered reads ∧ found = text ++ (delivered reads).takeWhile (· ≠ 0) := by
  induction h with
  | full a text => cases hfound
  | overflow text above => cases hfound
  | refused text left below _ => cases hfound
  | ended text left below zero =>
      cases hfound
      rw [delivered_cons_ok, delivered_nil, List.append_nil]
      exact ⟨zero, rfl⟩
  | scanned p n left below rest =>
      obtain ⟨hzero, hrest⟩ := rest.of_ok hfound
      rw [delivered_cons_error]
      exact ⟨hzero, Option.some.inj hrest⟩
  | @page a text room block reads outcome left below nonzero _ ih =>
      obtain ⟨hzero, hrest⟩ := ih hfound
      have hblock : ∀ b ∈ block.toList, decide (b ≠ 0) = true := by
        intro b hb
        apply decide_eq_true
        rintro rfl
        exact nonzero hb
      rw [delivered_cons_ok, List.takeWhile_append_of_pos hblock]
      exact ⟨List.mem_append_right _ hzero, by rw [hrest, List.append_assoc]⟩

theorem of_none (h : Paged a text room reads outcome) (hnone : outcome = .ok none) :
    0 ∉ delivered reads ∧ (delivered reads).length = room := by
  induction h with
  | full a text => simp
  | overflow text above => cases hnone
  | refused text left below _ => cases hnone
  | ended text left below zero => cases hnone
  | scanned p n left below rest => cases (rest.of_ok hnone).2
  | @page a text room block reads outcome left below nonzero _ ih =>
      obtain ⟨hnonzero, hlength⟩ := ih hnone
      have hle := pageLength_le a room
      rw [delivered_cons_ok, List.mem_append, List.length_append, Vector.length_toList]
      exact ⟨fun hzero => hzero.elim nonzero hnonzero, by omega⟩

theorem exists_rescan (h : Paged a text room reads outcome) :
    ∃ pages bytes, reads = pages ++ bytes ∧ Successive a pages ∧ Rescan pages bytes ∧
      ∀ x ∈ bytes, ∀ e, x.2 = .error e → outcome = .error e := by
  induction h with
  | full a text => exact ⟨[], [], rfl, .nil a, .none (by simp), by simp⟩
  | overflow text above => exact ⟨[], [], rfl, .nil _, .none (by simp), by simp⟩
  | @refused a text room e left below other =>
      refine ⟨_, [], (List.append_nil _).symm, .last (q := ⟨a, pageLength a room⟩) _, .none ?_,
        by simp⟩
      simpa using other
  | @ended a text room block left below _ =>
      refine ⟨_, [], (List.append_nil _).symm, .last (q := ⟨a, pageLength a room⟩) _, .none ?_,
        by simp⟩
      simp
  | @scanned a text room reads outcome p n left below rest =>
      obtain ⟨hsuccessive, hsingle⟩ := rest.successive
      have hbegun : reads ≠ [] := rest.ne_nil (Nat.ne_of_gt (pageLength_pos left))
      refine ⟨[_], reads, rfl, .last (q := ⟨a, pageLength a room⟩) _,
        .last [] hsuccessive hsingle hbegun rest.length_le, fun x hx e he => ?_⟩
      obtain ⟨front, back, hsplit⟩ := List.append_of_mem hx
      exact (rest.outcome_of_refused hsplit he).2
  | @page a text room block reads outcome left below _ _ ih =>
      obtain ⟨pages, bytes, rfl, hsuccessive, hrescan, hrefused⟩ := ih
      refine ⟨⟨⟨a, pageLength a room⟩, .ok block⟩ :: pages, bytes, rfl,
        .cons (q := ⟨a, pageLength a room⟩) block hsuccessive,
        hrescan.cons (q := ⟨a, pageLength a room⟩) block, hrefused⟩

theorem blames (h : Paged a text room reads outcome) {e : MemoryError} (he : outcome = .error e) :
    Blames a reads e := by
  induction h with
  | full a text => cases he
  | overflow text above =>
      cases he
      exact .top (by simp) (by simp) above
  | @refused a text room e' left below other =>
      cases he
      exact .answer [] ⟨a, pageLength a room⟩ e
  | @scanned a text room reads outcome p n left below rest =>
      rcases rest.of_error he with ⟨front, q, rfl⟩ | ⟨hdelivers, hlength, rfl⟩
      · exact .answer (_ :: front) q e
      · exact .behind [] (q := ⟨a, pageLength a room⟩) hdelivers hlength
  | ended text left below zero => cases he
  | page left below nonzero _ ih => exact (ih he).cons _ below

end Paged

theorem length_takeWhile_lt {bytes : List UInt8} (h : 0 ∈ bytes) :
    (bytes.takeWhile (· ≠ 0)).length < bytes.length := by
  have htaken : bytes.takeWhile (· ≠ 0) <+: bytes := List.takeWhile_prefix _
  refine Nat.lt_of_le_of_ne htaken.length_le fun hlength => ?_
  have hall := List.takeWhile_eq_self_iff.1 (htaken.eq_of_length hlength)
  simpa using hall 0 h

/-- Whatever is answered, and however the answers change, the reads for a text come to an end, and
each of them asks for at least one byte, within one page, within reach and below the top.  The pages
follow one another; behind a page that is unreadable there are only reads of its bytes, and behind
any other error there is nothing, and it is the outcome.  A text is what was delivered in front of
the first zero, and where no text is found without an error, all bytes within reach were delivered
and none is zero. -/
theorem text_reads_safe (answer : List BlockRead → (q : Request) → q.Answer) (a : Address)
    (maxLength : UInt64) (hmax : maxLength.toNat + 1 < 2 ^ 64) :
    let ended := (Reading.text a maxLength hmax).run.converse answer []
    let reads : List BlockRead := ended.2.reverse
    reads.length ≤ maxLength.toNat + 2 ∧
      (∀ x ∈ reads, x.Within a.value.toNat (a.value.toNat + (maxLength.toNat + 1))) ∧
      (∃ pages bytes, reads = pages ++ bytes ∧ Successive a pages ∧ Rescan pages bytes ∧
        ∀ x ∈ bytes, ∀ e, x.2 = .error e → ended.1 = .error e) ∧
      (∀ front x back e, reads = front ++ x :: back → x.2 = .error e →
        (∀ p n, e ≠ .unreadable p n) → back = [] ∧ ended.1 = .error e) ∧
      (∀ e, ended.1 = .error e → Blames a reads e) ∧
      (∀ found, ended.1 = .ok (some found) →
        0 ∉ found ∧ found.length ≤ maxLength.toNat ∧ 0 ∈ delivered reads ∧
          found = (delivered reads).takeWhile (· ≠ 0)) ∧
      (ended.1 = .ok none →
        (delivered reads).length = maxLength.toNat + 1 ∧ 0 ∉ delivered reads) := by
  intro ended reads
  have hpaged : Paged a [] (maxLength.toNat + 1) reads ended.1 :=
    paged_of_runs (runs_converse answer _)
  refine ⟨hpaged.length_le, hpaged.within, hpaged.exists_rescan,
    fun front x back e hsplit he => hpaged.outcome_of_refused hsplit he,
    fun e he => hpaged.blames he, fun found hfound => ?_, fun hnone => (hpaged.of_none hnone).symm⟩
  obtain ⟨hzero, htext⟩ := hpaged.of_some hfound
  rw [List.nil_append] at htext
  have hlength := length_takeWhile_lt hzero
  have hdelivered := hpaged.length_delivered_le
  refine ⟨fun hmem => ?_, by rw [htext]; omega, hzero, htext⟩
  rw [htext] at hmem
  simpa using List.mem_takeWhile_imp hmem

/-- A memory that refuses the first block and delivers another byte each time then. -/
def unsteady (said : List BlockRead) (q : Request) : q.Answer :=
  match said with
  | [] => .error (.unreadable q.address q.length)
  | [_] => .ok (Vector.replicate q.length 97)
  | _ => .ok (Vector.replicate q.length 0)

theorem text_reads_safe_unsteady :
    (256 : UInt64).toNat + 1 < 2 ^ 64 ∧
      ((Reading.text ⟨4094⟩ 256).run.converse unsteady []).1 = .ok (some [97]) ∧
      [97] = (delivered ((Reading.text ⟨4094⟩ 256).run.converse unsteady []).2.reverse).takeWhile
        (· ≠ 0) := by
  have hfound : ((Reading.text ⟨4094⟩ 256).run.converse unsteady []).1 = .ok (some [97]) := by
    rw [Reading.text, chunks]
    rfl
  have hsafe := text_reads_safe unsteady ⟨4094⟩ 256 (by decide)
  obtain ⟨-, -, -, hdelivered⟩ := hsafe.2.2.2.2.2.1 _ hfound
  exact ⟨by decide, hfound, hdelivered⟩

end Reading

end ObjectView.Memory
