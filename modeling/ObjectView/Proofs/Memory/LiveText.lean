import Mathlib.Data.Finset.Card
import Mathlib.Order.Interval.Finset.Nat
import ObjectView.Memory.Live
import ObjectView.Proofs.Memory.TextReads

/-!
# Texts in the memory of a running process

Whether memory can be read is the same all over a page, and a text asks for blocks within one page
only.  So the system copies such a block as a whole or refuses it, never a part of it, and with a
block it refuses the first byte as well, which ends the reads.  A text costs one call for each page,
and one more at most.
-/

namespace ObjectView.Memory

open Dialogue

/-- The pages that the `length` bytes from an address on lie in. -/
def pagesMet (a : Address) (length : Nat) : Finset Nat :=
  (Finset.Ico a.value.toNat (a.value.toNat + length)).image (· / pageSize)

namespace ByteMap

variable {m : ByteMap} {a : Address} {length : Nat}

/-- If a byte is missing, its page is. -/
def Pagewise (m : ByteMap) : Prop :=
  ∀ a b : Address, a.value.toNat / pageSize = b.value.toNat / pageSize → m a = none → m b = none

theorem Pagewise.eq_none (pagewise : m.Pagewise)
    (hpage : a.value.toNat % pageSize + length ≤ pageSize) (hlt : a.value.toNat + length < 2 ^ 64)
    (h : m.bytes? a length = none) : m a = none := by
  by_contra hfirst
  have hall : ∃ bytes, m.bytes? a length = some bytes := by
    refine exists_bytes?_iff.2 fun i hi => Option.ne_none_iff_exists'.1 fun hmissing => ?_
    refine hfirst (pagewise _ _ ?_ hmissing)
    rw [Address.toNat_add_of_lt (by omega)]
    rw [pageSize] at hpage ⊢
    omega
  obtain ⟨bytes, hbytes⟩ := hall
  rw [h] at hbytes
  cases hbytes

theorem error_of_answer {q : Request} {e : MemoryError} (h : m.answer q = .error e) :
    e = .unreadable q.address q.length ∧ m.bytes? q.address q.length = none := by
  cases hbytes : m.bytes? q.address q.length with
  | none =>
      rw [answer, read_of_none hbytes] at h
      exact ⟨(Except.error.inj h).symm, rfl⟩
  | some bytes =>
      obtain ⟨block, hread, -⟩ := exists_read_of_some hbytes
      rw [answer, hread] at h
      cases h

theorem answer_one_of_none (h : m a = none) : m.answer ⟨a, 1⟩ = .error (.unreadable a 1) :=
  read_of_none (bytes?_succ_of_none h 0)

end ByteMap

/-! ## Pages -/

theorem card_pagesMet_pos {a : Address} {length : Nat} (h : length ≠ 0) :
    0 < (pagesMet a length).card := by
  refine Finset.card_pos.2 (Finset.image_nonempty.2 (Finset.nonempty_Ico.2 ?_))
  omega

namespace Reading

variable {m : ByteMap} {a : Address} {text : List UInt8} {room : Nat} {reads : List BlockRead}
  {outcome : Outcome}

theorem card_pagesMet_behind (hroom : room ≠ 0) (hlt : a.value.toNat + pageLength a room < 2 ^ 64) :
    (pagesMet (a.add (pageLength a room).toUInt64) (room - pageLength a room)).card + 1 ≤
      (pagesMet a room).card := by
  have hle := pageLength_le a room
  have hpos : 0 < pageLength a room := pageLength_pos hroom
  have hbehind := Address.toNat_add_of_lt hlt
  -- What is behind the first block begins with another page.
  have hother : a.value.toNat / pageSize ∉
      pagesMet (a.add (pageLength a room).toUInt64) (room - pageLength a room) := by
    intro hmem
    obtain ⟨x, hx, hpage⟩ := Finset.mem_image.1 hmem
    rw [Finset.mem_Ico, hbehind] at hx
    rw [pageLength, pageSize] at hx
    rw [pageSize] at hpage
    omega
  rw [← Finset.card_insert_of_notMem hother]
  refine Finset.card_le_card (Finset.insert_subset ?_ (Finset.image_subset_image ?_))
  · refine Finset.mem_image_of_mem _ (Finset.mem_Ico.2 ?_)
    omega
  · rw [hbehind]
    exact Finset.Ico_subset_Ico (by omega) (by omega)

/-- The first byte is refused, and nothing is read behind it. -/
theorem Scanned.of_missing {count : Nat} (h : Scanned a text count reads outcome)
    (hcount : count ≠ 0) (answered : ∀ x ∈ reads, x.2 = m.answer x.1) (hmissing : m a = none) :
    reads = [⟨⟨a, 1⟩, .error (.unreadable a 1)⟩] ∧ outcome = .error (.unreadable a 1) := by
  have hanswer := ByteMap.answer_one_of_none hmissing
  cases h with
  | exhausted => exact absurd rfl hcount
  | refused a text count e =>
      obtain rfl := Except.error.inj ((answered _ List.mem_cons_self).trans hanswer)
      exact ⟨rfl, rfl⟩
  | zero => cases (answered _ List.mem_cons_self).trans hanswer
  | byte => cases (answered _ List.mem_cons_self).trans hanswer

/-- Where memory is missing page by page, the blocks that are delivered come first.  Behind them
one block may be refused, and then its first byte is. -/
theorem Paged.of_pagewise (h : Paged a text room reads outcome)
    (answered : ∀ x ∈ reads, x.2 = m.answer x.1) (pagewise : m.Pagewise)
    (hlt : a.value.toNat + room < 2 ^ 64) :
    ∃ pages : List BlockRead, (∀ x ∈ pages, ∃ block, x.2 = .ok block) ∧
      (reads = pages ∧ pages.length ≤ (pagesMet a room).card ∨
        ∃ b n, reads = pages ++ [⟨⟨b, n⟩, .error (.unreadable b n)⟩,
            ⟨⟨b, 1⟩, .error (.unreadable b 1)⟩] ∧
          pages.length + 1 ≤ (pagesMet a room).card ∧ outcome = .error (.unreadable b 1)) := by
  induction h with
  | full a text => exact ⟨[], nofun, .inl ⟨rfl, Nat.zero_le _⟩⟩
  | @overflow a text room above =>
      have hle := pageLength_le a room
      omega
  | @refused a text room e left below other =>
      have hanswer : m.answer ⟨a, pageLength a room⟩ = .error e :=
        (answered _ List.mem_cons_self).symm
      exact absurd (ByteMap.error_of_answer hanswer).1 (other _ _)
  | @ended a text room block left below _ =>
      refine ⟨[⟨⟨a, pageLength a room⟩, .ok block⟩], ?_, .inl ⟨rfl, card_pagesMet_pos left⟩⟩
      exact List.forall_mem_singleton.2 ⟨block, rfl⟩
  | @scanned a text room reads outcome p n left below rest =>
      have hanswer : m.answer ⟨a, pageLength a room⟩ = .error (.unreadable p n) :=
        (answered _ List.mem_cons_self).symm
      obtain ⟨hpage, hbytes⟩ := ByteMap.error_of_answer hanswer
      obtain ⟨rfl, rfl⟩ := MemoryError.unreadable.inj hpage
      have hmissing := pagewise.eq_none (pageLength_le_pageSize p room) below hbytes
      obtain ⟨rfl, rfl⟩ := rest.of_missing (Nat.ne_of_gt (pageLength_pos left))
        (fun x hx => answered x (List.mem_cons_of_mem _ hx)) hmissing
      exact ⟨[], nofun, .inr ⟨p, _, rfl, card_pagesMet_pos left, rfl⟩⟩
  | @page a text room block reads outcome left below _ _ ih =>
      have hle := pageLength_le a room
      have hcard := card_pagesMet_behind left below
      obtain ⟨pages, hpages, hshape⟩ := ih (fun x hx => answered x (List.mem_cons_of_mem _ hx))
        (by rw [Address.toNat_add_of_lt below]; omega)
      refine ⟨⟨⟨a, pageLength a room⟩, .ok block⟩ :: pages,
        List.forall_mem_cons.2 ⟨⟨block, rfl⟩, hpages⟩, ?_⟩
      rcases hshape with ⟨rfl, hcount⟩ | ⟨b, n, rfl, hcount, houtcome⟩
      · exact .inl ⟨rfl, Nat.le_trans (Nat.succ_le_succ hcount) hcard⟩
      · exact .inr ⟨b, n, rfl, Nat.le_trans (Nat.succ_le_succ hcount) hcard, houtcome⟩

end Reading

/-! ## Calls -/

namespace Live

namespace AddressSpace

variable {space : AddressSpace} {a : Address} {length : Nat} {bytes : List UInt8}

/-- The bytes of the pages that can be read. -/
def byteMap (space : AddressSpace) : ByteMap := fun a =>
  if space.isReadable (a.value.toNat / pageSize) then some (space.byte a.value.toNat) else none

theorem byteMap_eq_none_iff :
    space.byteMap a = none ↔ space.isReadable (a.value.toNat / pageSize) = false := by
  simp [byteMap]

theorem byteMap_eq_some_iff {b : UInt8} :
    space.byteMap a = some b ↔
      space.isReadable (a.value.toNat / pageSize) = true ∧ space.byte a.value.toNat = b := by
  simp [byteMap]

theorem pagewise_byteMap (space : AddressSpace) : space.byteMap.Pagewise := by
  intro a b hpage hmissing
  rw [byteMap_eq_none_iff] at hmissing ⊢
  rwa [← hpage]

theorem prefixFrom_of_bytes? (hlt : a.value.toNat + length < 2 ^ 64)
    (h : space.byteMap.bytes? a length = some bytes) :
    space.prefixFrom a.value.toNat length = bytes := by
  induction length generalizing a bytes with
  | zero =>
      rw [ByteMap.bytes?_zero] at h
      exact Option.some.inj h
  | succ length ih =>
      obtain ⟨b, rest, hb, hrest, rfl⟩ := ByteMap.bytes?_succ_eq_some_iff.1 h
      obtain ⟨hreadable, hbyte⟩ := byteMap_eq_some_iff.1 hb
      have hnext : (a.add 1).value.toNat = a.value.toNat + 1 :=
        Address.toNat_add_one_of_lt (by omega)
      have hrest := ih (by omega) hrest
      rw [hnext] at hrest
      rw [prefixFrom, if_pos ⟨a.value.toNat_lt, hreadable⟩, hbyte, hrest]

theorem copy_of_bytes? (hlt : a.value.toNat + length < 2 ^ 64)
    (h : space.byteMap.bytes? a length = some bytes) : space.copy a length = .copied bytes := by
  have hlength := ByteMap.length_of_bytes? h
  rw [copy, prefixFrom_of_bytes? hlt h]
  cases bytes with
  | nil => exact if_pos hlength.symm
  | cons b rest => rfl

theorem copy_of_missing (hlength : length ≠ 0) (h : space.byteMap a = none) :
    ∃ text, space.copy a length = .refused 14 text := by
  obtain ⟨count, rfl⟩ := Nat.exists_eq_succ_of_ne_zero hlength
  rw [byteMap_eq_none_iff] at h
  have hprefix : space.prefixFrom a.value.toNat (count + 1) = [] := by
    rw [prefixFrom, if_neg (fun hboth => by simp [h] at hboth)]
  rw [copy, hprefix]
  exact ⟨_, if_neg hlength⟩

end AddressSpace

/-- The question to the system for a block of a process. -/
def callFor (process : ProcessId) (q : Request) : CopyRequest :=
  ⟨process.number, q.address, q.length⟩

section Read

variable {process : ProcessId} {answer : CopyRequest → Copy} {q : Request}
  (hpid : process.number.toNat < pidLimit) (hlength : q.length ≠ 0)

include hpid hlength

theorem transcript_read :
    (read process q).transcript answer = [⟨callFor process q, answer (callFor process q)⟩] := by
  unfold read callFor
  rw [dif_neg hlength, if_neg (Nat.not_le.2 hpid), put_bind, transcript_ask]
  cases answer ⟨process.number, q.address, q.length⟩ with
  | copied bytes =>
      dsimp only
      split <;> rfl
  | refused code text =>
      dsimp only
      split <;> rfl

theorem result_read_of_copied {m : ByteMap} {bytes : List UInt8}
    (hcopy : answer (callFor process q) = .copied bytes)
    (hbytes : m.bytes? q.address q.length = some bytes) :
    (read process q).result answer = m.answer q := by
  unfold callFor at hcopy
  obtain ⟨block, hread, rfl⟩ := ByteMap.exists_read_of_some hbytes
  unfold read
  rw [dif_neg hlength, if_neg (Nat.not_le.2 hpid), put_bind, result_ask, hcopy, ByteMap.answer,
    hread]
  have hall : block.toList.length = q.length := Vector.length_toList
  simp only [dif_pos hall]
  rfl

theorem result_read_of_refused {text : String}
    (hcopy : answer (callFor process q) = .refused 14 text) :
    (read process q).result answer = .error (.unreadable q.address q.length) := by
  unfold callFor at hcopy
  unfold read
  rw [dif_neg hlength, if_neg (Nat.not_le.2 hpid), put_bind, result_ask, hcopy]
  rfl

end Read

section Copies

variable {processes : UInt32 → Option AddressSpace} {process : ProcessId} {space : AddressSpace}
  {x : BlockRead} {start stop : Nat}

theorem answer_callFor (hspace : processes process.number = some space) (q : Request) :
    answer processes (callFor process q) = space.copy q.address q.length := by
  simp only [answer, callFor, hspace]

/-- A block that was delivered had been copied as a whole. -/
theorem copy_of_ok (hx : x.Within start stop) {block : Vector UInt8 x.1.length}
    (h : space.byteMap.answer x.1 = .ok block) :
    space.copy x.1.address x.1.length = .copied block.toList :=
  AddressSpace.copy_of_bytes? hx.belowTop (ByteMap.read_eq_ok_iff.1 h)

/-- A block within a page that was not delivered had been refused from its first byte on. -/
theorem copy_of_error (hx : x.Within start stop) {e : MemoryError}
    (h : space.byteMap.answer x.1 = .error e) :
    ∃ text, space.copy x.1.address x.1.length = .refused 14 text := by
  obtain ⟨-, hbytes⟩ := ByteMap.error_of_answer h
  have hmissing := space.pagewise_byteMap.eq_none hx.inPage hx.belowTop hbytes
  exact AddressSpace.copy_of_missing (Nat.ne_of_gt hx.nonempty) hmissing

theorem result_read (hpid : process.number.toNat < pidLimit)
    (hspace : processes process.number = some space) (hx : x.Within start stop) :
    (read process x.1).result (answer processes) = space.byteMap.answer x.1 := by
  have hlength : x.1.length ≠ 0 := Nat.ne_of_gt hx.nonempty
  cases h : space.byteMap.answer x.1 with
  | ok block =>
      have hcopy := (answer_callFor hspace x.1).trans (copy_of_ok hx h)
      rw [result_read_of_copied hpid hlength hcopy (ByteMap.read_eq_ok_iff.1 h), h]
  | error e =>
      obtain ⟨text, hrefused⟩ := copy_of_error hx h
      have hcopy := (answer_callFor hspace x.1).trans hrefused
      rw [result_read_of_refused hpid hlength hcopy, (ByteMap.error_of_answer h).1]

/-- The call for a block, with the copy that is made. -/
def copying (process : ProcessId) (space : AddressSpace) (x : BlockRead) :
    Exchange CopyRequest fun _ => Copy :=
  ⟨callFor process x.1, space.copy x.1.address x.1.length⟩

theorem paged_text {m : ByteMap} {a : Address} {maxLength : UInt64}
    (hmax : maxLength.toNat + 1 < 2 ^ 64) :
    Reading.Paged a [] (maxLength.toNat + 1)
      ((Reading.text a maxLength hmax).run.transcript m.answer)
      ((Reading.text a maxLength hmax).run.result m.answer) :=
  Reading.paged_of_runs (runs_converse (fun _ => m.answer) _)

/-- The blocks that are asked for over the pages are the calls that are made. -/
theorem text_of_calls (hpid : process.number.toNat < pidLimit)
    (hspace : processes process.number = some space) {a : Address} {maxLength : UInt64}
    (hmax : maxLength.toNat + 1 < 2 ^ 64) :
    let reading := (Reading.text a maxLength hmax).run
    (reading.translate (read process)).result (answer processes) =
        reading.result space.byteMap.answer ∧
      (reading.translate (read process)).transcript (answer processes) =
        (reading.transcript space.byteMap.answer).map (copying process space) := by
  intro reading
  have hwithin := (paged_text (m := space.byteMap) (a := a) hmax).within
  have hanswered : ∀ x ∈ reading.transcript space.byteMap.answer,
      (read process x.1).result (answer processes) = x.2 := fun x hx =>
    (result_read hpid hspace (hwithin x hx)).trans (eq_answer_of_mem_transcript hx).symm
  obtain ⟨hended, hcalls⟩ := translate_of_answered hanswered
  refine ⟨hended, hcalls.trans ?_⟩
  rw [List.map_eq_flatMap]
  refine List.flatMap_congr fun x hx => ?_
  rw [transcript_read hpid (Nat.ne_of_gt (hwithin x hx).nonempty), answer_callFor hspace]
  rfl

end Copies

/-- A text of a running process is what looking at one byte after the other finds.  Each call for it
is met in full or refused.  If one is refused, the next one asks for its first byte only, is refused
as well, and is the last one.  So there is one call for each page at most, and one more. -/
theorem text_calls_of_pages (processes : UInt32 → Option AddressSpace) (process : ProcessId)
    (space : AddressSpace) (hpid : process.number.toNat < pidLimit)
    (hspace : processes process.number = some space) (a : Address) (maxLength : UInt64)
    (hlt : a.value.toNat + maxLength.toNat + 1 < 2 ^ 64) :
    let reading := (Reading.text a maxLength (Reading.fits_of_lt hlt)).run.translate (read process)
    let ended := reading.result (answer processes)
    let calls := reading.transcript (answer processes)
    ended = space.byteMap.scan a (maxLength.toNat + 1) ∧
      (∀ x ∈ calls, ∀ bytes, x.2 = .copied bytes → bytes.length = x.1.length) ∧
      (∃ whole : List (Exchange CopyRequest fun _ => Copy),
        (∀ x ∈ whole, ∃ bytes, x.2 = .copied bytes) ∧
          (calls = whole ∨ ∃ b n text text',
            calls = whole ++ [⟨callFor process ⟨b, n⟩, .refused 14 text⟩,
              ⟨callFor process ⟨b, 1⟩, .refused 14 text'⟩] ∧
            ended = .error (.unreadable b 1))) ∧
      calls.length ≤ (pagesMet a (maxLength.toNat + 1)).card + 1 := by
  intro reading ended calls
  have hmax : maxLength.toNat + 1 < 2 ^ 64 := by omega
  obtain ⟨hended, hcalls⟩ := text_of_calls (a := a) hpid hspace hmax
  have hpaged := paged_text (m := space.byteMap) (a := a) hmax
  generalize hreads : (Reading.text a maxLength hmax).run.transcript space.byteMap.answer = reads
    at hcalls hpaged
  have hanswered : ∀ x ∈ reads, x.2 = space.byteMap.answer x.1 :=
    fun x hx => eq_answer_of_mem_transcript (hreads ▸ hx)
  have hwithin := hpaged.within
  have hcalls : calls = reads.map (copying process space) := hcalls
  have hended : ended = (Reading.text a maxLength hmax).run.result space.byteMap.answer := hended
  have hcopied {x : BlockRead} (hx : x ∈ reads) {block : Vector UInt8 x.1.length}
      (h : x.2 = .ok block) : (copying process space x).2 = .copied block.toList :=
    copy_of_ok (hwithin x hx) ((hanswered x hx).symm.trans h)
  have hrefused {x : BlockRead} (hx : x ∈ reads) {e : MemoryError} (h : x.2 = .error e) :
      ∃ text, (copying process space x).2 = .refused 14 text :=
    copy_of_error (hwithin x hx) ((hanswered x hx).symm.trans h)
  obtain ⟨pages, hpages, hshape⟩ := hpaged.of_pagewise hanswered space.pagewise_byteMap hlt
  refine ⟨hended.trans (Reading.result_text hlt), ?_,
    ⟨pages.map (copying process space), ?_, ?_⟩, ?_⟩
  · intro x hx bytes hbytes
    obtain ⟨y, hy, rfl⟩ := List.mem_map.1 (hcalls ▸ hx)
    cases hfound : y.2 with
    | ok block =>
        cases (hcopied hy hfound).symm.trans hbytes
        exact Vector.length_toList
    | error e =>
        obtain ⟨text, hcopy⟩ := hrefused hy hfound
        cases hcopy.symm.trans hbytes
  · intro x hx
    obtain ⟨y, hy, rfl⟩ := List.mem_map.1 hx
    obtain ⟨block, hblock⟩ := hpages y hy
    have hmem : y ∈ reads := by
      rcases hshape with ⟨rfl, -⟩ | ⟨b, n, rfl, -⟩
      · exact hy
      · exact List.mem_append_left _ hy
    exact ⟨_, hcopied hmem hblock⟩
  · rw [hcalls]
    rcases hshape with ⟨rfl, -⟩ | ⟨b, n, rfl, -, houtcome⟩
    · exact .inl rfl
    · obtain ⟨text, hblock⟩ := hrefused (List.mem_append_right pages List.mem_cons_self) rfl
      obtain ⟨text', hbyte⟩ :=
        hrefused (List.mem_append_right pages (List.mem_cons_of_mem _ List.mem_cons_self)) rfl
      refine .inr ⟨b, n, text, text', ?_, hended.trans houtcome⟩
      rw [← hblock, ← hbyte, List.map_append]
      rfl
  · rw [hcalls, List.length_map]
    rcases hshape with ⟨rfl, hcount⟩ | ⟨b, n, rfl, hcount, -⟩
    · omega
    · simp only [List.length_append, List.length_cons, List.length_nil]
      omega

/-- Only the first page can be read, and no byte of it is zero. -/
def firstPage : AddressSpace where
  byte _ := 97
  isReadable page := page = 0

/-- The end of the page is copied, the block behind it is refused, and then the first byte of this
block, which makes three calls for two pages. -/
theorem text_calls_of_pages_firstPage :
    let reading := (Reading.text ⟨4094⟩ 256).run.translate (read ⟨1⟩)
    (1 : UInt32).toNat < pidLimit ∧ 4094 + 256 + 1 < 2 ^ 64 ∧
      reading.result (answer fun _ => some firstPage) = .error (.unreadable ⟨4096⟩ 1) ∧
      (pagesMet ⟨4094⟩ 257).card = 2 ∧
      (reading.transcript (answer fun _ => some firstPage)).length ≤ 3 := by
  intro reading
  obtain ⟨hended, -, -, hcount⟩ := text_calls_of_pages (fun _ => some firstPage) ⟨1⟩ firstPage
    (by decide) rfl ⟨4094⟩ 256 (by decide)
  have hpages : (pagesMet ⟨4094⟩ 257).card = 2 := by decide +kernel
  have htext : firstPage.byteMap.HasText ⟨4094⟩ [97, 97] := ⟨by decide, by decide⟩
  have hscan : firstPage.byteMap.scan ⟨4094⟩ 257 = .error (.unreadable ⟨4096⟩ 1) :=
    ByteMap.scan_of_missing htext (by decide) (by decide)
  have hthree := hcount.trans_eq (congrArg (· + 1) hpages)
  exact ⟨by decide, by decide, hended.trans hscan, hpages, hthree⟩

end Live

end ObjectView.Memory
