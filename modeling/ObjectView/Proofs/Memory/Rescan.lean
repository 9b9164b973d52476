import ObjectView.Proofs.Memory.Composing
import ObjectView.Proofs.Memory.PastTop
import ObjectView.Proofs.Memory.TextReads

/-!
# Going through a block that was refused

A read of captured memory is refused where its loop comes to an address that no region has a byte
for.  Where regions reach into one another, a read that starts elsewhere may see other bytes, but
the loop asks for the region of its cursor just as a read of this one byte does.  So the byte is
refused alone too, and a text that is gone through byte by byte ends in the block: at a zero, or at
a byte that cannot be read.  The error about the byte behind the block does not occur.
-/

namespace ObjectView.Memory

open Dialogue

namespace Snapshot

variable {s : Snapshot} {cursor : UInt64} {length count : Nat} {a : Address} {q : Request}
  {e : MemoryError}

/-! ## The byte that a read was refused for -/

/-- The loop stands where no region has a byte when it gives up. -/
theorem Gathers.exists_gap {passes : List Pass} {found : Except Stop (List UInt8)}
    (h : s.Gathers cursor length passes found) (hgap : found = .error .gap) :
    ∃ i < length, s.spot? (cursor + i.toUInt64) = none := by
  induction h with
  | done cursor => cases hgap
  | @gap cursor length left nowhere =>
      refine ⟨0, Nat.pos_of_ne_zero left, ?_⟩
      rw [show cursor + (0 : Nat).toUInt64 = cursor from UInt64.add_zero cursor]
      exact nowhere
  | overflow => cases hgap
  | @pass cursor length spot passes found left inside _ _ ih =>
      obtain ⟨i, hi, hspot⟩ := ih (map_eq_error_iff.1 hgap)
      have hplace := congrArg Address.value
        (Address.add_add_toUInt64 ⟨cursor⟩ (spot.block length).length i)
      refine ⟨(spot.block length).length + i, by omega, ?_⟩
      rw [← hspot]
      exact congrArg s.spot? hplace.symm

theorem exists_read_one_refused (h : s.read q = .error (.failed e)) :
    ∃ i < q.length, s.read ⟨q.address.add i.toUInt64, 1⟩ =
      .error (.failed (.unreadable (q.address.add i.toUInt64) 1)) := by
  cases hgather : s.gather q.address.value q.length with
  | ok bytes =>
      obtain ⟨block, hblock, -⟩ := exists_read_of_ok hgather
      cases h.symm.trans hblock
  | error stop =>
      cases stop with
      | gap =>
          obtain ⟨passes, hpasses⟩ := s.exists_gathers q.address.value q.length
          obtain ⟨i, hi, hspot⟩ := hpasses.exists_gap hgather
          exact ⟨i, hi, read_of_error (q := ⟨q.address.add i.toUInt64, 1⟩)
            (gather_of_gap Nat.one_ne_zero hspot)⟩
      | overflow => cases h.symm.trans (read_of_error hgather)

/-! ## Byte by byte -/

/-- The reads of single bytes, one behind the other. -/
def singles (s : Snapshot) (a : Address) (count : Nat) : List BlockRead :=
  (List.range count).map fun i => ⟨⟨a.add i.toUInt64, 1⟩, s.answer _⟩

theorem singles_succ (s : Snapshot) (a : Address) (count : Nat) :
    s.singles a (count + 1) = ⟨⟨a, 1⟩, s.answer _⟩ :: s.singles (a.add 1) count := by
  rw [singles, List.range_succ_eq_map, List.map_cons, List.map_map, Address.add_zero_toUInt64,
    singles]
  congr 2
  funext i
  rw [Function.comp_apply, Address.add_one_add]

/-- A block is gone through byte by byte up to a zero or a byte that is refused, inside the block.
Before that, `text` was found. -/
structure EndsInside (s : Snapshot) (a : Address) (length : Nat) (text : List UInt8)
    (reads : List BlockRead) (outcome : Outcome) (found : List UInt8) : Prop where
  inside : found.length < length
  nonzero : 0 ∉ found
  reads_eq : reads = s.singles a (found.length + 1)
  bytes : ∀ i (hi : i < found.length), s.read ⟨a.add i.toUInt64, 1⟩ = .ok #v[found[i]]
  last : s.read ⟨a.add found.length.toUInt64, 1⟩ = .ok #v[0] ∧
      outcome = .ok (some (text ++ found)) ∨
    s.read ⟨a.add found.length.toUInt64, 1⟩ =
        .error (.failed (.unreadable (a.add found.length.toUInt64) 1)) ∧
      outcome = .error (.unreadable (a.add found.length.toUInt64) 1)

theorem EndsInside.of_refused (hlt : a.value.toNat + 1 < 2 ^ 64)
    (hrefused : s.answer ⟨a, 1⟩ = .error e) (text : List UInt8) (count : Nat) :
    s.EndsInside a (count + 1) text [⟨⟨a, 1⟩, .error e⟩] (.error e) [] where
  inside := Nat.succ_pos count
  nonzero := List.not_mem_nil
  reads_eq := by
    rw [List.length_nil, Nat.zero_add, singles_succ, hrefused]
    rfl
  bytes := by simp
  last := by
    have hread := (answer_eq_error_iff (q := ⟨a, 1⟩) hlt).1 hrefused
    obtain rfl := Fault.failed.inj (eq_unreadable_of_read (q := ⟨a, 1⟩) hlt hread)
    rw [List.length_nil, Address.add_zero_toUInt64]
    exact .inr ⟨hread, rfl⟩

theorem EndsInside.of_zero (hlt : a.value.toNat + 1 < 2 ^ 64)
    (hzero : s.answer ⟨a, 1⟩ = .ok #v[0]) (text : List UInt8) (count : Nat) :
    s.EndsInside a (count + 1) text [⟨⟨a, 1⟩, .ok #v[0]⟩] (.ok (some text)) [] where
  inside := Nat.succ_pos count
  nonzero := List.not_mem_nil
  reads_eq := by
    rw [List.length_nil, Nat.zero_add, singles_succ, hzero]
    rfl
  bytes := by simp
  last := by
    rw [List.length_nil, Address.add_zero_toUInt64, List.append_nil]
    exact .inl ⟨(answer_eq_ok_iff (q := ⟨a, 1⟩) hlt).1 hzero, rfl⟩

theorem EndsInside.cons {b : UInt8} {text found : List UInt8} {reads : List BlockRead}
    {outcome : Outcome} (hlt : a.value.toNat + 1 < 2 ^ 64)
    (hb : s.answer ⟨a, 1⟩ = .ok #v[b]) (hnonzero : b ≠ 0)
    (h : s.EndsInside (a.add 1) count (text ++ [b]) reads outcome found) :
    s.EndsInside a (count + 1) text (⟨⟨a, 1⟩, .ok #v[b]⟩ :: reads) outcome (b :: found) where
  inside := Nat.succ_lt_succ h.inside
  nonzero := by simp [hnonzero.symm, h.nonzero]
  reads_eq := by rw [List.length_cons, singles_succ, hb, h.reads_eq]
  bytes := by
    intro i hi
    cases i with
    | zero =>
        rw [Address.add_zero_toUInt64]
        exact (answer_eq_ok_iff (q := ⟨a, 1⟩) hlt).1 hb
    | succ i =>
        rw [← Address.add_one_add]
        exact h.bytes i (Nat.lt_of_succ_lt_succ hi)
  last := by
    have hlast := h.last
    rw [Address.add_one_add, List.append_assoc] at hlast
    exact hlast

theorem EndsInside.ne_behind {text found : List UInt8} {reads : List BlockRead} {outcome : Outcome}
    (h : s.EndsInside a length text reads outcome found) (hlt : a.value.toNat + length < 2 ^ 64) :
    outcome ≠ .error (.unreadable (a.add length.toUInt64) 1) := by
  intro hbehind
  rcases h.last with ⟨-, hend⟩ | ⟨-, hend⟩
  · cases hend.symm.trans hbehind
  · have hinside := h.inside
    obtain ⟨hplace, -⟩ := MemoryError.unreadable.inj (Except.error.inj (hend.symm.trans hbehind))
    have hvalue := congrArg (fun p : Address => p.value.toNat) hplace
    simp only [Address.toNat_add_of_lt hlt,
      Address.toNat_add_of_lt (show a.value.toNat + found.length < 2 ^ 64 by omega)] at hvalue
    omega

end Snapshot

namespace Reading

open Snapshot

variable {s : Snapshot} {a : Address} {text : List UInt8} {count room : Nat}
  {reads front back : List BlockRead} {outcome : Outcome} {q : Request} {e : MemoryError}

/-- Going through bytes one of which is refused ends among them. -/
theorem Scanned.endsInside (h : Scanned a text count reads outcome)
    (hlt : a.value.toNat + count < 2 ^ 64) (hanswers : ∀ x ∈ reads, x.2 = s.answer x.1)
    (hrefused : ∃ i < count, ∃ f, s.read ⟨a.add i.toUInt64, 1⟩ = .error f) :
    ∃ found, s.EndsInside a count text reads outcome found := by
  induction h with
  | exhausted a text =>
      obtain ⟨i, hi, -⟩ := hrefused
      exact absurd hi (Nat.not_lt_zero i)
  | refused a text count e =>
      have hanswer : s.answer ⟨a, 1⟩ = .error e := (hanswers _ List.mem_cons_self).symm
      exact ⟨[], .of_refused (by omega) hanswer text count⟩
  | @zero a text count block isZero =>
      have hanswer : s.answer ⟨a, 1⟩ = .ok block := (hanswers _ List.mem_cons_self).symm
      obtain rfl : block = #v[0] := Vector.toList_inj.1 isZero
      exact ⟨[], .of_zero (by omega) hanswer text count⟩
  | @byte a text count b block reads outcome isByte nonzero _ ih =>
      have hanswer : s.answer ⟨a, 1⟩ = .ok block := (hanswers _ List.mem_cons_self).symm
      obtain rfl : block = #v[b] := Vector.toList_inj.1 isByte
      have hfirst : a.value.toNat + 1 < 2 ^ 64 := by omega
      have hbehind : (a.add 1).value.toNat + count < 2 ^ 64 := by
        rw [Address.toNat_add_one_of_lt hfirst]
        omega
      have hrest : ∃ i < count, ∃ f, s.read ⟨(a.add 1).add i.toUInt64, 1⟩ = .error f := by
        obtain ⟨i, hi, f, hf⟩ := hrefused
        cases i with
        | zero =>
            rw [Address.add_zero_toUInt64] at hf
            cases hf.symm.trans ((answer_eq_ok_iff (q := ⟨a, 1⟩) hfirst).1 hanswer)
        | succ i =>
            rw [← Address.add_one_add] at hf
            exact ⟨i, Nat.lt_of_succ_lt_succ hi, f, hf⟩
      obtain ⟨found, hfound⟩ :=
        ih hbehind (fun x hx => hanswers x (List.mem_cons_of_mem _ hx)) hrest
      exact ⟨b :: found, .cons hfirst hanswer nonzero hfound⟩

/-- The first block that is refused is gone through byte by byte, and that ends inside it. -/
theorem Paged.endsInside (h : Paged a text room reads outcome)
    (hanswers : ∀ x ∈ reads, x.2 = s.answer x.1) (hreads : reads = front ++ ⟨q, .error e⟩ :: back)
    (hfront : ∀ x ∈ front, ∃ block, x.2 = .ok block) :
    q.address.value.toNat + q.length < 2 ^ 64 ∧
      ∃ found, s.EndsInside q.address q.length (text ++ delivered front) back outcome found := by
  induction h generalizing front with
  | full a text => simp at hreads
  | overflow text above => simp at hreads
  | @refused a text room e left below other =>
      have hbelow : Request.BelowTop ⟨a, pageLength a room⟩ := below
      have herror := (answer_eq_error_iff hbelow).1 (hanswers _ List.mem_cons_self).symm
      exact absurd (Fault.failed.inj (eq_unreadable_of_read hbelow herror)) (other _ _)
  | @scanned a text room reads outcome p n left below rest =>
      rcases front with _ | ⟨y, front⟩
      · obtain ⟨hhead, rfl⟩ := List.cons.inj hreads
        cases hhead
        have hbelow : Request.BelowTop ⟨a, pageLength a room⟩ := below
        have herror := (answer_eq_error_iff hbelow).1 (hanswers _ List.mem_cons_self).symm
        obtain ⟨i, hi, hf⟩ := exists_read_one_refused herror
        rw [delivered_nil, List.append_nil]
        exact ⟨below, rest.endsInside below (fun x hx => hanswers x (List.mem_cons_of_mem _ hx))
          ⟨i, hi, _, hf⟩⟩
      · obtain ⟨rfl, -⟩ := List.cons.inj hreads
        obtain ⟨block, hblock⟩ := hfront _ List.mem_cons_self
        cases hblock
  | ended text left below zero =>
      rcases front with _ | ⟨y, front⟩
      · cases (List.cons.inj hreads).1
      · simp at hreads
  | @page a text room block reads outcome left below nonzero _ ih =>
      rcases front with _ | ⟨y, front⟩
      · cases (List.cons.inj hreads).1
      · obtain ⟨rfl, hrest⟩ := List.cons.inj hreads
        rw [delivered_cons_ok, ← List.append_assoc]
        exact ih (fun x hx => hanswers x (List.mem_cons_of_mem _ hx)) hrest
          fun x hx => hfront x (List.mem_cons_of_mem _ hx)

/-- A read of captured memory is refused only if a read of one of its bytes alone is, and below the
top nothing else keeps it from its bytes.  So if a text is read and a block is refused, the text is
gone through in this block up to a zero or a byte that is refused, and the byte behind the block is
never to blame. -/
theorem rescan_ends_inside (s : Snapshot) :
    (∀ q e, s.read q = .error (.failed e) → ∃ i < q.length,
      s.read ⟨q.address.add i.toUInt64, 1⟩ =
        .error (.failed (.unreadable (q.address.add i.toUInt64) 1))) ∧
      (∀ q : Request, q.BelowTop → s.read q ≠ .error .panicked) ∧
      ∀ (a : Address) (maxLength : UInt64) (hmax : maxLength.toNat + 1 < 2 ^ 64),
        let ended := (Reading.text a maxLength hmax).run.converse (fun _ => s.answer) []
        ∀ front q e back, ended.2.reverse = front ++ ⟨q, .error e⟩ :: back →
          (∀ x ∈ front, ∃ block, x.2 = .ok block) →
            (∃ found, s.EndsInside q.address q.length (delivered front) back ended.1 found) ∧
              ended.1 ≠ .error (.unreadable (q.address.add q.length.toUInt64) 1) := by
  refine ⟨fun q e => exists_read_one_refused, fun q hlt hpanic => ?_, ?_⟩
  · exact gather_ne_overflow hlt (read_eq_panicked_iff.1 hpanic)
  intro a maxLength hmax ended front q e back hreads hfront
  have hpaged : Paged a [] (maxLength.toNat + 1) ended.2.reverse ended.1 :=
    paged_of_runs (runs_converse _ _)
  obtain ⟨hlt, found, hfound⟩ := hpaged.endsInside
    (fun x hx => eq_answer_of_mem_transcript hx) hreads hfront
  exact ⟨⟨found, hfound⟩, hfound.ne_behind hlt⟩

/-- A text in a region that another one reaches into.  The two bytes behind the other one are there
in a read of the whole, and not for a read of theirs alone. -/
theorem rescan_ends_inside_covering :
    let ended := (Reading.text ⟨0x1000⟩ 7).run.converse (fun _ => covering.answer) []
    let reads : List BlockRead := ended.2.reverse
    reads = [] ++ ⟨⟨⟨0x1000⟩, 8⟩, .error (.unreadable ⟨0x1000⟩ 8)⟩ :: covering.singles ⟨0x1000⟩ 3 ∧
      (∃ found, covering.EndsInside ⟨0x1000⟩ 8 [] (covering.singles ⟨0x1000⟩ 3) ended.1 found) ∧
      ended.1 ≠ .error (.unreadable ⟨0x1008⟩ 1) ∧ ended.1 = .error (.unreadable ⟨0x1002⟩ 1) := by
  intro ended reads
  have hreads : reads = [] ++ ⟨⟨⟨0x1000⟩, 8⟩, .error (.unreadable ⟨0x1000⟩ 8)⟩ ::
      covering.singles ⟨0x1000⟩ 3 := by
    decide +kernel
  have hend := (rescan_ends_inside covering).2.2 ⟨0x1000⟩ 7 (by decide) _ _ _ _ hreads nofun
  exact ⟨hreads, hend.1, hend.2, by decide +kernel⟩

end Reading

end ObjectView.Memory
