import ObjectView.Proofs.Memory.TextReads
import ObjectView.Proofs.Object.Recognition

/-!
# The checks of an object

An object is looked for in thirteen steps, which are either reads or tests of what has been read.
They are written down here as a table, and the search is shown to go through it from its beginning.
The first check that fails decides: a read by the error it ended in, a test by its defect, and both
name the address of the object that was looked for.  Nothing is read behind it.
-/

namespace ObjectView.Object

open Memory Dialogue

/-- What has been read of an object so far; what has not is zero or nothing. -/
structure Words where
  count : Int := 0
  type : Address := .null
  metatype : Address := .null
  name : Address := .null
  text : Option (List UInt8) := none

/-- The object that the words describe. -/
def Words.object (w : Words) (p : Debuggee) (a : Address) : Object :=
  ⟨p, a, w.type, String.ofList ((w.text.getD []).map fun b => Char.ofNat b.toNat), w.count⟩

/-- A test of what has been read, or a further read. -/
inductive Check : Type 1
  | test (passes : Words → Bool) (defect : Words → Defect)
  | read {α : Type} (reading : Words → Reading α) (keep : Words → α → Words)

/-- The checks of the object at an address, in their order. -/
def checks (p : Debuggee) (a : Address) : List Check :=
  [.test (fun _ => p.pointerSize ∣ a.value.toNat) fun _ => .misaligned,
    .read (fun _ => Reading.signed p.pointerSize a) fun w count => { w with count },
    .test (fun w => 0 < w.count ∧ (p.pointerSize = 8 → w.count < 2 ^ 48))
      fun w => .implausibleCount w.count,
    .read (fun _ => Reading.pointer p.pointerSize (a.add p.pointerSize.toUInt64))
      fun w type => { w with type },
    .test (fun w => w.type ≠ .null) fun _ => .nullType,
    .test (fun w => p.pointerSize ∣ w.type.value.toNat) fun w => .misalignedType w.type,
    .read (fun w => Reading.pointer p.pointerSize (w.type.add p.pointerSize.toUInt64))
      fun w metatype => { w with metatype },
    .test (fun w => w.metatype ≠ .null) fun w => .nullMetatype w.type,
    .read (fun w => Reading.pointer p.pointerSize (w.type.add (3 * p.pointerSize).toUInt64))
      fun w name => { w with name },
    .test (fun w => w.name ≠ .null) fun _ => .nullName,
    .read (fun w => Reading.text w.name 256) fun w text => { w with text },
    .test (fun w => w.text ≠ none) fun _ => .unterminatedName,
    .test (fun w => w.text.getD [] ≠ [] && (w.text.getD []).all fun b => 0x20 ≤ b && b ≤ 0x7e)
      fun _ => .unprintableName]

/-- What a check of the object at `a` comes to after `w` has been read: the blocks that are read
for it, and either what has been read then or why there is no object. -/
def Check.Comes (a : Address) (w : Words) :
    Check → List BlockRead → Except ObjectError Words → Prop
  | .test passes defect, reads, outcome =>
      reads = [] ∧ outcome = if passes w then .ok w else .error (.malformed a (defect w))
  | .read reading keep, reads, outcome =>
      (∃ x, Runs (reading w).run reads (.ok x) ∧ outcome = .ok (keep w x)) ∨
        ∃ e, Runs (reading w).run reads (.error e) ∧ outcome = .error (.unreadable a e)

/-- All checks of a list are passed, one after the other. -/
inductive Passed (a : Address) : Words → List Check → List BlockRead → Words → Prop
  | nil (w : Words) : Passed a w [] [] w
  | cons {k : Check} {rest : List Check} {w w' w'' : Words} {first last : List BlockRead}
      (check : k.Comes a w first (.ok w')) (behind : Passed a w' rest last w'') :
      Passed a w (k :: rest) (first ++ last) w''

/-- The first check of a list that is not passed ends in an error. -/
def FirstFailing (a : Address) (w : Words) (checks : List Check) (reads : List BlockRead)
    (e : ObjectError) : Prop :=
  ∃ front k back passed w' last, checks = front ++ k :: back ∧ Passed a w front passed w' ∧
    k.Comes a w' last (.error e) ∧ reads = passed ++ last

/-! ## The search as a table -/

/-- Makes one check. -/
def Check.run (a : Address) (w : Words) : Check → Finding Words
  | .test passes defect => do
      refuseIf a (!passes w) (defect w)
      return w
  | .read r keep => do
      return keep w (← reading a (r w))

theorem isAligned_eq (p : Debuggee) (a : Address) :
    a.isAligned p.pointerSize.toUInt64 = decide (p.pointerSize ∣ a.value.toNat) := by
  rw [Bool.eq_iff_iff, isAligned_iff, decide_eq_true_eq]

theorem isPlausibleCount_eq (p : Debuggee) (count : Int) :
    (ObjectLayout.ofProcess p).isPlausibleCount count =
      decide (0 < count ∧ (p.pointerSize = 8 → count < 2 ^ 48)) := by
  rw [Bool.eq_iff_iff, isPlausibleCount_iff, decide_eq_true_eq]

theorem isNull_eq (a : Address) : a.isNull = !decide (a ≠ .null) := by
  obtain ⟨value⟩ := a
  rw [Bool.eq_iff_iff, Address.isNull, Address.null]
  simp

/-- The last two tests, and the object that is found if they are passed. -/
theorem finish_eq (p : Debuggee) (a : Address) (w : Words) :
    (match w.text with
      | none => throw (.malformed a .unterminatedName)
      | some bytes =>
          match nameOf? bytes with
          | none => throw (.malformed a .unprintableName)
          | some typeName => return some ⟨p, a, w.type, typeName, w.count⟩ :
        Finding (Option Object)) = do
      refuseIf a (!decide (w.text ≠ none)) .unterminatedName
      refuseIf a
        (!(w.text.getD [] ≠ [] && (w.text.getD []).all fun b => 0x20 ≤ b && b ≤ 0x7e))
        .unprintableName
      return some (w.object p a) := by
  obtain ⟨count, type, metatype, name, text⟩ := w
  cases text with
  | none => rfl
  | some bytes =>
      simp only [nameOf?, Option.getD_some, Words.object]
      by_cases hname : bytes ≠ [] ∧ bytes.all isPrintable
      · have hpasses : (bytes ≠ [] && bytes.all fun b => 0x20 ≤ b && b ≤ 0x7e) = true := by
          simpa [isPrintable] using hname
        simp only [if_pos hname, hpasses]
        rfl
      · have hfails : (bytes ≠ [] && bytes.all fun b => 0x20 ≤ b && b ≤ 0x7e) = false := by
          simpa [isPrintable] using hname
        simp only [if_neg hname, hfails]
        rfl

theorem find_eq {p : Debuggee} {a : Address} (ha : a ≠ .null) :
    find p a = do
      let w ← (checks p a).foldlM (Check.run a) {}
      return some (w.object p a) := by
  have hnull : ¬ a.isNull = true := by simpa [isNull_eq] using ha
  have hcount : a.add (ObjectLayout.ofProcess p).countOffset.toUInt64 = a := Address.add_zero a
  rw [find, if_neg hnull]
  simp only [checks, List.foldlM_cons, List.foldlM_nil, Check.run, bind_assoc, pure_bind,
    ← isAligned_eq, ← isPlausibleCount_eq, ← isNull_eq, hcount]
  -- The search and the table take the same steps up to the name, which is tested in one go.
  refine bind_congr fun _ => bind_congr fun count => bind_congr fun _ => bind_congr fun type => ?_
  refine bind_congr fun _ => bind_congr fun _ => bind_congr fun metatype => bind_congr fun _ => ?_
  refine bind_congr fun name => bind_congr fun _ => bind_congr fun text => ?_
  exact finish_eq p a ⟨count, type, metatype, name, text⟩

/-! ## What can be read -/

theorem runs_reading_iff {α : Type} {a : Address} {r : Reading α} {reads : List BlockRead}
    {found : Except ObjectError α} :
    Runs (reading a r).run reads found ↔
      ∃ read, Runs r.run reads read ∧ found = read.mapError (.unreadable a) :=
  runs_map_iff

theorem runs_check_iff {a : Address} {w : Words} {k : Check} {reads : List BlockRead}
    {outcome : Except ObjectError Words} :
    Runs (k.run a w).run reads outcome ↔ k.Comes a w reads outcome := by
  cases k with
  | test passes defect =>
      cases hpasses : passes w with
      | true => simpa [Check.run, Check.Comes, refuseIf, hpasses] using runs_done_iff
      | false => simpa [Check.run, Check.Comes, refuseIf, hpasses] using runs_done_iff
  | read r keep =>
      rw [Check.run, Check.Comes, runs_run_bind_iff]
      simp only [runs_reading_iff]
      constructor
      · rintro (⟨e, ⟨read, hread, he⟩, rfl⟩ | ⟨x, first, last, rfl, ⟨read, hread, hx⟩, hlast⟩)
        · cases read with
          | error e' =>
              cases he
              exact .inr ⟨e', hread, rfl⟩
          | ok x => cases he
        · cases read with
          | error e' => cases hx
          | ok x' =>
              cases hx
              obtain ⟨rfl, rfl⟩ := runs_done_iff.1 hlast
              rw [List.append_nil]
              exact .inl ⟨x, hread, rfl⟩
      · rintro (⟨x, hread, rfl⟩ | ⟨e, hread, rfl⟩)
        · exact .inr ⟨x, reads, [], (List.append_nil reads).symm, ⟨.ok x, hread, rfl⟩, .done _⟩
        · exact .inl ⟨_, ⟨.error e, hread, rfl⟩, rfl⟩

section Lists

variable {a : Address} {w w' : Words} {k : Check} {ks : List Check} {reads : List BlockRead}
  {e : ObjectError}

theorem passed_nil_iff : Passed a w [] reads w' ↔ reads = [] ∧ w' = w := by
  constructor
  · rintro ⟨⟩
    exact ⟨rfl, rfl⟩
  · rintro ⟨rfl, rfl⟩
    exact .nil w'

theorem passed_cons_iff :
    Passed a w (k :: ks) reads w' ↔
      ∃ w₁ first last, reads = first ++ last ∧ k.Comes a w first (.ok w₁) ∧
        Passed a w₁ ks last w' := by
  constructor
  · rintro ⟨⟩
    exact ⟨_, _, _, rfl, by assumption, by assumption⟩
  · rintro ⟨w₁, first, last, rfl, hcheck, hbehind⟩
    exact .cons hcheck hbehind

theorem not_firstFailing_nil : ¬ FirstFailing a w [] reads e := by
  rintro ⟨front, k, back, passed, w', last, hsplit, -⟩
  simp at hsplit

theorem firstFailing_cons_iff :
    FirstFailing a w (k :: ks) reads e ↔
      k.Comes a w reads (.error e) ∨
        ∃ w₁ first last, reads = first ++ last ∧ k.Comes a w first (.ok w₁) ∧
          FirstFailing a w₁ ks last e := by
  constructor
  · rintro ⟨_ | ⟨k', front⟩, failing, back, passed, w', last, hsplit, hpassed, hfails, rfl⟩
    · obtain ⟨rfl, rfl⟩ := List.cons.inj hsplit
      obtain ⟨rfl, rfl⟩ := passed_nil_iff.1 hpassed
      exact .inl hfails
    · obtain ⟨rfl, rfl⟩ := List.cons.inj hsplit
      obtain ⟨w₁, first, rest, rfl, hcheck, hbehind⟩ := passed_cons_iff.1 hpassed
      exact .inr ⟨w₁, first, rest ++ last, List.append_assoc .., hcheck, front, failing, back,
        rest, w', last, rfl, hbehind, hfails, rfl⟩
  · rintro (hfails | ⟨w₁, first, rest, rfl, hcheck, front, failing, back, passed, w', last, rfl,
      hpassed, hfails, rfl⟩)
    · exact ⟨[], k, ks, [], w, reads, rfl, .nil w, hfails, rfl⟩
    · exact ⟨k :: front, failing, back, first ++ passed, w', last, rfl, .cons hcheck hpassed,
        hfails, (List.append_assoc ..).symm⟩

/-- The checks of a list are made one after the other, up to the first one that fails. -/
theorem runs_foldlM_iff {outcome : Except ObjectError Words} :
    Runs (ks.foldlM (Check.run a) w).run reads outcome ↔
      (∃ e, outcome = .error e ∧ FirstFailing a w ks reads e) ∨
        ∃ w', outcome = .ok w' ∧ Passed a w ks reads w' := by
  induction ks generalizing w reads with
  | nil =>
      simp only [not_firstFailing_nil, passed_nil_iff, and_false, exists_false, false_or]
      rw [List.foldlM_nil]
      constructor
      · intro h
        obtain ⟨rfl, rfl⟩ := runs_done_iff.1 h
        exact ⟨w, rfl, rfl, rfl⟩
      · rintro ⟨_, rfl, rfl, rfl⟩
        exact .done _
  | cons k ks ih =>
      simp only [List.foldlM_cons, runs_run_bind_iff, runs_check_iff, ih, firstFailing_cons_iff,
        passed_cons_iff]
      constructor
      · rintro (⟨e, hfails, rfl⟩ | ⟨w₁, first, last, rfl, hcheck, ⟨e, rfl, hfails⟩ | ⟨w', rfl,
          hpassed⟩⟩)
        · exact .inl ⟨e, rfl, .inl hfails⟩
        · exact .inl ⟨e, rfl, .inr ⟨w₁, first, last, rfl, hcheck, hfails⟩⟩
        · exact .inr ⟨w', rfl, w₁, first, last, rfl, hcheck, hpassed⟩
      · rintro (⟨e, rfl, hfails | ⟨w₁, first, last, rfl, hcheck, hfails⟩⟩ | ⟨w', rfl, w₁, first,
          last, rfl, hcheck, hpassed⟩)
        · exact .inl ⟨e, hfails, rfl⟩
        · exact .inr ⟨w₁, first, last, rfl, hcheck, .inl ⟨e, rfl, hfails⟩⟩
        · exact .inr ⟨w₁, first, last, rfl, hcheck, .inr ⟨w', rfl, hpassed⟩⟩

end Lists

theorem runs_find_iff {p : Debuggee} {a : Address} (ha : a ≠ .null) {reads : List BlockRead}
    {found : Except ObjectError (Option Object)} :
    Runs (find p a).run reads found ↔
      (∃ e, found = .error e ∧ FirstFailing a {} (checks p a) reads e) ∨
        ∃ w, found = .ok (some (w.object p a)) ∧ Passed a {} (checks p a) reads w := by
  rw [find_eq ha, runs_run_bind_iff]
  simp only [runs_foldlM_iff]
  constructor
  · rintro (⟨e, ⟨e', he, hfails⟩ | ⟨w, he, -⟩, rfl⟩ | ⟨w, first, last, rfl, ⟨e, he, -⟩ | ⟨w', hw,
      hpassed⟩, hlast⟩)
    · cases he
      exact .inl ⟨e, rfl, hfails⟩
    · cases he
    · cases he
    · cases hw
      obtain ⟨rfl, rfl⟩ := runs_done_iff.1 hlast
      rw [List.append_nil]
      exact .inr ⟨w, rfl, hpassed⟩
  · rintro (⟨e, rfl, hfails⟩ | ⟨w, rfl, hpassed⟩)
    · exact .inl ⟨e, .inl ⟨e, rfl, hfails⟩, rfl⟩
    · exact .inr ⟨w, reads, [], (List.append_nil reads).symm, .inr ⟨w, rfl, hpassed⟩, .done _⟩

/-! ## The words of a header -/

/-- What a read of a word at `place` comes to: the word is asked for and the answer decides, or it
would reach the top of the address space and nothing is asked. -/
def AsksWord {α : Type} (place : Address) (width : Nat) (reads : List BlockRead)
    (outcome : Except MemoryError α) : Prop :=
  (reads = [] ∧ outcome = .error (.overflow place width) ∧ 2 ^ 64 ≤ place.value.toNat + width) ∨
    ∃ found : Except MemoryError (Vector UInt8 width), reads = [⟨⟨place, width⟩, found⟩] ∧
      place.value.toNat + width < 2 ^ 64 ∧ ∀ e, outcome = .error e ↔ found = .error e

theorem asksWord_of_runs_block_map {α : Type} {place : Address} {width : Nat}
    (hwidth : width < 2 ^ 64) {f : Vector UInt8 width → α} {reads : List BlockRead}
    {outcome : Except MemoryError α}
    (h : Runs (f <$> Reading.block place width).run reads outcome) :
    AsksWord place width reads outcome := by
  rw [ExceptT.run_map, runs_map_iff] at h
  obtain ⟨found, hblock, rfl⟩ := h
  rcases Nat.lt_or_ge (place.value.toNat + width) (2 ^ 64) with hlt | hge
  · refine .inr ⟨found, (Reading.runs_block_of_lt hlt).1 hblock, hlt, fun e => ?_⟩
    cases found <;> simp [Except.map]
  · rw [Reading.block_of_ge hwidth hge] at hblock
    obtain ⟨rfl, rfl⟩ := runs_done_iff.1 hblock
    exact .inl ⟨rfl, rfl, hge⟩

theorem asksWord_signed {place : Address} {width : Nat} (hwidth : width < 2 ^ 64)
    {reads : List BlockRead} {outcome : Except MemoryError Int}
    (h : Runs (Reading.signed width place).run reads outcome) :
    AsksWord place width reads outcome := by
  apply asksWord_of_runs_block_map hwidth
  simpa only [Reading.signed, Reading.word, bind_assoc, pure_bind, map_eq_pure_bind] using h

theorem asksWord_pointer {place : Address} {width : Nat} (hwidth : width < 2 ^ 64)
    {reads : List BlockRead} {outcome : Except MemoryError Address}
    (h : Runs (Reading.pointer width place).run reads outcome) :
    AsksWord place width reads outcome := by
  apply asksWord_of_runs_block_map hwidth
  simpa only [Reading.pointer, Reading.word, bind_assoc, pure_bind, map_eq_pure_bind] using h

/-! ## The first check that fails -/

/-- Whoever holds the memory, and however they answer, the search for an object fails exactly where
one of its checks does, with the error of the first one.  What is read are the blocks of the checks
up to this one, or of all of them if an object is found.  A word of a header is asked for as a
whole, and its error is passed on as it is.  At the null address nothing is read. -/
theorem first_failing_check_decides (answer : List BlockRead → (q : Request) → q.Answer)
    (p : Debuggee) (a : Address) (ha : a ≠ .null) :
    let ended := (find p a).run.converse answer []
    let reads : List BlockRead := ended.2.reverse
    (∀ e, ended.1 = .error e ↔ FirstFailing a {} (checks p a) reads e) ∧
      (∀ found, ended.1 = .ok found ↔
        ∃ w, found = some (w.object p a) ∧ Passed a {} (checks p a) reads w) ∧
      (∀ place said outcome, Runs (Reading.signed p.pointerSize place).run said outcome →
        AsksWord place p.pointerSize said outcome) ∧
      (∀ place said outcome, Runs (Reading.pointer p.pointerSize place).run said outcome →
        AsksWord place p.pointerSize said outcome) ∧
      (find p .null).run.converse answer [] = (.ok none, []) := by
  intro ended reads
  have hwidth : p.pointerSize < 2 ^ 64 := by
    rcases p.architecture.pointerSize_eq with h | h <;> simp [Debuggee.pointerSize, h]
  have hruns : Runs (find p a).run reads ended.1 := runs_converse answer (find p a).run
  refine ⟨fun e => ?_, fun found => ?_, fun _ _ _ => asksWord_signed hwidth,
    fun _ _ _ => asksWord_pointer hwidth, rfl⟩
  · constructor
    · intro he
      rcases (runs_find_iff ha).1 hruns with ⟨e', he', hfails⟩ | ⟨w, hw, -⟩
      · cases he.symm.trans he'
        exact hfails
      · cases he.symm.trans hw
    · intro hfails
      exact hruns.unique ((runs_find_iff ha).2 (.inl ⟨e, rfl, hfails⟩))
  · constructor
    · intro hfound
      rcases (runs_find_iff ha).1 hruns with ⟨e, he, -⟩ | ⟨w, hw, hpassed⟩
      · cases hfound.symm.trans he
      · cases hfound.symm.trans hw
        exact ⟨w, rfl, hpassed⟩
    · rintro ⟨w, rfl, hpassed⟩
      exact hruns.unique ((runs_find_iff ha).2 (.inr ⟨w, rfl, hpassed⟩))

/-- The memory of the dictionary, which is gone after two answers. -/
def vanishing (said : List BlockRead) (q : Request) : q.Answer :=
  if said.length < 2 then dictionary.answer q else .error (.system "gone")

theorem first_failing_check_decides_vanishing :
    (⟨0x1000⟩ : Address) ≠ .null ∧
      (((find ⟨⟨1⟩, .x86_64⟩ ⟨0x1000⟩).run.converse vanishing []).2.reverse.map (·.1)) =
        [⟨⟨0x1000⟩, 8⟩, ⟨⟨0x1008⟩, 8⟩, ⟨⟨0x1018⟩, 8⟩] ∧
      FirstFailing ⟨0x1000⟩ {} (checks ⟨⟨1⟩, .x86_64⟩ ⟨0x1000⟩)
        ((find ⟨⟨1⟩, .x86_64⟩ ⟨0x1000⟩).run.converse vanishing []).2.reverse
        (.unreadable ⟨0x1000⟩ (.system "gone")) := by
  have hnull : (⟨0x1000⟩ : Address) ≠ .null := by decide
  have hended : ((find ⟨⟨1⟩, .x86_64⟩ ⟨0x1000⟩).run.converse vanishing []).1 =
      .error (.unreadable ⟨0x1000⟩ (.system "gone")) := by rfl
  have hdecides := first_failing_check_decides vanishing ⟨⟨1⟩, .x86_64⟩ ⟨0x1000⟩ hnull
  exact ⟨hnull, by rfl, (hdecides.1 _).1 hended⟩

end ObjectView.Object
