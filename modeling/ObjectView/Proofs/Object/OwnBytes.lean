import ObjectView.Proofs.Memory.Edits
import ObjectView.Proofs.Object.Recognition

/-!
# The bytes of an object

An object that is found is made of its two words, of two words of its type, and of the name of the
type with the zero behind it.  More is read than that: the name is asked for in pages, and a page
that is not there as a whole is gone through byte by byte.  But nothing else is used, so the same
object is found again as long as these bytes are there.
-/

namespace ObjectView.Object

open Memory

variable {p : Debuggee} {a x name : Address} {o : Object}

/-- The bytes that an object is made of, with the name of its type at `name`. -/
def Owns (p : Debuggee) (o : Object) (name x : Address) : Prop :=
  o.address.Range (2 * p.pointerSize) x ∨
    (o.typeAddress.add p.pointerSize.toUInt64).Range p.pointerSize x ∨
    (o.typeAddress.add (3 * p.pointerSize).toUInt64).Range p.pointerSize x ∨
    name.Range (o.typeName.length + 1) x

instance (p : Debuggee) (o : Object) (name x : Address) : Decidable (Owns p o name x) :=
  inferInstanceAs (Decidable (_ ∨ _ ∨ _ ∨ _))

theorem pointerSize_lt (p : Debuggee) : p.pointerSize < 2 ^ 64 := by
  rw [Debuggee.pointerSize]
  rcases p.architecture.pointerSize_eq with h | h
  all_goals omega

/-! ## What is asked for -/

theorem asksOnly_reading {α : Type} {kind : Request → Prop} {r : Reading α}
    (h : r.run.AsksOnly kind) : (reading a r).run.AsksOnly kind := by
  have hrun : (reading a r).run = r.run >>= fun found =>
      pure (found.mapError (ObjectError.unreadable a)) := by
    rw [← map_eq_pure_bind]
    rfl
  rw [hrun]
  exact h.bind fun _ => trivial

theorem asksOnly_refuseIf {kind : Request → Prop} (defective : Bool) (defect : Defect) :
    (refuseIf a defective defect).run.AsksOnly kind := by
  cases defective with
  | false => trivial
  | true => trivial

theorem asksOnly_find (p : Debuggee) (a : Address) :
    (find p a).run.AsksOnly Request.BelowTop := by
  have hpointer (place : Address) :
      (reading a (Reading.pointer p.pointerSize place)).run.AsksOnly Request.BelowTop :=
    asksOnly_reading (Reading.asksOnly_pointer (pointerSize_lt p))
  have hsigned (place : Address) :
      (reading a (Reading.signed p.pointerSize place)).run.AsksOnly Request.BelowTop :=
    asksOnly_reading (Reading.asksOnly_signed (pointerSize_lt p))
  rw [find]
  split
  · trivial
  · refine .run_bind (asksOnly_refuseIf _ _) fun _ => ?_
    refine .run_bind (hsigned _) fun count => ?_
    refine .run_bind (asksOnly_refuseIf _ _) fun _ => ?_
    refine .run_bind (hpointer _) fun type => ?_
    refine .run_bind (asksOnly_refuseIf _ _) fun _ => ?_
    refine .run_bind (asksOnly_refuseIf _ _) fun _ => ?_
    refine .run_bind (hpointer _) fun metatype => ?_
    refine .run_bind (asksOnly_refuseIf _ _) fun _ => ?_
    refine .run_bind (hpointer _) fun name => ?_
    refine .run_bind (asksOnly_refuseIf _ _) fun _ => ?_
    refine .run_bind (asksOnly_reading (Reading.asksOnly_text name (by decide))) fun text => ?_
    split
    · trivial
    · split <;> trivial

/-! ## What is used -/

theorem length_of_nameOf? {bytes : List UInt8} {typeName : String}
    (h : nameOf? bytes = some typeName) : typeName.length = bytes.length := by
  obtain ⟨-, -, rfl⟩ := nameOf?_eq_some_iff.1 h
  rw [String.length_ofList, List.length_map]

/-- Memory that has the bytes of an object has the object. -/
theorem find_of_keeps {m m' : ByteMap} (h : m.Keeps (Owns p o name) m')
    (found : (find p a).run.result m.answer = .ok (some o))
    (hname : (Reading.pointer p.pointerSize
      (o.typeAddress.add (3 * p.pointerSize).toUInt64)).run.result m.answer = .ok name) :
    (find p a).run.result m'.answer = .ok (some o) := by
  have hwidth := pointerSize_lt p
  have ha : a ≠ .null := by
    rintro rfl
    cases found
  obtain ⟨count, type, metatype, start, bytes, typeName, haligned, hcount, hplausible, htype,
    htnull, htaligned, hmetatype, hmnull, hstart, hsnull, htext, htypeName, hfound⟩ :=
    (result_find_eq_ok_iff ha).1 found
  obtain rfl := Option.some.inj hfound
  obtain rfl : start = name := Except.ok.inj (hstart.symm.trans hname)
  have hfirst : ∀ x, a.Range p.pointerSize x → Owns p ⟨p, a, type, typeName, count⟩ start x :=
    fun x hx => .inl (hx.mono (by omega))
  have hsecond : ∀ x, (a.add p.pointerSize.toUInt64).Range p.pointerSize x →
      Owns p ⟨p, a, type, typeName, count⟩ start x := by
    intro x hx
    have hboth := hx.behind
    rw [← Nat.two_mul] at hboth
    exact .inl hboth
  have htext' : ∀ x, start.Range (bytes.length + 1) x →
      Owns p ⟨p, a, type, typeName, count⟩ start x := by
    intro x hx
    rw [← length_of_nameOf? htypeName] at hx
    exact .inr (.inr (.inr hx))
  exact (result_find_eq_ok_iff ha).2 ⟨count, type, metatype, start, bytes, typeName, haligned,
    h.result_signed hwidth hfirst hcount, hplausible, h.result_pointer hwidth hsecond htype,
    htnull, htaligned, h.result_pointer hwidth (fun _ hx => .inr (.inl hx)) hmetatype, hmnull,
    h.result_pointer hwidth (fun _ hx => .inr (.inr (.inl hx))) hstart, hsnull,
    h.result_text (by decide) htext' htext, htypeName, rfl⟩

/-- An object that is found in captured memory is found again, and is the same, after any number of
regions have been inserted at new places, and any number of patches have been tried beside the bytes
it is made of.  What stands behind the name of its type is none of them.  Addresses of a range that
reaches the top go on at null. -/
theorem found_after_edits (s t : Snapshot) (p : Debuggee) (a name : Address) (o : Object)
    (tidy : s.Tidy) (found : (find p a).run.result s.answer = .ok (some o))
    (hname : (Reading.pointer p.pointerSize
      (o.typeAddress.add (3 * p.pointerSize).toUInt64)).run.result s.answer = .ok name)
    (edits : Snapshot.Edits (Owns p o name) s t) :
    (find p a).run.result t.answer = .ok (some o) := by
  obtain ⟨tidy', hkeeps⟩ := edits.keeps tidy
  rw [tidy.apart.result_eq (asksOnly_find p a)] at found
  rw [tidy.apart.result_eq (Reading.asksOnly_pointer (pointerSize_lt p))] at hname
  rw [tidy'.apart.result_eq (asksOnly_find p a)]
  exact find_of_keeps hkeeps found hname

/-- An object and its type in narrow words, and the name of the type at the end of the region. -/
def captured : Snapshot :=
  Snapshot.empty.insert ⟨0x1000⟩ [
    1, 0, 0, 0, 8, 0x10, 0, 0,
    1, 0, 0, 0, 8, 0x10, 0, 0, 0, 0, 0, 0, 0x18, 0x10, 0, 0,
    0x64, 0x69, 0x63, 0x74, 0]

/-- A region right behind the name, a patch in it, one that would go on behind it, and one of the
count of the type. -/
def capturedThen : Snapshot :=
  (((captured.insert ⟨0x101d⟩ [7, 7, 7]).patched ⟨0x101d⟩ [1, 2]).patched ⟨0x101f⟩ [3, 4]).patched
    ⟨0x1008⟩ [2]

theorem found_after_edits_captured :
    let p : Debuggee := ⟨⟨1⟩, .x86⟩
    let o : Object := ⟨p, ⟨0x1000⟩, ⟨0x1008⟩, "dict", 1⟩
    captured.Tidy ∧ (find p ⟨0x1000⟩).run.result captured.answer = .ok (some o) ∧
      (Reading.pointer 4 ⟨0x1014⟩).run.result captured.answer = .ok ⟨0x1018⟩ ∧
      Snapshot.Edits (Owns p o ⟨0x1018⟩) captured capturedThen ∧
      (find p ⟨0x1000⟩).run.result capturedThen.answer = .ok (some o) := by
  intro p o
  have tidy : captured.Tidy := by decide
  have found : (find p ⟨0x1000⟩).run.result captured.answer = .ok (some o) := by decide +kernel
  have hname : (Reading.pointer 4 ⟨0x1014⟩).run.result captured.answer = .ok ⟨0x1018⟩ := by
    decide +kernel
  have inserted : Snapshot.Edit (Owns p o ⟨0x1018⟩) captured
      (captured.insert ⟨0x101d⟩ [7, 7, 7]) := .insert _ _ (by decide) (by decide)
  have edits : Snapshot.Edits (Owns p o ⟨0x1018⟩) captured capturedThen := by
    apply Relation.ReflTransGen.tail _ (.patch ⟨0x1008⟩ [2] (by decide))
    apply Relation.ReflTransGen.tail _ (.patch ⟨0x101f⟩ [3, 4] (by decide))
    apply Relation.ReflTransGen.tail _ (.patch ⟨0x101d⟩ [1, 2] (by decide))
    exact .single inserted
  exact ⟨tidy, found, hname, edits,
    found_after_edits captured capturedThen p _ _ o tidy found hname edits⟩

end ObjectView.Object
