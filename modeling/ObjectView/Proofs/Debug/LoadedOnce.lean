import ObjectView.Debug.SymbolFile
import ObjectView.Proofs.Conversation

/-!
# A file is loaded once

Files come, change and go while symbols are asked for.  The file of a `SymbolFile` is read for the
first declaration that is looked up, and never again: from then on every question is answered as
one that is the first and only one, asked when the file was as it was found then.
-/

namespace ObjectView.Debug

open Dialogue

/-- All files by path at some moment, each with its bytes or with why it cannot be read. -/
abbrev Files := String → Except String ByteArray

/-- The surroundings of a symbol file at some moment. -/
def Files.answer (files : Files) : (c : FileCall) → c.Answer
  | .read path => files path
  | .log _ => ()

abbrev FileCall.Said := List (Exchange FileCall FileCall.Answer)

/-- Whether a call leaves the files alone. -/
def FileCall.IsLog : FileCall → Prop
  | .read _ => False
  | .log _ => True

namespace SymbolFile

/-- What a symbol file can be asked. -/
inductive Query
  | declaredType (position : LexicalPosition)
  | symbolName (v : Value)
  | description
  deriving DecidableEq

inductive Reply
  | typeName (name : Option String)
  | description (text : String)
  deriving DecidableEq

/-- The declaration that has to be looked up for a query. -/
def Query.position? : Query → Option LexicalPosition
  | declaredType position => some position
  | symbolName v =>
      match v.origin with
      | .root position => position
      | .child _ => none
  | description => none

def ask (s : SymbolFile) : Query → Loading (Reply × SymbolFile)
  | .declaredType position => do
      let (name, s) ← s.declaredType position
      return (.typeName name, s)
  | .symbolName v => do
      let (name, s) ← s.symbolName v
      return (.typeName name, s)
  | .description => return (.description s.describe, s)

/-- A query, and the files at the time when it is made. -/
structure Step where
  query : Query
  files : Files

/-- What a query comes to: the reply, what was read and logged for it, and the state behind it. -/
structure Turn where
  reply : Reply
  said : FileCall.Said
  state : Option Bool

def take (s : SymbolFile) (x : Step) : Turn × SymbolFile :=
  let (reply, after) := (s.ask x.query).result x.files.answer
  (⟨reply, (s.ask x.query).transcript x.files.answer, after.state⟩, after)

def run : SymbolFile → List Step → List Turn
  | _, [] => []
  | s, x :: rest => (s.take x).1 :: run (s.take x).2 rest

/-- The symbols of the file at a path, as long as nothing has been read. -/
def opened (path : String) (parse : Parse) : SymbolFile where
  path
  parse

/-- What a query comes to if it is the only one, for a file that is found so. -/
def fresh (path : String) (parse : Parse) (found : Except String ByteArray) (q : Query) : Turn :=
  ((opened path parse).take ⟨q, fun _ => found⟩).1

/-! ## Reading the file -/

/-- What a file that is found so holds. -/
def held (s : SymbolFile) (found : Except String ByteArray) : Option Info :=
  match interpret s.parse found with
  | .ok info => info
  | .error _ => none

/-- What is logged when a file is found so: nothing, unless it is of no use. -/
def notes (s : SymbolFile) (found : Except String ByteArray) : List Log.Event :=
  match interpret s.parse found with
  | .ok (some _) => []
  | .ok none => [⟨.debug, Log.Target.debugSymbols, s!"{s.path} has no DWARF debug info", []⟩]
  | .error e =>
      [⟨.debug, Log.Target.debugSymbols, s!"failed to load symbols from {s.path}: {e.message}", []⟩]

/-- What is said when a file is read and found so. -/
def opening (s : SymbolFile) (found : Except String ByteArray) : FileCall.Said :=
  ⟨.read s.path, found⟩ :: (s.notes found).map fun event => ⟨.log event, ()⟩

/-- The symbols of a file that has been read. -/
def remembering (s : SymbolFile) (info : Option Info) : SymbolFile :=
  { s with loaded := some info }

variable {s : SymbolFile} {info : Option Info} {q : Query} {x : Step}
  {files : Files}

theorem load_answered (s : SymbolFile) (files : Files) :
    (load s.path s.parse).result files.answer = s.held (files s.path) ∧
      (load s.path s.parse).transcript files.answer = s.opening (files s.path) := by
  rw [load, result_bind, transcript_bind, result_put, transcript_put, opening, held, notes]
  change _ ∧ _ :: _ = _
  rw [Files.answer]
  cases interpret s.parse (files s.path) with
  | error e => exact ⟨rfl, rfl⟩
  | ok info => cases info <;> exact ⟨rfl, rfl⟩

/-- Nothing is in the file, as it was found when it was read, or else as it would be found now. -/
def HasNothing (s : SymbolFile) (files : Files) : Prop :=
  s.loaded.getD (s.held (files s.path)) = none

theorem result_info (s : SymbolFile) (files : Files) :
    (s.info.result files.answer).1 = s.loaded.getD (s.held (files s.path)) := by
  rw [info]
  cases s.loaded with
  | some found => rfl
  | none =>
      have hheld : (load s.path s.parse).result files.answer = s.held (files s.path) :=
        (s.load_answered files).1
      rw [result_bind, hheld]
      rfl

/-- No value has a symbol in a file without anything in it. -/
theorem HasNothing.result_symbolName (h : s.HasNothing files) (v : Value) :
    ((s.symbolName v).result files.answer).1 = none := by
  have hinfo : (s.info.result files.answer).1 = none := (result_info s files).trans h
  rw [symbolName]
  split
  · rw [declaredType, result_bind]
    cases hread : s.info.result files.answer with
    | mk found s' =>
        rw [hread] at hinfo
        obtain rfl : found = none := hinfo
        rfl
  · rfl

/-- A query that looks something up does so whether it asks for the declaration or for the symbol
of a value. -/
theorem ask_of_position {position : LexicalPosition} (h : q.position? = some position) :
    s.ask q = do
      let (name, s) ← s.declaredType position
      return (.typeName name, s) := by
  cases q with
  | declaredType given =>
      obtain rfl := Option.some.inj h
      rfl
  | description => cases h
  | symbolName v =>
      rw [Query.position?] at h
      rw [ask, symbolName]
      cases horigin : v.origin with
      | child resultType =>
          rw [horigin] at h
          cases h
      | root given =>
          rw [horigin] at h
          obtain rfl : given = some position := h
          rfl

/-- The reply to a query that looks nothing up. -/
def plainReply (s : SymbolFile) : Query → Reply
  | .description => .description s.describe
  | _ => .typeName none

theorem ask_of_no_position (h : q.position? = none) : s.ask q = pure (s.plainReply q, s) := by
  cases q with
  | declaredType position => cases h
  | description => rfl
  | symbolName v =>
      rw [Query.position?] at h
      rw [ask, symbolName]
      cases horigin : v.origin with
      | child resultType => rfl
      | root given =>
          rw [horigin] at h
          obtain rfl : given = none := h
          rfl

/-- The first look-up reads the file, and goes on as if it had been read before. -/
theorem ask_of_not_loaded (hs : s.loaded = none) (h : q.position? ≠ none) :
    s.ask q = load s.path s.parse >>= fun info => (s.remembering info).ask q := by
  obtain ⟨position, hposition⟩ := Option.ne_none_iff_exists'.1 h
  have hinfo : s.info = load s.path s.parse >>= fun info => (s.remembering info).info := by
    rw [info, hs]
    rfl
  simp only [ask_of_position hposition, declaredType, hinfo, bind_assoc]

/-! ## A file that has been read -/

theorem ask_remembering_some {info : Info} {position : LexicalPosition}
    (h : q.position? = some position) :
    (s.remembering (some info)).ask q = lookUp s.path info position >>= fun name =>
      pure (.typeName name, s.remembering (some info)) := by
  have hlook : (s.remembering (some info)).declaredType position =
      lookUp s.path info position >>= fun name => pure (name, s.remembering (some info)) := rfl
  rw [ask_of_position h, hlook, bind_assoc]
  rfl

theorem ask_remembering_none (s : SymbolFile) (q : Query) :
    (s.remembering none).ask q =
      pure ((s.remembering none).plainReply q, s.remembering none) := by
  cases h : q.position? with
  | none => exact ask_of_no_position h
  | some position =>
      rw [ask_of_position h]
      cases q with
      | description => cases h
      | _ => rfl

theorem result_lookUp (path : String) (info : Info) (position : LexicalPosition)
    (answer : (c : FileCall) → c.Answer) :
    (lookUp path info position).result answer =
      (info.declaredType position.instruction.value position.variableName).toOption.join := by
  rw [lookUp]
  cases info.declaredType position.instruction.value position.variableName with
  | ok name => rfl
  | error activity => rfl

theorem asksOnly_lookUp (path : String) (info : Info) (position : LexicalPosition) :
    (lookUp path info position).AsksOnly FileCall.IsLog := by
  rw [lookUp]
  cases info.declaredType position.instruction.value position.variableName with
  | ok name => exact .bind (.put trivial) fun _ => trivial
  | error activity => exact .bind (.put trivial) fun _ => trivial

/-- The file is not read again. -/
theorem asksOnly_ask (s : SymbolFile) (info : Option Info) (q : Query) :
    ((s.remembering info).ask q).AsksOnly FileCall.IsLog := by
  cases info with
  | none =>
      rw [ask_remembering_none]
      trivial
  | some info =>
      cases h : q.position? with
      | none =>
          rw [ask_of_no_position h]
          trivial
      | some position =>
          rw [ask_remembering_some h]
          exact .bind (asksOnly_lookUp s.path info position) fun _ => trivial

/-- What was found is not forgotten. -/
theorem snd_result_ask (s : SymbolFile) (info : Option Info) (q : Query)
    (answer : (c : FileCall) → c.Answer) :
    (((s.remembering info).ask q).result answer).2 = s.remembering info := by
  cases info with
  | none =>
      rw [ask_remembering_none]
      rfl
  | some info =>
      cases h : q.position? with
      | none =>
          rw [ask_of_no_position h]
          rfl
      | some position =>
          rw [ask_remembering_some h, result_bind]
          rfl

/-! ## One step of a run -/

theorem take_of_no_position (h : x.query.position? = none) :
    s.take x = (⟨s.plainReply x.query, [], s.state⟩, s) := by
  rw [take, ask_of_no_position h]
  rfl

theorem take_remembering_none (s : SymbolFile) (x : Step) :
    (s.remembering none).take x =
      (⟨(s.remembering none).plainReply x.query, [], some false⟩, s.remembering none) := by
  rw [take, ask_remembering_none]
  rfl

/-- The reply is what the file had for the declaration, or nothing if the look-up fails. -/
theorem reply_take_remembering {info : Info} {position : LexicalPosition}
    (h : q.position? = some position) :
    ((s.remembering (some info)).take ⟨q, files⟩).1.reply = .typeName
      (info.declaredType position.instruction.value position.variableName).toOption.join := by
  rw [take, ask_remembering_some h, result_bind, result_lookUp]
  rfl

theorem snd_take_remembering (s : SymbolFile) (info : Option Info) (x : Step) :
    ((s.remembering info).take x).2 = s.remembering info :=
  snd_result_ask s info x.query x.files.answer

/-- The files as they are now have no influence any more. -/
theorem take_remembering (s : SymbolFile) (info : Option Info) (q : Query) (files files' : Files) :
    (s.remembering info).take ⟨q, files⟩ = (s.remembering info).take ⟨q, files'⟩ := by
  have same (c : FileCall) (hc : c.IsLog) : files.answer c = files'.answer c := by
    cases c with
    | read path => exact hc.elim
    | log event => rfl
  have hasks := s.asksOnly_ask info q
  rw [take, take, hasks.result_congr same, hasks.transcript_congr same]

/-- The first look-up: what it takes to read the file comes on top, and nothing else differs from
a look-up in a file that has been read. -/
theorem take_of_not_loaded (hs : s.loaded = none) (h : q.position? ≠ none) :
    s.take ⟨q, files⟩ =
      let behind := ((s.remembering (s.held (files s.path))).take ⟨q, files⟩).1
      ({ behind with said := s.opening (files s.path) ++ behind.said },
        s.remembering (s.held (files s.path))) := by
  obtain ⟨hheld, hopening⟩ := s.load_answered files
  have hstate := s.snd_result_ask (s.held (files s.path)) q files.answer
  simp only [take, ask_of_not_loaded hs h, result_bind, transcript_bind, hheld, hopening, hstate]

/-! ## Runs -/

theorem run_append_of_no_position {idle : List Step} (h : ∀ x ∈ idle, x.query.position? = none)
    (rest : List Step) :
    run s (idle ++ rest) =
      idle.map (fun x => ⟨s.plainReply x.query, [], s.state⟩) ++ run s rest := by
  induction idle with
  | nil => rfl
  | cons x idle ih =>
      have hx : s.take x = (⟨s.plainReply x.query, [], s.state⟩, s) :=
        take_of_no_position (h x List.mem_cons_self)
      rw [List.cons_append, run, hx, ih fun y hy => h y (List.mem_cons_of_mem x hy)]
      rfl

theorem run_remembering (s : SymbolFile) (info : Option Info) (files : Files) (steps : List Step) :
    run (s.remembering info) steps =
      steps.map fun x => ((s.remembering info).take ⟨x.query, files⟩).1 := by
  induction steps with
  | nil => rfl
  | cons x rest ih =>
      rw [run, snd_take_remembering, ih, List.map_cons,
        s.take_remembering info x.query files x.files]

theorem notes_of_held_none {found : Except String ByteArray} (h : s.held found = none) :
    ∃ note : Log.Event, note.level = .debug ∧ s.notes found = [note] := by
  rw [held] at h
  rw [notes]
  cases hfound : interpret s.parse found with
  | error e => exact ⟨_, rfl, rfl⟩
  | ok info =>
      cases info with
      | none => exact ⟨_, rfl, rfl⟩
      | some info =>
          rw [hfound] at h
          cases h

theorem notes_of_held_some {found : Except String ByteArray} (h : s.held found ≠ none) :
    s.notes found = [] := by
  rw [held] at h
  rw [notes]
  cases hfound : interpret s.parse found with
  | error e => exact absurd (by rw [hfound]) h
  | ok info =>
      cases info with
      | none => exact absurd (by rw [hfound]) h
      | some info => rfl

/-- Until something is looked up, nothing is read.  The first look-up reads the file, as it is
found then, and a file without anything in it is noted once.  Every query behind it comes to what
it comes to as the only query on the file as it was found, but for what it takes to read it;
nothing is read any more, and the state stays as it is.  What comes later depends on nothing but
the query itself, and is what the file had for the declaration when it was read. -/
theorem loaded_once (path : String) (parse : Parse) (idle : List Step) (first : Step)
    (rest : List Step) (hidle : ∀ x ∈ idle, x.query.position? = none)
    (hfirst : first.query.position? ≠ none) :
    let s := opened path parse
    let found := first.files path
    let state := some (s.held found).isSome
    let silent := idle.map fun x => (⟨s.plainReply x.query, [], none⟩ : Turn)
    run s idle = silent ∧
      (s.held found ≠ none → s.opening found = [⟨.read path, found⟩]) ∧
      (s.held found = none → ∃ note : Log.Event, note.level = .debug ∧
        s.opening found = [⟨.read path, found⟩, ⟨.log note, ()⟩]) ∧
      ∃ later : Query → Turn,
        run s (idle ++ first :: rest) =
            silent ++ fresh path parse found first.query :: rest.map (fun x => later x.query) ∧
          ∀ q, (later q).state = state ∧ (∀ call ∈ (later q).said, call.1.IsLog) ∧
            (q.position? ≠ none →
              fresh path parse found q =
                { later q with said := s.opening found ++ (later q).said }) ∧
            ((q.position? = none ∨ s.held found = none) →
              later q = ⟨(s.remembering (s.held found)).plainReply q, [], state⟩) ∧
            ∀ info position, s.held found = some info → q.position? = some position →
              (later q).reply = .typeName (info.declaredType position.instruction.value
                position.variableName).toOption.join := by
  intro s found state silent
  have hsilent (behind : List Step) :
      run s (idle ++ behind) = silent ++ run s behind :=
    run_append_of_no_position hidle behind
  -- What is remembered answers in the same way at any time, so also with the files of then.
  let later : Query → Turn := fun q =>
    ((s.remembering (s.held found)).take ⟨q, first.files⟩).1
  have hfresh (q : Query) (h : q.position? ≠ none) :
      fresh path parse found q = { later q with said := s.opening found ++ (later q).said } := by
    rw [fresh, take_of_not_loaded rfl h, s.take_remembering _ q _ first.files]
  have hread : s.take first =
      (fresh path parse found first.query, s.remembering (s.held found)) := by
    rw [hfresh first.query hfirst]
    exact take_of_not_loaded rfl hfirst
  refine ⟨?_, fun h => ?_, fun h => ?_, later, ?_, fun q => ⟨?_, ?_, hfresh q, fun h => ?_,
    fun info position hheld hposition => ?_⟩⟩
  · rw [← List.append_nil idle, hsilent, run, List.append_nil]
  · rw [opening, notes_of_held_some h, List.map_nil]
    rfl
  · obtain ⟨note, hlevel, hnotes⟩ := notes_of_held_none h
    refine ⟨note, hlevel, ?_⟩
    rw [opening, hnotes, List.map_singleton]
    rfl
  · rw [hsilent, run, hread, s.run_remembering _ first.files]
  · exact congrArg SymbolFile.state (s.snd_take_remembering _ ⟨q, first.files⟩)
  · exact fun call hcall => (s.asksOnly_ask _ q).of_mem_transcript hcall
  · obtain h | h := h
    · exact congrArg Prod.fst (take_of_no_position h)
    · simp only [later, state, h, take_remembering_none, Option.isSome_none]
  · simp only [later, hheld]
    exact reply_take_remembering hposition

/-- A unit of a variable `op` at offset 12, whose type at offset 20 has a name of three letters. -/
def unitWith (typeName : String) : List UInt8 :=
  [22, 0, 0, 0, 4, 0, 0, 0, 0, 0, 4, 1, 2, 111, 112, 0, 20, 0, 0, 0, 3] ++
    typeName.toUTF8.toList ++ [0, 0]

/-- An ELF image with this unit, its abbreviations, and the names of these two sections. -/
def imageWith (typeName : String) : ByteArray :=
  let header := [127, 69, 76, 70, 1, 1, 1, 0, 0, 0, 0, 0, 0, 0, 0, 0, 1, 0, 3, 0, 1, 0, 0, 0,
    0, 0, 0, 0, 0, 0, 0, 0, 52, 0, 0, 0, 0, 0, 0, 0, 52, 0, 0, 0, 0, 0, 40, 0, 3, 0, 2, 0]
  let sectionAt (name kind offset size : UInt8) := [name, 0, 0, 0, kind, 0, 0, 0] ++
    List.replicate 8 0 ++ [offset, 0, 0, 0, size, 0, 0, 0] ++ List.replicate 16 0
  let abbreviations := [1, 17, 1, 0, 0, 2, 52, 0, 3, 8, 73, 19, 0, 0, 3, 36, 0, 3, 8, 0, 0, 0]
  let names := "\x00.debug_info\x00.debug_abbrev\x00".toUTF8.toList
  ⟨(header ++ sectionAt 1 1 172 26 ++ sectionAt 13 1 198 22 ++ sectionAt 0 3 220 27 ++
    unitWith typeName ++ abbreviations ++ names).toArray⟩

/-- One file is missing when it is looked into, and there when it is needed again.  Another one has
the type of a variable, and goes on to answer with it when the file says something else or is
gone. -/
theorem loaded_once_replaced :
    let parse := parseImage ⟨fun _ => none, fun _ => none⟩ "a.out"
    let position : LexicalPosition := ⟨⟨0x1000⟩, "op"⟩
    let missing : Files := fun _ => .error "No such file or directory (os error 2)"
    let present : Files := fun _ => .ok (imageWith "int")
    let changed : Files := fun _ => .ok (imageWith "i64")
    let note : Log.Event := ⟨.debug, "pyview_core::symbols::dwarf",
      "failed to load symbols from a.out: IO error: No such file or directory (os error 2)", []⟩
    (∀ x ∈ [Step.mk .description present], x.query.position? = none) ∧
      (Query.declaredType position).position? ≠ none ∧
      run (opened "a.out" parse) [⟨.description, present⟩, ⟨.declaredType position, missing⟩,
          ⟨.declaredType position, present⟩, ⟨.description, present⟩] =
        [⟨.description "DwarfSymbols \x7b path: \"a.out\", loaded: None \x7d", [], none⟩,
          ⟨.typeName none, [⟨.read "a.out", missing "a.out"⟩, ⟨.log note, ()⟩], some false⟩,
          ⟨.typeName none, [], some false⟩,
          ⟨.description "DwarfSymbols \x7b path: \"a.out\", loaded: Some(false) \x7d", [],
            some false⟩] ∧
      (fresh "a.out" parse (changed "a.out") (.declaredType position)).reply =
        .typeName (some "i64") ∧
      (run (opened "a.out" parse) [⟨.declaredType position, present⟩,
          ⟨.declaredType position, changed⟩, ⟨.declaredType position, missing⟩]).map Turn.reply =
        [.typeName (some "int"), .typeName (some "int"), .typeName (some "int")] := by
  intro parse position missing present changed note
  have hidle : ∀ x ∈ [Step.mk .description present], x.query.position? = none := by
    intro x hx
    rw [List.mem_singleton.1 hx]
    rfl
  have hfirst : (Query.declaredType position).position? ≠ none := nofun
  refine ⟨hidle, hfirst, ?_, by decide +kernel, ?_⟩
  · obtain ⟨-, -, -, later, hrun, hlater⟩ := loaded_once "a.out" parse [⟨.description, present⟩]
      ⟨.declaredType position, missing⟩ [⟨.declaredType position, present⟩, ⟨.description, present⟩]
      hidle hfirst
    have hheld : (opened "a.out" parse).held (missing "a.out") = none := rfl
    have hname := (hlater (.declaredType position)).2.2.2.1 (.inr hheld)
    have hlast := (hlater .description).2.2.2.1 (.inr hheld)
    have hopen := (hlater (.declaredType position)).2.2.1 hfirst
    rw [hname] at hopen
    have hbefore : (opened "a.out" parse).describe =
        "DwarfSymbols \x7b path: \"a.out\", loaded: None \x7d" := by decide +kernel
    have hbehind : ((opened "a.out" parse).remembering none).describe =
        "DwarfSymbols \x7b path: \"a.out\", loaded: Some(false) \x7d" := by decide +kernel
    have hopening : (opened "a.out" parse).opening (missing "a.out") =
        [⟨.read "a.out", missing "a.out"⟩, ⟨.log note, ()⟩] := rfl
    refine hrun.trans ?_
    simp only [List.map_cons, List.map_nil, List.nil_append, List.cons_append, hopen, hname, hlast,
      hheld, plainReply, hbefore, hbehind, hopening, List.append_nil, Option.isSome_none]
  · obtain ⟨-, -, -, later, hrun, hlater⟩ := loaded_once "a.out" parse []
      ⟨.declaredType position, present⟩
      [⟨.declaredType position, changed⟩, ⟨.declaredType position, missing⟩] nofun hfirst
    have hreply : (fresh "a.out" parse (present "a.out") (.declaredType position)).reply =
        .typeName (some "int") := by decide +kernel
    have hlate : (later (.declaredType position)).reply = .typeName (some "int") := by
      rw [(hlater (.declaredType position)).2.2.1 hfirst] at hreply
      exact hreply
    refine (congrArg (List.map Turn.reply) hrun).trans ?_
    simp only [List.map_cons, List.map_nil, List.nil_append, hreply, hlate]

end SymbolFile

end ObjectView.Debug
