import WordMachine.Proofs.Json
import WordMachine.Proofs.Machine.Drive
import WordMachine.Session

/-!
# Calls that fail

A session answers calls. A call that loads a configuration or a program is refused if its text means
none, and then nothing changes. It is also refused if no machine can be made with what its text
means. Then the machine stays, but the session has kept what it cannot use: every reset fails until
something else of its kind is loaded.
-/

namespace WordMachine.Session

/-! ## Calls -/

inductive Call where
  | configure (text : String)
  | loadText (source : String)
  | loadDemo (name : String)
  | step
  | run (n : Nat)
  | reset
  | resume
  | isRunning
  | cycles
  | register (name : String)
  | window (addr : UInt16) (count : Nat)
  | memoryReadout (addr : UInt16)
  | registerReadout
  | snapshot
  | listing
  deriving DecidableEq, Repr

inductive Value where
  | unit
  | bool (b : Bool)
  | number (n : Nat)
  | text (s : String)
  | bytes (bytes : Bytes)
  deriving DecidableEq, Repr

abbrev Answer := Except SessionError Value

/-- The end of a call whose result is given as a value. -/
def answer {α : Type} (value : α → Value) (ended : Except SessionError α × Session) :
    Answer × Session := (ended.1.map value, ended.2)

def perform (s : Session) : Call → Answer × Session
  | .configure text => answer (fun _ => .unit) (configure text s)
  | .loadText source => answer .number (loadText source s)
  | .loadDemo name => answer .number (loadDemo name s)
  | .step => answer .text (step s)
  | .run n => answer (fun cycles => .number cycles.toNat) (run n s)
  | .reset => answer (fun _ => .unit) (reset s)
  | .resume => (.ok .unit, s.resume)
  | .isRunning => (.ok (.bool s.machine.isRunning), s)
  | .cycles => (.ok (.number s.machine.cycles.toNat), s)
  | .register name => ((s.register name).map fun word => .number word.toNat, s)
  | .window addr count => ((s.window addr count).map .bytes, s)
  | .memoryReadout addr => ((s.memoryReadout addr).map .text, s)
  | .registerReadout => (.ok (.text s.registerReadout), s)
  | .snapshot => (.ok (.text s.snapshot), s)
  | .listing => (s.listing.map .text, s)

/-- The answers to a sequence of calls. -/
def answers (s : Session) : List Call → List Answer
  | [] => []
  | c :: calls => (s.perform c).1 :: (s.perform c).2.answers calls

def Call.Loads : Call → Prop
  | .configure _ | .loadText _ | .loadDemo _ => True
  | _ => False

/-! ## What a session keeps -/

/-- What a session keeps for the next reset. -/
inductive Part where
  | config (config : Config)
  | program (program : Bytes)

def keep (s : Session) : Part → Session
  | .config config => { s with config }
  | .program program => { s with program }

@[simp] theorem machine_keep (s : Session) (part : Part) : (s.keep part).machine = s.machine := by
  cases part <;> rfl

/-- The part that a call loads, if its text means one. -/
def Call.part? : Call → Option Part
  | .configure text =>
    match Config.parse text with
    | .ok config => some (.config config)
    | .error _ => none
  | .loadText source =>
    match Image.parse source with
    | .ok program => some (.program program)
    | .error _ => none
  | .loadDemo name => (Demo.ofName? name).map fun demo => .program demo.program
  | _ => none

namespace Part

/-- Both are configurations, or both are programs. -/
def Replaces : Part → Part → Prop
  | .config _, .config _ | .program _, .program _ => True
  | _, _ => False

/-- The answer to the call depends on this part of the session. -/
def ReadBy : Part → Call → Prop
  | .config _, .reset | .config _, .loadText _ | .config _, .loadDemo _ => True
  | .program _, .reset | .program _, .configure _ | .program _, .listing => True
  | _, _ => False

end Part

/-- A program replaces whatever its loading does not read. -/
theorem Part.program_replaces (c : Call) (read : ∀ config, (Part.config config).ReadBy c)
    (program : Bytes) (old : Part) : (Part.program program).Replaces old ∨ old.ReadBy c := by
  cases old with
  | config config => exact .inr (read config)
  | program => exact .inl trivial

theorem keep_keep {new old : Part} (h : new.Replaces old) (s : Session) :
    (s.keep old).keep new = s.keep new := by
  cases new <;> cases old <;> first | rfl | exact h.elim

/-! ## Reloading -/

/-- A machine can be made if its memory can be and the program fits into it. -/
theorem freshMachine_eq (config : Config) (program : Bytes) :
    freshMachine config program =
      if ¬ (Memory.minSize ≤ config.memorySize ∧ config.memorySize ≤ Memory.maxSize) then
        .error (.config (.memory (.invalidSize config.memorySize)))
      else if program.length > config.memorySize then
        .error (.memory (.programTooLarge program.length config.memorySize))
      else .ok (.ofMemory ((Memory.zeros config.memorySize).put 0 program) config.settings) := by
  simp only [freshMachine, Config.memory, Memory.ofSize]
  by_cases bounds : Memory.minSize ≤ config.memorySize ∧ config.memorySize ≤ Memory.maxSize
  · by_cases large : program.length > config.memorySize <;>
      simp [bounds, Except.mapError, Memory.install, large, bind, Except.bind, pure, Except.pure]
  · simp [bounds, Except.mapError, bind, Except.bind]

theorem reload_of_ok {s : Session} {m : Machine} (made : freshMachine s.config s.program = .ok m) :
    s.reload = (.ok (), { s with machine := m }) := by
  rw [reload, made]

theorem reload_of_error {s : Session} {e : SessionError} (h : s.reload.1 = .error e) :
    s.reload = (.error e, s) := by
  rw [reload] at h ⊢
  cases made : freshMachine s.config s.program with
  | ok => rw [made] at h; cases h
  | error => rw [made] at h; cases h; rfl

theorem answer_eq_error {α : Type} {value : α → Value} {ended : Except SessionError α × Session}
    {e : SessionError} (h : (answer value ended).1 = .error e) : ended.1 = .error e := by
  rw [answer] at h
  cases result : ended.1 with
  | ok => simp [result, Except.map] at h
  | error => simpa [result, Except.map] using h

theorem loadProgram_eq (program : Bytes) (s : Session) :
    answer .number (loadProgram program s) =
      answer (fun _ => .number program.length) (s.keep (.program program)).reload := by
  rw [loadProgram]
  change _ = answer _ (reload { s with program })
  rcases reload { s with program } with ⟨_ | _, after⟩ <;> rfl

/-- What a loading call does: it is refused for its text and changes nothing, or it keeps the part
that its text means and reloads. -/
theorem Call.Loads.cases {c : Call} (loads : c.Loads) :
    (c.part? = none ∧ ∃ e, ∀ s : Session, s.perform c = (.error e, s)) ∨
    ∃ part, c.part? = some part ∧ (∀ old : Part, part.Replaces old ∨ old.ReadBy c) ∧
      ∃ value, ∀ s : Session, s.perform c = answer (fun _ => value) (s.keep part).reload := by
  cases c with
  | configure text =>
    simp only [Call.part?, perform, Session.configure]
    cases Config.parse text with
    | error e => exact .inl ⟨rfl, .config e, fun _ => rfl⟩
    | ok config =>
      refine .inr ⟨.config config, rfl, fun old => ?_, .unit, fun _ => rfl⟩
      cases old with
      | config => exact .inl trivial
      | program => exact .inr trivial
  | loadText source =>
    simp only [Call.part?, perform, Session.loadText]
    cases Image.parse source with
    | error e => exact .inl ⟨rfl, .image e, fun _ => rfl⟩
    | ok program =>
      have covers := Part.program_replaces (.loadText source) (fun _ => trivial) program
      exact .inr ⟨.program program, rfl, covers, .number program.length, loadProgram_eq program⟩
  | loadDemo name =>
    simp only [Call.part?, perform, Session.loadDemo]
    cases Demo.ofName? name with
    | none => exact .inl ⟨rfl, .unknownDemo name, fun _ => rfl⟩
    | some demo =>
      have covers := Part.program_replaces (.loadDemo name) (fun _ => trivial) demo.program
      exact .inr ⟨.program demo.program, rfl, covers, .number demo.program.length,
        loadProgram_eq demo.program⟩
  | _ => exact loads.elim

theorem Call.loads_of_part {c : Call} {part : Part} (loaded : c.part? = some part) : c.Loads := by
  cases c with
  | configure | loadText | loadDemo => trivial
  | _ => cases loaded

theorem perform_of_part {c : Call} {part : Part} (loaded : c.part? = some part) :
    ∃ value : Value, ∀ s : Session,
      s.perform c = answer (fun _ => value) (s.keep part).reload := by
  obtain ⟨none, -⟩ | ⟨new, same, -, reloads⟩ := (Call.loads_of_part loaded).cases
  · rw [none] at loaded
    cases loaded
  · obtain rfl : new = part := Option.some.inj (same.symm.trans loaded)
    exact reloads

/-! ## What later calls show -/

theorem mapMachine_keep {α : Type} (f : Machine → α × Machine) (s : Session) (part : Part) :
    (s.keep part).mapMachine f = ((s.mapMachine f).1, (s.mapMachine f).2.keep part) := by
  cases part <;> rfl

/-- A call that does not read a part of the session answers alike whatever that part is, and leaves
it alone or replaces it. -/
theorem perform_keep {part : Part} {c : Call} (unread : ¬ part.ReadBy c) (s : Session) :
    (s.keep part).perform c = s.perform c ∨
      (s.keep part).perform c = ((s.perform c).1, (s.perform c).2.keep part) := by
  by_cases loads : c.Loads
  · obtain ⟨-, e, refused⟩ | ⟨new, -, covers, value, kept⟩ := loads.cases
    · right
      rw [refused, refused]
    · left
      rw [kept, kept, keep_keep ((covers part).resolve_right unread)]
  · right
    cases c with
    | configure | loadText | loadDemo => exact absurd trivial loads
    | step | run => simp only [perform, step, run, mapMachine_keep, answer]
    | resume => simp only [perform, resume, mapMachine_keep]
    | reset => cases part <;> exact absurd trivial unread
    | listing =>
      cases part with
      | config => rfl
      | program => exact absurd trivial unread
    | isRunning | cycles | register | window | memoryReadout | registerReadout | snapshot =>
      -- These look at nothing but the machine.
      simp only [perform, register, window, memoryReadout, registerReadout, snapshot, machine_keep]

/-- Calls that do not read a part do not tell whether it was kept, and neither does what follows
them if that cannot tell. -/
theorem answers_keep_append {part : Part} {calls rest : List Call}
    (unread : ∀ c ∈ calls, ¬ part.ReadBy c)
    (blind : ∀ s : Session, (s.keep part).answers rest = s.answers rest) (s : Session) :
    (s.keep part).answers (calls ++ rest) = s.answers (calls ++ rest) := by
  induction calls generalizing s with
  | nil => exact blind s
  | cons c calls ih =>
    have later := ih fun d member => unread d (List.mem_cons_of_mem _ member)
    simp only [List.cons_append, answers]
    -- Until a call replaces the part, the two sessions differ in it; from then on they are one.
    obtain same | kept := perform_keep (unread c List.mem_cons_self) s
    · rw [same]
    · rw [kept, later]

/-- A call that loads a part and fails keeps the part, with which no reset succeeds. -/
theorem perform_of_failed {c : Call} {part : Part} (loaded : c.part? = some part) {s : Session}
    {e : SessionError} (failed : (s.perform c).1 = .error e) :
    (s.perform c).2 = s.keep part ∧ (s.keep part).perform .reset = (.error e, s.keep part) := by
  obtain ⟨value, kept⟩ := perform_of_part loaded
  rw [kept] at failed ⊢
  have reloaded := reload_of_error (answer_eq_error failed)
  rw [perform, reset, reloaded]
  exact ⟨rfl, rfl⟩

/-- The machine stays as it is when a call to load something fails. If the text of the call means
nothing, the session stays as well. Otherwise the session keeps what it cannot use. Resets fail from
then on, and the calls that read it show it, until a call loads another part of its kind. So if
resets worked before, the failure goes unnoticed exactly if the text means nothing. -/
theorem failed_load (s : Session) {c : Call} {e : SessionError} (loads : c.Loads)
    (failed : (s.perform c).1 = .error e) :
    let after := (s.perform c).2
    after.machine = s.machine ∧
    (c.part? = none → after = s) ∧
    (∀ part, c.part? = some part → after = s.keep part ∧ after.perform .reset = (.error e, after) ∧
      ∀ calls, (∀ d ∈ calls, ¬ part.ReadBy d) → after.answers calls = s.answers calls ∧
        ∀ d new rest, d.part? = some new → new.Replaces part →
          after.answers (calls ++ d :: rest) = s.answers (calls ++ d :: rest)) ∧
    (∀ value, (s.perform .reset).1 = .ok value →
      ((∀ calls, after.answers calls = s.answers calls) ↔ c.part? = none)) := by
  intro after
  cases loaded : c.part? with
  | none =>
    have same : after = s := by
      obtain ⟨-, e, refused⟩ | ⟨part, some, -⟩ := loads.cases
      · exact congrArg Prod.snd (refused s)
      · rw [loaded] at some
        cases some
    rw [same]
    exact ⟨rfl, fun _ => rfl, nofun, fun _ _ => ⟨fun _ => rfl, fun _ _ => rfl⟩⟩
  | some part =>
    obtain ⟨kept, fails⟩ := perform_of_failed loaded failed
    have shown : after = s.keep part := kept
    rw [shown]
    refine ⟨machine_keep s part, nofun, ?_, ?_⟩
    · rintro _ ⟨⟩
      refine ⟨rfl, fails, fun calls unread => ⟨?_, fun d new rest given replaces => ?_⟩⟩
      · have told := answers_keep_append unread (fun s => (rfl : (s.keep part).answers [] = _)) s
        rwa [List.append_nil] at told
      · refine answers_keep_append unread (fun s => ?_) s
        obtain ⟨value, kept⟩ := perform_of_part given
        rw [answers, answers, kept, kept, keep_keep replaces]
    · intro value resets
      refine ⟨fun blind => ?_, nofun⟩
      have told := blind [.reset]
      simp [answers, fails, resets] at told

/-- A demonstration for which there is no room is listed while the machine has no program. -/
theorem failed_load_demo :
    let s : Session := ⟨.ofMemory (.zeros 2) {}, { memorySize := 2 }, []⟩
    let c : Call := .loadDemo "add"
    let e : SessionError := .memory (.programTooLarge 11 2)
    let after := (s.perform c).2
    c.Loads ∧ (s.perform c).1 = .error e ∧ after.machine = s.machine ∧
      after.listing = (WordMachine.listing Demo.add.program).mapError .decode ∧
      (after.perform .reset).1 = .error e ∧
      ∀ n, after.answers [.run n, .cycles] = s.answers [.run n, .cycles] := by
  intro s c e after
  have loads : c.Loads := trivial
  have failed : (s.perform c).1 = .error e := by decide +kernel
  have loaded : c.part? = some (.program Demo.add.program) := rfl
  obtain ⟨machine, -, shows, -⟩ := failed_load s loads failed
  obtain ⟨kept, fails, blind⟩ := shows _ loaded
  have listed := congrArg Session.listing kept
  refine ⟨loads, failed, machine, listed, congrArg Prod.fst fails, fun n => ?_⟩
  exact (blind [.run n, .cycles] (by simp [Part.ReadBy])).1

/-- A configuration that is refused for its memory size breaks the resets that worked before it. -/
theorem reset_after_failed_configure :
    let c : Call := .configure "\x7b\"memory_size\":1\x7d"
    let e : SessionError := .config (.memory (.invalidSize 1))
    (initial.perform c).1 = .error e ∧ initial.answers [.reset] = [.ok .unit] ∧
      (initial.perform c).2.answers [.reset] = [.error e] := by
  intro c e
  have loaded : c.part? = some (.config { memorySize := 1 }) := by
    have tree : Json.parse? "\x7b\"memory_size\":1\x7d" =
      some (.ofFields [("memory_size", .ofNat 1)]) := by rfl
    have fields : (Json.ofFields [("memory_size", .ofNat 1)]).record? .refused
      ["memory_size", "stack_limit", "opcode_policy"] = some [some (.ofNat 1), none, none] := rfl
    have size : (Json.ofNat 1).nat? UInt64.size = some 1 := Json.nat?_ofNat (by decide)
    simp [c, Call.part?, Config.parse, tree, Config.ofJson?, fields, size, Settings.ofValues?]
  have failed : (initial.perform c).1 = .error e := by
    obtain ⟨value, kept⟩ := perform_of_part loaded
    have refused : freshMachine { memorySize := 1 } [] = .error e := by
      rw [freshMachine_eq]
      rfl
    rw [kept, answer, reload]
    simp only [keep, initial, refused]
    rfl
  have resets : (initial.perform .reset).1 = .ok .unit := by
    have made := freshMachine_eq {} []
    rw [perform, answer, reset, reload_of_ok made]
    rfl
  obtain ⟨after, fails⟩ := perform_of_failed loaded failed
  simp [failed, answers, resets, after, fails]

/-! ## Sessions in order -/

/-- The sessions to which calls lead as long as a machine can be made from every part that they
load. -/
inductive InOrder : Session → Prop where
  | initial : InOrder initial
  | perform {s : Session} (h : InOrder s) {c : Call}
      (made : c.part? = none ∨ ∃ value, (s.perform c).1 = .ok value) : InOrder (s.perform c).2

/-- The call lets a machine go on and does nothing else to it. -/
def GoesOn : DriverCall → Prop
  | .step | .runFor _ | .resume => True
  | .reset | .set .. => False

/-- The machine of a session is one that its configuration and its program make, and that has only
gone on since. -/
def Drives (s : Session) : Prop :=
  ∃ fresh calls, freshMachine s.config s.program = .ok fresh ∧ (∀ call ∈ calls, GoesOn call) ∧
    s.machine = (Watched.driven (fun _ _ => ()) ⟨fresh, ()⟩ calls).machine

theorem drives_initial : Drives initial := by
  refine ⟨_, [], freshMachine_eq {} [], nofun, ?_⟩
  have untouched : (Memory.zeros Memory.maxSize).put 0 [] = .full := by
    simp [Memory.put, Memory.full, Memory.zeros]
  change initial.machine = .ofMemory ((Memory.zeros Memory.maxSize).put 0 []) {}
  rw [untouched]
  rfl

theorem drives_of_reload {s : Session} {value : Unit} (made : s.reload.1 = .ok value) :
    Drives s.reload.2 := by
  cases fresh : freshMachine s.config s.program with
  | ok m =>
    rw [reload_of_ok fresh]
    exact ⟨m, [], fresh, nofun, rfl⟩
  | error e =>
    rw [reload, fresh] at made
    cases made

theorem Drives.drive {s t : Session} (h : s.Drives) (call : DriverCall) (goesOn : GoesOn call)
    (config : t.config = s.config) (program : t.program = s.program)
    (machine : t.machine = (Watched.drive (fun _ _ => ()) ⟨s.machine, ()⟩ call).machine) :
    t.Drives := by
  obtain ⟨fresh, calls, made, onward, driven⟩ := h
  refine ⟨fresh, calls ++ [call], by rw [config, program, made], ?_, ?_⟩
  · simpa [or_imp, forall_and] using ⟨onward, goesOn⟩
  · rw [machine, driven, Watched.driven, Watched.driven, List.foldl_append]
    rfl

/-- The machine of a session in order has run the session's program, under its configuration, since
the program was loaded or reset. -/
theorem InOrder.drives {s : Session} (h : InOrder s) : s.Drives := by
  induction h with
  | initial => exact drives_initial
  | @perform s _ c made ih =>
    by_cases loads : c.Loads
    · obtain ⟨-, e, refused⟩ | ⟨part, loaded, -, value, kept⟩ := loads.cases
      · rw [refused]
        exact ih
      · rw [loaded, kept] at made
        rw [kept]
        obtain ⟨value, ok⟩ := made.resolve_left nofun
        cases reloaded : (s.keep part).reload.1 with
        | ok => exact drives_of_reload reloaded
        | error e => simp [answer, reloaded, Except.map] at ok
    · cases c with
      | configure | loadText | loadDemo => exact absurd trivial loads
      | step => exact ih.drive .step trivial rfl rfl (Watched.step_machine _ ⟨_, ()⟩).symm
      | run n =>
        have ran := Watched.runFor_machine (fun _ _ => ()) n ⟨s.machine, ()⟩
        exact ih.drive (.runFor n) trivial rfl rfl (congrArg Prod.snd ran).symm
      | resume => exact ih.drive .resume trivial rfl rfl rfl
      | reset =>
        obtain ⟨fresh, -, made, -⟩ := ih
        exact drives_of_reload (congrArg Prod.fst (reload_of_ok made))
      | isRunning | cycles | register | window | memoryReadout | registerReadout | snapshot
        | listing => exact ih

/-- A session in order can be reset. -/
theorem InOrder.reset {s : Session} (h : InOrder s) : (s.perform .reset).1 = .ok .unit := by
  obtain ⟨fresh, -, made, -⟩ := h.drives
  rw [Session.perform, Session.reset, reload_of_ok made]
  rfl

end WordMachine.Session
