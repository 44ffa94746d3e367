import WordMachine.Proofs.Machine.Trajectory
import WordMachine.Shell.Commands

/-!
# Running a program from the command line

The run command takes the machine along its trajectory until the instruction pointer is outside the
image. With its program and configuration at hand it reports the number of steps and ends with exit
code 0, or it reports a fault and ends with exit code 1.
-/

namespace WordMachine

open Machine

/-! ## The loop -/

theorem Watched.runWithin_endsIn {ω : Type} (note : ω → Event → ω) (length budget steps : Nat)
    (w : Watched ω) :
    ∃ k end? after, runWithin note length budget steps w = (steps + k, end?, after) ∧
      EndsIn (fun s => length ≤ (s.get .ip).toNat) budget w.machine k end? after.machine := by
  induction budget generalizing steps w with
  | zero => exact ⟨0, none, w, rfl, .zero _ _⟩
  | succ budget ih =>
    by_cases inside : (w.machine.get .ip).toNat < length
    · have go : ¬ length ≤ (w.machine.get .ip).toNat := Nat.not_le.mpr inside
      have outcome := step_outcome note w
      have machine := step_machine note w
      rw [runWithin, if_pos inside]
      cases result : step note w with
      | mk ended after =>
        rw [result] at outcome machine
        cases ended with
        | error fault =>
          refine ⟨0, some fault, after, rfl, ?_⟩
          rw [show after.machine = _ from machine]
          exact .of_error go outcome.symm budget
        | ok i =>
          obtain ⟨k, end?, final, run, rest⟩ := ih (steps + 1) after
          rw [show after.machine = _ from machine] at rest
          refine ⟨k + 1, end?, final, ?_, rest.next go outcome.symm⟩
          simp only [run]
          rw [Nat.add_assoc, Nat.add_comm 1]
    · rw [runWithin, if_neg inside]
      exact ⟨0, none, w, rfl, .of_halt (Nat.not_lt.mp inside) _⟩

namespace Shell

theorem runProgram_endsIn (length budget : Nat) (m : Machine) :
    let e := runProgram length budget m
    EndsIn (fun s => length ≤ (s.get .ip).toNat) budget m e.steps e.fault e.machine := by
  obtain ⟨k, end?, after, run, ends⟩ :=
    Watched.runWithin_endsIn Array.push length budget 0 ⟨m, #[]⟩
  rw [Nat.zero_add] at run
  simpa only [runProgram, run] using ends

/-! ## Parts of a command -/

namespace Desk

variable {desk after : Desk}

def saying (desk : Desk) (lines : List String) : Desk :=
  { desk with printed := desk.printed ++ lines.toArray }

def complaining (desk : Desk) (line : String) : Desk :=
  { desk with complaints := desk.complaints.push line }

theorem saying_saying (desk : Desk) (first second : List String) :
    (desk.saying first).saying second = desk.saying (first ++ second) := by
  simp [saying]

theorem bind_of_ok {α β : Type} {part : Part (StateM Desk) α} {next : α → Part (StateM Desk) β}
    {a : α} (h : part desk = (.ok a, after)) : (part >>= next) desk = next a after := by
  simp only [bind, ExceptT.bind, ExceptT.mk, StateT.bind, h, ExceptT.bindCont]

theorem say_eq (line : String) (desk : Desk) :
    say host line desk = (.ok (), desk.saying [line]) := by
  simp only [saying, Array.append_singleton]
  rfl

theorem sayAll_eq (lines : List String) (desk : Desk) :
    sayAll host lines desk = (.ok (), desk.saying lines) := by
  induction lines generalizing desk with
  | nil => simp only [saying, Array.append_empty]; rfl
  | cons line lines ih =>
    have rest : sayAll host (line :: lines) desk = sayAll host lines (desk.saying [line]) :=
      bind_of_ok (say_eq line desk)
    rw [rest, ih, saying_saying]
    rfl

theorem complain_eq (line : String) (desk : Desk) :
    (ExceptT.lift (host.complain line) : Part (StateM Desk) Unit) desk =
      (.ok (), desk.complaining line) := rfl

theorem loadProgram_eq {path : String} {content program : Bytes}
    (found : desk.directory.read path = .ok content)
    (image : Image.ofContent path content = .ok program) (nonempty : program ≠ []) :
    loadProgram host path desk =
      (.ok program, desk.saying [s!"📂 Loaded {program.length} bytes"]) := by
  have load : (ExceptT.lift (Image.load host.files path) : Part (StateM Desk) _) desk =
      (.ok (.ok program), desk) := by
    simp only [Image.load, ExceptT.lift, ExceptT.mk, host, Functor.map, StateT.map, bind,
      StateT.bind, found, image]
    rfl
  have value : orFail host (fun e => s!"Failed to load image: {Image.Error.message e}")
      (.ok program) desk = (.ok program, desk) := rfl
  have full : program.isEmpty = false := by simpa using nonempty
  rw [loadProgram, bind_of_ok load, bind_of_ok value, full]
  exact bind_of_ok (say_eq _ _)

theorem buildMemory_eq {config : Config} {program : Bytes} {blank memory : Memory}
    (size : config.memory = .ok blank) (placed : blank.install program = .ok memory) :
    buildMemory host config program desk = (.ok memory, desk) := by
  have made : orFail host ConfigError.message config.memory desk = (.ok blank, desk) := by
    rw [size]
    rfl
  rw [buildMemory, bind_of_ok made, placed]
  rfl

end Desk

/-! ## The command -/

/-- The run command finds a configuration with these settings, an image that is not empty, and this
memory with the image in it. -/
structure Prepared (desk : Desk) (path : String) (options : MachineOptions) (program : Bytes)
    (memory : Memory) (settings : Settings) : Prop where
  image : ∃ content, desk.directory.read path = .ok content ∧
    Image.ofContent path content = .ok program
  nonempty : program ≠ []
  config : ∃ config blank, resolveConfig Desk.host options desk = (.ok config, desk) ∧
    config.settings = settings ∧ config.memory = .ok blank ∧ blank.install program = .ok memory

/-- What is said before the result of a run. -/
def opening (path : String) (program : Bytes) (trace : Bool) (e : RunEnd) : List String :=
  [s!"🔧 Running: {path}", s!"📂 Loaded {program.length} bytes", "", "━━━ Execution ━━━"] ++
    if trace then e.events.toList.map Event.text else []

theorem runCommand_eq {desk : Desk} {path : String} {content program : Bytes} {config : Config}
    {blank memory : Memory} (found : desk.directory.read path = .ok content)
    (image : Image.ofContent path content = .ok program) (nonempty : program ≠ [])
    (size : config.memory = .ok blank) (placed : blank.install program = .ok memory)
    (trace : Bool) {budget : Nat} {e : RunEnd}
    (run : runProgram program.length budget (.ofMemory memory config.settings) = e) :
    runCommand Desk.host path budget trace config desk =
      let before := desk.saying (opening path program trace e)
      match e.fault with
      | none => (.ok (), before.saying (e.report budget))
      | some fault =>
        (.error 1,
          (before.complaining (e.faultReport fault)).saying [e.machine.registers.readout]) := by
  have loaded : loadProgram Desk.host path (desk.saying [s!"🔧 Running: {path}"]) = _ :=
    Desk.loadProgram_eq found image nonempty
  rw [runCommand, Desk.bind_of_ok (Desk.say_eq _ _), Desk.bind_of_ok loaded,
    Desk.bind_of_ok (Desk.buildMemory_eq size placed), Desk.bind_of_ok (Desk.sayAll_eq _ _), run]
  obtain ⟨steps, fault, machine, events⟩ := e
  -- The trace adds lines, and the fault decides the rest.
  cases trace <;> cases fault <;>
    simp only [if_true, Bool.false_eq_true, if_false, Desk.bind_of_ok (Desk.sayAll_eq _ _),
      Desk.bind_of_ok (Desk.complain_eq _ _), Desk.bind_of_ok (Desk.say_eq _ _), Desk.sayAll_eq,
      Desk.saying_saying, opening] <;>
    rfl

/-- What the run command says and the exit code that it ends with. -/
theorem execute_run {desk : Desk} {path : String} {options : MachineOptions} {program : Bytes}
    {memory : Memory} {settings : Settings}
    (prepared : Prepared desk path options program memory settings) (budget : Nat) (trace : Bool) :
    (Command.run path budget trace options).execute Desk.host desk =
      let e := runProgram program.length budget (.ofMemory memory settings)
      let before := desk.saying (opening path program trace e)
      match e.fault with
      | none => (0, before.saying (e.report budget))
      | some fault =>
        (1, (before.complaining (e.faultReport fault)).saying [e.machine.registers.readout]) := by
  obtain ⟨⟨content, found, image⟩, nonempty, config, blank, resolved, rfl, size, placed⟩ := prepared
  have body : (Command.run path budget trace options).body Desk.host desk = _ :=
    (Desk.bind_of_ok resolved).trans (runCommand_eq found image nonempty size placed trace rfl)
  simp only [Command.execute, bind, StateT.bind, ExceptT.run, body]
  cases (runProgram program.length budget (.ofMemory memory config.settings)).fault <;> rfl

end Shell

end WordMachine
