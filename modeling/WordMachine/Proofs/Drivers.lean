import WordMachine.Proofs.Debugger.Run
import WordMachine.Proofs.Shell.Run

/-!
# Ways to run a machine

A counted run, a debugger and the run command go along one trajectory, that of single steps. They
differ in where they leave it: after a number of steps, at a breakpoint, or outside the image.
-/

namespace WordMachine

open Machine

namespace Watched

variable {ω : Type} (note : ω → Event → ω)

theorem run_add (n k : Nat) (w : Watched ω) :
    run note (n + k) w = match run note n w with
      | (.ok taken, w) => ((run note k w).1.map (taken + ·), (run note k w).2)
      | (.error fault, w) => (.error fault, w) := by
  simp only [run, runFor_add]
  rcases runFor note n w with ⟨_ | _, after⟩
  · rfl
  · simp only [Except.map]
    cases (runFor note k after).1 <;> rfl

theorem run_cases (n : Nat) (w : Watched ω) :
    w.machine.RunsFor n ∧ (run note n w).1 = .ok n ∧
      (run note n w).2.machine = w.machine.afterSteps n ∨
    ∃ k fault, k < n ∧ w.machine.FaultsAt k fault ∧ (run note n w).1 = .error fault ∧
      (run note n w).2.machine = (w.machine.afterSteps k).faulted := by
  have watched := runFor_machine note n w
  obtain ⟨runs, ended⟩ | ⟨k, fault, lt, faults, ended⟩ := Machine.runFor_cases n w.machine <;>
    obtain ⟨outcome, machine⟩ := Prod.mk.inj (watched.trans ended)
  · exact .inl ⟨runs, congrArg (Except.map fun _ => n) outcome, machine⟩
  · exact .inr ⟨k, fault, lt, faults, congrArg (Except.map fun _ => n) outcome, machine⟩

end Watched

/-- All ways to run a fresh machine follow the trajectory of its single steps. A counted run of `n`
steps takes them all or ends at the first fault, and it can be taken in two parts. A debugger that
runs for `n` ticks is at the first state whose instruction pointer is at a breakpoint, if it is one
of the first `n` and there is no fault before it, and no event comes from a breakpoint. The run
command with a budget of `n` is at the first state whose instruction pointer is outside the image,
likewise, and reports the number of steps, or it ends with exit code 1 at the fault. -/
theorem drivers_share_trajectory (memory : Memory) (settings : Settings) (program : Bytes)
    (n : Nat) :
    let m : Machine := .ofMemory memory settings
    (∀ {ω : Type} (note : ω → Event → ω) (seen : ω),
      let ended := Watched.run note n ⟨m, seen⟩
      (m.RunsFor n ∧ ended.1 = .ok n ∧ ended.2.machine = m.afterSteps n ∨
        ∃ k fault, k < n ∧ m.FaultsAt k fault ∧ ended.1 = .error fault ∧
          ended.2.machine = (m.afterSteps k).faulted) ∧
      ∀ k w, Watched.run note (n + k) w = match Watched.run note n w with
        | (.ok taken, w) => ((Watched.run note k w).1.map (taken + ·), (Watched.run note k w).2)
        | (.error fault, w) => (.error fault, w)) ∧
    (∀ breakpoints : List UInt16,
      let start : Debugger := { Debugger.ofMemory memory settings with breakpoints }
      let d := start.run.ticks n
      (∃ k end?, EndsIn (fun s => s.get .ip ∈ breakpoints) n m k end? d.machine) ∧
      ∀ e ∈ d.watched.seen.toList, e.ip ∉ breakpoints) ∧
    (let e := Shell.runProgram program.length n m
     EndsIn (fun s => program.length ≤ (s.get .ip).toNat) n m e.steps e.fault e.machine ∧
     s!"Steps: {e.steps}" ∈ e.report n ∧
     ∀ desk path options trace, Shell.Prepared desk path options program memory settings →
       (Shell.Command.run path n trace options).execute Shell.Desk.host desk =
         let before := desk.saying (Shell.opening path program trace e)
         match e.fault with
         | none => (0, before.saying (e.report n))
         | some fault =>
           (1, (before.complaining (e.faultReport fault)).saying
             [e.machine.registers.readout])) := by
  intro m
  refine ⟨fun note seen => ⟨Watched.run_cases note n ⟨m, seen⟩, Watched.run_add note n⟩, ?_, ?_⟩
  · intro breakpoints start d
    refine ⟨Debugger.ticks_endsIn (d := start.run) rfl n, fun e logged => ?_⟩
    obtain old | unmarked := Debugger.mem_log_ticks logged
    · exact absurd old List.not_mem_nil
    · exact unmarked
  · intro e
    refine ⟨Shell.runProgram_endsIn program.length n m, by simp [Shell.RunEnd.report], ?_⟩
    intro desk path options trace prepared
    exact Shell.execute_run prepared n trace

/-- A push, a skipped byte and two pops, of which the second finds the stack empty. A budget of three
steps ends the run before it. -/
theorem drivers_share_trajectory_underflow :
    let image : Bytes := [0x17, 0x00, 0x07, 0xEE, 0x1A, 0x02, 0x1A, 0x02]
    let desk : Shell.Desk := ⟨⟨[("p.bin", image)]⟩, #[], #[]⟩
    let options : Shell.MachineOptions := { memorySize := some 16, permissive := true }
    let memory : Memory := (Memory.zeros 16).put 0 image
    let settings : Settings := { opcodePolicy := .permissive }
    let run (budget : Nat) :=
      (Shell.Command.run "p.bin" budget false options).execute Shell.Desk.host desk
    Shell.Prepared desk "p.bin" options image memory settings ∧
      (run 9).1 = 1 ∧ (run 3).1 = 0 ∧ s!"Steps: {3}" ∈ (run 3).2.printed := by
  intro image desk options memory settings run
  have prepared : Shell.Prepared desk "p.bin" options image memory settings := by
    refine ⟨⟨image, ?_, ?_⟩, by decide, _, _, rfl, rfl, rfl, rfl⟩ <;> decide +kernel
  obtain ⟨-, -, -, -, long⟩ := drivers_share_trajectory memory settings image 9
  obtain ⟨-, -, -, reported, short⟩ := drivers_share_trajectory memory settings image 3
  have faults : (Shell.runProgram image.length 9 (.ofMemory memory settings)).fault =
    some (.stackUnderflow 14 14) := by decide +kernel
  have ends : (Shell.runProgram image.length 3 (.ofMemory memory settings)).fault = none := by
    decide +kernel
  have steps : (Shell.runProgram image.length 3 (.ofMemory memory settings)).steps = 3 := by
    decide +kernel
  have complained := long desk "p.bin" options false prepared
  have said := short desk "p.bin" options false prepared
  simp only [faults] at complained
  simp only [ends] at said
  simp only [steps] at reported
  refine ⟨prepared, congrArg Prod.fst complained, congrArg Prod.fst said, ?_⟩
  rw [show run 3 = _ from said]
  simp only [Shell.Desk.saying, Array.mem_append, List.mem_toArray]
  exact .inr reported

end WordMachine
