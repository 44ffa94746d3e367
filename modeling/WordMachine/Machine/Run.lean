import WordMachine.Machine.Step

/-!
# Running many instructions

A run takes steps up to a given number and stops at the first fault. A watched machine hands every
event to an observer on the way; watching does not change the run.
-/

namespace WordMachine

namespace Machine

/-- Takes `n` steps, or fewer if one faults. -/
def runFor : Nat → Machine → Except Fault Unit × Machine
  | 0, m => (.ok (), m)
  | n + 1, m =>
    match step m with
    | ⟨.ok _, _, m⟩ => runFor n m
    | ⟨.error fault, _, m⟩ => (.error fault, m)

end Machine

/-- A machine with what an observer has made of its events so far. -/
structure Watched (ω : Type) where
  machine : Machine
  seen : ω
  deriving DecidableEq

namespace Watched

variable {ω : Type}

/-- Takes one step and lets the observer note its event, if it has one. -/
def step (note : ω → Event → ω) :
    Watched ω → Except Fault (Option Instruction) × Watched ω
  | ⟨machine, seen⟩ =>
    match machine.step with
    | ⟨outcome, some event, machine⟩ => (outcome, ⟨machine, note seen event⟩)
    | ⟨outcome, none, machine⟩ => (outcome, ⟨machine, seen⟩)

/-- Takes `n` steps, or fewer if one faults. -/
def runFor (note : ω → Event → ω) : Nat → Watched ω → Except Fault Unit × Watched ω
  | 0, w => (.ok (), w)
  | n + 1, w =>
    match step note w with
    | (.ok _, w) => runFor note n w
    | (.error fault, w) => (.error fault, w)

/-- Takes `n` steps and answers their number, or stops at the first fault and answers that. -/
def run (note : ω → Event → ω) (n : Nat) (w : Watched ω) : Except Fault Nat × Watched ω :=
  let (outcome, w) := runFor note n w
  (outcome.map fun _ => n, w)

/-- Changes the machine without a step. -/
def mapMachine {α : Type} (f : Machine → α × Machine) : Watched ω → α × Watched ω
  | ⟨machine, seen⟩ =>
    let (a, machine) := f machine
    (a, ⟨machine, seen⟩)

@[simp] theorem step_outcome (note : ω → Event → ω) (w : Watched ω) :
    (step note w).1 = w.machine.step.outcome := by
  obtain ⟨machine, seen⟩ := w
  simp only [step]
  rcases machine.step with ⟨outcome, _ | event, machine⟩ <;> rfl

@[simp] theorem step_machine (note : ω → Event → ω) (w : Watched ω) :
    (step note w).2.machine = w.machine.step.machine := by
  obtain ⟨machine, seen⟩ := w
  simp only [step]
  rcases machine.step with ⟨outcome, _ | event, machine⟩ <;> rfl

theorem step_seen (note : ω → Event → ω) (w : Watched ω) :
    (step note w).2.seen = w.machine.step.event.elim w.seen (note w.seen) := by
  obtain ⟨machine, seen⟩ := w
  simp only [step]
  rcases machine.step with ⟨outcome, _ | event, machine⟩ <;> rfl

/-- Watching does not change a run. -/
theorem runFor_machine (note : ω → Event → ω) (n : Nat) (w : Watched ω) :
    ((runFor note n w).1, (runFor note n w).2.machine) = w.machine.runFor n := by
  induction n generalizing w with
  | zero => rfl
  | succ n ih =>
    obtain ⟨machine, seen⟩ := w
    simp only [runFor, step, Machine.runFor]
    rcases machine.step with ⟨_ | _, _ | event, machine⟩
    · rfl
    · rfl
    · exact ih ⟨machine, seen⟩
    · exact ih ⟨machine, note seen event⟩

/-- A run can be taken in two parts, the second of which does not begin after a fault. -/
theorem runFor_add (note : ω → Event → ω) (n k : Nat) (w : Watched ω) :
    runFor note (n + k) w = match runFor note n w with
      | (.ok _, w) => runFor note k w
      | (.error fault, w) => (.error fault, w) := by
  induction n generalizing w with
  | zero => simp [runFor]
  | succ n ih =>
    rw [Nat.succ_add]
    simp only [runFor]
    rcases step note w with ⟨_ | _, after⟩
    · rfl
    · exact ih after

end Watched

end WordMachine
