import WordMachine.Proofs.Machine.Precise

/-!
# Driving a machine

A driver steps and runs a machine, resumes and resets it, and sets registers. A run of `n` steps is
the step taken `n` times: after a fault the machine takes none. So what holds at the start and is
kept by a step and by the other calls holds at every point of a drive.
-/

namespace WordMachine

inductive DriverCall where
  | step
  | runFor (n : Nat)
  | resume
  | reset
  | set (r : Register) (value : UInt16)
  deriving DecidableEq, Repr

/-- The instruction that ran, if the event reports one. -/
def Event.instruction? : Event → Option Instruction
  | .executed _ i _ => some i
  | .ignored .. | .faulted .. => none

namespace Watched

variable {ω : Type} (note : ω → Event → ω)

def drive (w : Watched ω) : DriverCall → Watched ω
  | .step => (step note w).2
  | .runFor n => (runFor note n w).2
  | .resume => { w with machine := w.machine.resume }
  | .reset => { w with machine := w.machine.reset }
  | .set r value => { w with machine := w.machine.set r value }

def driven (w : Watched ω) (calls : List DriverCall) : Watched ω := calls.foldl (drive note) w

/-- The observer that keeps every event, the first one first. -/
def keepAll (seen : List Event) (e : Event) : List Event := seen ++ [e]

/-- The instructions that have run, as the events report them. -/
def executed (w : Watched (List Event)) : List Instruction := w.seen.filterMap Event.instruction?

theorem state_of_step_error {w : Watched ω} {fault : Fault} (h : (step note w).1 = .error fault) :
    (step note w).2.machine.state = .faulted := by
  rw [step_outcome] at h
  rw [step_machine]
  cases state : w.machine.state with
  | faulted => rw [Machine.step_of_faulted state, state]
  | running => rw [Machine.step_eq_stop state h]; rfl

theorem step_iterate_of_faulted {w : Watched ω} (faulted : w.machine.state = .faulted) (n : Nat) :
    (fun w => (step note w).2)^[n] w = w := by
  have stays : (step note w).2 = w := by rw [step_of_faulted note faulted]
  exact Function.iterate_fixed stays n

theorem runFor_eq_iterate (n : Nat) (w : Watched ω) :
    (runFor note n w).2 = (fun w => (step note w).2)^[n] w := by
  induction n generalizing w with
  | zero => rfl
  | succ n ih =>
    rw [Function.iterate_succ_apply, runFor]
    cases outcome : step note w with
    | mk result after =>
      cases result with
      | ok => exact ih after
      | error fault =>
        have faulted := state_of_step_error note (congrArg Prod.fst outcome)
        rw [outcome] at faulted
        exact (step_iterate_of_faulted note faulted n).symm

/-- What the start has and each call keeps holds at the end of every drive. -/
theorem driven_induction {P : Watched ω → Prop} {calls : List DriverCall} {w : Watched ω}
    (start : P w) (step : ∀ w, P w → P (step note w).2)
    (resume : ∀ w, P w → P { w with machine := w.machine.resume })
    (reset : .reset ∈ calls → ∀ w, P w → P { w with machine := w.machine.reset })
    (set : ∀ r value, .set r value ∈ calls →
      ∀ w, P w → P { w with machine := w.machine.set r value }) : P (driven note w calls) := by
  refine List.foldlRecOn calls (drive note) start ?_
  intro w h call called
  cases call with
  | step => exact step w h
  | runFor n =>
    rw [drive, runFor_eq_iterate]
    exact Function.Iterate.rec P h step n
  | resume => exact resume w h
  | reset => exact reset called w h
  | set r value => exact set r value called w h

end Watched

end WordMachine
