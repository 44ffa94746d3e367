import Mathlib.Logic.Function.Iterate
import WordMachine.Machine.Run
import WordMachine.Proofs.Machine.Step

/-!
# Precise faults

A step that faults has changed nothing but the state of the machine, and the observer has seen one
event. A machine that has faulted takes no step until it is resumed; a resumed one faults again in
the same way, however often it is tried.
-/

namespace WordMachine.Watched

variable {ω : Type}

/-- Resumes the machine and takes a step. -/
def retry (note : ω → Event → ω) (w : Watched ω) :
    Except Fault (Option Instruction) × Watched ω :=
  step note { w with machine := w.machine.resume }

theorem step_of_stop (note : ω → Event → ω) {m : Machine} {fault : Fault}
    (h : m.step = m.stop fault) (seen : ω) :
    step note ⟨m, seen⟩ =
      (.error fault, ⟨{ m with state := .faulted }, note seen (.faulted (m.get .ip) fault)⟩) := by
  simp only [step, h]
  rfl

theorem step_of_faulted (note : ω → Event → ω) {w : Watched ω}
    (faulted : w.machine.state = .faulted) :
    step note w = (.error (.notRunning .faulted), w) := by
  simp only [step, Machine.step_of_faulted faulted]

/-- Resuming undoes what a fault did. -/
theorem retry_of_stop (note : ω → Event → ω) {m : Machine} {fault : Fault}
    (running : m.state = .running) (h : m.step = m.stop fault) (seen : ω) :
    retry note ⟨{ m with state := .faulted }, seen⟩ =
      (.error fault, ⟨{ m with state := .faulted }, note seen (.faulted (m.get .ip) fault)⟩) := by
  have resumed : ({ m with state := .faulted } : Machine).resume = m := by
    simp only [Machine.resume, ← running]
  rw [retry, resumed]
  exact step_of_stop note h seen

/-- Retries only add events, all of them alike. -/
theorem retries_of_stop (note : ω → Event → ω) {m : Machine} {fault : Fault}
    (running : m.state = .running) (h : m.step = m.stop fault) (n : Nat) (seen : ω) :
    (fun w => (retry note w).2)^[n] ⟨{ m with state := .faulted }, seen⟩ =
      ⟨{ m with state := .faulted },
        (fun seen => note seen (.faulted (m.get .ip) fault))^[n] seen⟩ := by
  induction n generalizing seen with
  | zero => rfl
  | succ n ih => rw [Function.iterate_succ_apply, retry_of_stop note running h, ih]; rfl

/-- A fault leaves memory, registers, cycles and last instruction as they were and is reported
once; a faulted machine does nothing at all, and each retry ends as the first attempt did. -/
theorem faults_are_precise (note : ω → Event → ω) (w : Watched ω) :
    (∀ fault, w.machine.state = .running → (step note w).1 = .error fault →
      (step note w).2 =
        ⟨{ w.machine with state := .faulted },
          note w.seen (.faulted (w.machine.get .ip) fault)⟩ ∧
      ∀ n, retry note ((fun w => (retry note w).2)^[n] (step note w).2) =
        (.error fault, ⟨{ w.machine with state := .faulted },
          (fun seen => note seen (.faulted (w.machine.get .ip) fault))^[n + 2] w.seen⟩)) ∧
    (w.machine.state = .faulted →
      step note w = (.error (.notRunning .faulted), w) ∧
      ∀ n, 1 ≤ n → runFor note n w = (.error (.notRunning .faulted), w)) := by
  constructor
  · intro fault running h
    have stop : w.machine.step = w.machine.stop fault :=
      Machine.step_eq_stop running ((step_outcome note w).symm.trans h)
    have first := step_of_stop note stop w.seen
    refine ⟨congrArg Prod.snd first, ?_⟩
    intro n
    -- The first attempt, the `n` retries and the last one make `n + 2` events.
    rw [show step note w = _ from first, retries_of_stop note running stop,
      retry_of_stop note running stop, Function.iterate_succ_apply', Function.iterate_succ_apply]
  · intro faulted
    refine ⟨step_of_faulted note faulted, ?_⟩
    intro n positive
    cases n with
    | zero => omega
    | succ n => simp only [runFor, step_of_faulted note faulted]

/-- A pop into the instruction pointer from an empty stack has moved the pointer when it faults. -/
theorem faults_are_precise_pop_ip :
    let note : List Event → Event → List Event := fun seen e => seen ++ [e]
    let w : Watched (List Event) := ⟨.ofMemory ⟨#[0x1A, 0x00]⟩ {}, []⟩
    let fault : Fault := .stackUnderflow 0 0
    w.machine.state = .running ∧ (step note w).1 = .error fault ∧
      (step note w).2 = ⟨{ w.machine with state := .faulted }, [.faulted 0 fault]⟩ ∧
      (retry note (step note w).2).1 = .error fault ∧
      (step note w).2.machine.state = .faulted ∧
      runFor note 3 (step note w).2 = (.error (.notRunning .faulted), (step note w).2) := by
  intro note w fault
  have running : w.machine.state = .running := rfl
  have faults : (step note w).1 = .error fault := rfl
  obtain ⟨stopped, again⟩ := (faults_are_precise note w).1 fault running faults
  have faulted : (step note w).2.machine.state = .faulted := by rw [stopped]
  exact ⟨running, faults, stopped, congrArg Prod.fst (again 0), faulted,
    ((faults_are_precise note (step note w).2).2 faulted).2 3 (by decide)⟩

end WordMachine.Watched
