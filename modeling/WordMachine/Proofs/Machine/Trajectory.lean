import WordMachine.Proofs.Machine.Drive
import WordMachine.Proofs.Machine.Frame

/-!
# Trajectories

The states of a machine after each number of steps are its trajectory, which ends at the first
fault. A run is a stretch of it that begins at the start. It is described by the number of steps
after which it ends, and every way to run a machine is compared with such a stretch.
-/

namespace WordMachine

namespace Machine

/-- The first `n` steps end without a fault. -/
def RunsFor (m : Machine) (n : Nat) : Prop := ∀ k < n, ∃ i, (m.afterSteps k).step.outcome = .ok i

/-- After `k` steps without a fault there comes one that ends in this fault. -/
structure FaultsAt (m : Machine) (k : Nat) (fault : Fault) : Prop where
  runs : m.RunsFor k
  faults : (m.afterSteps k).step.outcome = .error fault

/-- The machine in its faulted state, otherwise as it is. -/
def faulted (m : Machine) : Machine := { m with state := .faulted }

/-- How a run of at most `n` steps ends that takes no step from the states in `halt`: after how many
steps without a fault, with which fault, if any, and with which machine. -/
inductive EndsIn (halt : Machine → Prop) (n : Nat) (m : Machine) :
    Nat → Option Fault → Machine → Prop where
  /-- At the first state in `halt`, or else after `n` steps. -/
  | halted {k : Nat} (le : k ≤ n) (runs : m.RunsFor k)
      (before : ∀ j < k, ¬ halt (m.afterSteps j)) (here : k < n → halt (m.afterSteps k)) :
      EndsIn halt n m k none (m.afterSteps k)
  /-- At a fault before that. -/
  | faulted {k : Nat} {fault : Fault} (lt : k < n) (faults : m.FaultsAt k fault)
      (before : ∀ j ≤ k, ¬ halt (m.afterSteps j)) :
      EndsIn halt n m k (some fault) (m.afterSteps k).faulted

variable {m t : Machine} {halt : Machine → Prop} {n k : Nat} {fault : Fault} {end? : Option Fault}

theorem forall_lt_afterSteps_succ {P : Machine → Prop} :
    (∀ j < k + 1, P (m.afterSteps j)) ↔ P m ∧ ∀ j < k, P (m.step.machine.afterSteps j) := by
  constructor
  · intro h
    exact ⟨h 0 (Nat.succ_pos k), fun j lt => h (j + 1) (Nat.succ_lt_succ lt)⟩
  · rintro ⟨first, rest⟩ (_ | j) lt
    · exact first
    · exact rest j (Nat.lt_of_succ_lt_succ lt)

theorem runsFor_succ :
    m.RunsFor (k + 1) ↔ (∃ i, m.step.outcome = .ok i) ∧ m.step.machine.RunsFor k :=
  forall_lt_afterSteps_succ (P := fun s => ∃ i, s.step.outcome = .ok i)

theorem runsFor_zero (m : Machine) : m.RunsFor 0 := nofun

/-- A step that ends in a fault leaves the machine faulted and otherwise as it was. -/
theorem step_of_error (h : m.step.outcome = .error fault) : m.step.machine = m.faulted := by
  cases state : m.state with
  | running => rw [step_eq_stop state h]; rfl
  | faulted =>
    rw [step_of_faulted state]
    simp only [faulted, ← state]

/-- Nothing happens after a fault. -/
theorem FaultsAt.afterSteps_of_lt (h : m.FaultsAt k fault) {j : Nat} (lt : k < j) :
    m.afterSteps j = (m.afterSteps k).faulted := by
  induction lt with
  | refl => rw [afterSteps_succ, step_of_error h.faults]
  | step _ ih => rw [afterSteps_succ, ih, step_of_faulted rfl]

theorem FaultsAt.le_of_runsFor (h : m.FaultsAt k fault) (runs : m.RunsFor n) : n ≤ k := by
  by_contra more
  obtain ⟨i, succeeds⟩ := runs k (Nat.not_le.mp more)
  cases h.faults.symm.trans succeeds

/-- There is one first fault. -/
theorem FaultsAt.unique (h : m.FaultsAt k fault) {k' : Nat} {fault' : Fault}
    (h' : m.FaultsAt k' fault') : k = k' ∧ fault = fault' := by
  obtain rfl : k = k' := Nat.le_antisymm (h'.le_of_runsFor h.runs) (h.le_of_runsFor h'.runs)
  exact ⟨rfl, Except.error.inj (h.faults.symm.trans h'.faults)⟩

namespace EndsIn

theorem of_halt (here : halt m) (n : Nat) : EndsIn halt n m 0 none m :=
  .halted (Nat.zero_le n) m.runsFor_zero nofun fun _ => here

theorem zero (halt : Machine → Prop) (m : Machine) : EndsIn halt 0 m 0 none m :=
  .halted (Nat.le_refl 0) m.runsFor_zero nofun nofun

theorem of_error (go : ¬ halt m) (h : m.step.outcome = .error fault) (n : Nat) :
    EndsIn halt (n + 1) m 0 (some fault) m.step.machine := by
  rw [step_of_error h]
  refine .faulted (k := 0) (Nat.succ_pos n) ⟨m.runsFor_zero, h⟩ fun j le => ?_
  obtain rfl := Nat.le_zero.mp le
  exact go

/-- A run goes on from the state after its first step. -/
theorem next (go : ¬ halt m) {i : Option Instruction} (h : m.step.outcome = .ok i)
    (rest : EndsIn halt n m.step.machine k end? t) : EndsIn halt (n + 1) m (k + 1) end? t := by
  cases rest with
  | halted le runs before here =>
    exact .halted (Nat.succ_le_succ le) (runsFor_succ.mpr ⟨⟨i, h⟩, runs⟩)
      (forall_lt_afterSteps_succ (P := fun s => ¬ halt s) |>.mpr ⟨go, before⟩)
      fun lt => here (Nat.lt_of_succ_lt_succ lt)
  | faulted lt faults before =>
    have early := forall_lt_afterSteps_succ (P := fun s => ¬ halt s) (k := k + 1) |>.mpr
      ⟨go, fun j lt => before j (Nat.le_of_lt_succ lt)⟩
    exact .faulted (Nat.succ_lt_succ lt) ⟨runsFor_succ.mpr ⟨⟨i, h⟩, faults.runs⟩, faults.faults⟩
      fun j le => early j (Nat.lt_succ_of_le le)

theorem length_le (h : EndsIn halt n m k end? t) : k ≤ n := by
  cases h with
  | halted le => exact le
  | faulted lt => exact Nat.le_of_lt lt

/-- A run without a fault takes all the steps it may exactly if it stops outside `halt`, or its last
step is the one that leads there. -/
theorem length_eq_iff (h : EndsIn halt n m k none t) :
    k = n ↔ ¬ halt t ∨ (∀ j < n, ¬ halt (m.afterSteps j)) ∧ halt (m.afterSteps n) := by
  obtain ⟨le, runs, before, here⟩ := h
  constructor
  · rintro rfl
    by_cases ended : halt (m.afterSteps k)
    · exact .inr ⟨before, ended⟩
    · exact .inl ended
  · intro spent
    by_contra short
    have lt : k < n := Nat.lt_of_le_of_ne le short
    rcases spent with going | ⟨going, -⟩
    · exact going (here lt)
    · exact going k lt (here lt)

end EndsIn

/-! ## Counted runs -/

theorem runFor_endsIn (n : Nat) (m : Machine) :
    ∃ k end?, EndsIn (fun _ => False) n m k end? (m.runFor n).2 ∧
      (m.runFor n).1 = end?.elim (.ok ()) .error := by
  induction n generalizing m with
  | zero => exact ⟨0, none, .zero _ m, rfl⟩
  | succ n ih =>
    rw [runFor]
    cases result : m.step with
    | mk outcome event after =>
      obtain rfl : m.step.machine = after := congrArg Step.machine result
      cases outcome with
      | error fault =>
        exact ⟨0, some fault, .of_error id (congrArg Step.outcome result) n, rfl⟩
      | ok i =>
        obtain ⟨k, end?, rest, ended⟩ := ih m.step.machine
        exact ⟨k + 1, end?, rest.next id (congrArg Step.outcome result), ended⟩

/-- A counted run takes all its steps, or it ends at the first fault. -/
theorem runFor_cases (n : Nat) (m : Machine) :
    m.RunsFor n ∧ m.runFor n = (.ok (), m.afterSteps n) ∨
    ∃ k fault, k < n ∧ m.FaultsAt k fault ∧ m.runFor n = (.error fault, (m.afterSteps k).faulted) := by
  obtain ⟨k, end?, ends, outcome⟩ := runFor_endsIn n m
  generalize m.runFor n = result at ends outcome
  obtain ⟨ended, after⟩ := result
  cases ends with
  | halted le runs before here =>
    obtain rfl : k = n := Nat.le_antisymm le (Nat.not_lt.mp here)
    exact .inl ⟨runs, congrArg (·, m.afterSteps k) outcome⟩
  | faulted lt faults before =>
    exact .inr ⟨k, _, lt, faults, congrArg (·, (m.afterSteps k).faulted) outcome⟩

theorem RunsFor.runFor_eq (h : m.RunsFor n) : m.runFor n = (.ok (), m.afterSteps n) := by
  obtain ⟨-, ended⟩ | ⟨k, fault, lt, faults, -⟩ := runFor_cases n m
  · exact ended
  · exact absurd (faults.le_of_runsFor h) (Nat.not_le.mpr lt)

/-- A counted run that is long enough ends at the first fault. -/
theorem FaultsAt.runFor_eq (h : m.FaultsAt k fault) (lt : k < n) :
    m.runFor n = (.error fault, (m.afterSteps k).faulted) := by
  obtain ⟨runs, -⟩ | ⟨k', fault', -, faults, ended⟩ := runFor_cases n m
  · exact absurd (h.le_of_runsFor runs) (Nat.not_le.mpr lt)
  · obtain ⟨rfl, rfl⟩ := h.unique faults
    exact ended

end Machine

end WordMachine
