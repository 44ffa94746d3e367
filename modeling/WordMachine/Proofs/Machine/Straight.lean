import WordMachine.Proofs.Listing.Execution
import WordMachine.Proofs.Machine.Trajectory

/-!
# Runs without jumps

The instruction pointer does not wrap: what cannot be fetched without passing the end of memory, or
the highest address, is a fault. So every step that does not set the pointer moves it up, and there
are at most as many such steps in a row as there are bytes that can be fetched. However a program
rewrites itself, unless it jumps it ends in a fault.
-/

namespace WordMachine.Machine

/-- The first `n` steps end without a fault, and none of them sets the instruction pointer. -/
structure RunsStraight (m : Machine) (n : Nat) : Prop where
  runs : m.RunsFor n
  straight : ∀ k < n, ∀ i, (m.afterSteps k).step.outcome = .ok (some i) →
    ¬ i.Redirects (m.afterSteps k)

/-- The place behind the last byte that can be fetched. -/
def fetchEnd (m : Machine) : Nat := min m.memory.size 65535

variable {m : Machine} {n k : Nat} {fault : Fault} {outcome : Option Instruction}

/-! ## One step -/

/-- A step that does not set the instruction pointer moves it past what was fetched. -/
theorem ip_of_straight_step (succeeds : m.step.outcome = .ok outcome)
    (straight : ∀ i, outcome = some i → ¬ i.Redirects m) :
    (m.get .ip).toNat < (m.step.machine.get .ip).toNat ∧
      (m.step.machine.get .ip).toNat ≤ m.fetchEnd := by
  have inside := lt_size_of_step_ok succeeds
  obtain ⟨-, -, goes⟩ := step_meets_line rfl inside succeeds
  have moved := goes straight
  obtain ⟨positive, shown⟩ := Memory.shows_lineAt inside
  have within := shown.length_le positive
  have bound := (m.step.machine.get .ip).toNat_lt
  grind [fetchEnd]

theorem state_of_step_ok (succeeds : m.step.outcome = .ok outcome) :
    m.step.machine.state = m.state := by
  rcases step_cases (running_of_step_ok succeeds) with
    ⟨i, -, -, steps⟩ | ⟨byte, -, -, steps⟩ | ⟨fault, steps⟩
  · rw [steps, finish, effect_frame]
    rfl
  · rw [steps]
    rfl
  · rw [steps] at succeeds
    cases succeeds

/-! ## Runs -/

theorem fetchEnd_afterSteps (m : Machine) (n : Nat) : (m.afterSteps n).fetchEnd = m.fetchEnd := by
  rw [fetchEnd, (sameFrame_afterSteps m n).size, fetchEnd]

theorem RunsFor.state_afterSteps (runs : m.RunsFor n) : (m.afterSteps n).state = m.state := by
  induction n with
  | zero => rfl
  | succ n ih =>
    obtain ⟨i, succeeds⟩ := runs n (Nat.lt_succ_self n)
    rw [afterSteps_succ, state_of_step_ok succeeds]
    exact ih fun k lt => runs k (Nat.lt_succ_of_lt lt)

namespace RunsStraight

theorem ip_succ (h : m.RunsStraight n) (lt : k < n) :
    ((m.afterSteps k).get .ip).toNat < ((m.afterSteps (k + 1)).get .ip).toNat ∧
      ((m.afterSteps (k + 1)).get .ip).toNat ≤ m.fetchEnd := by
  obtain ⟨outcome, succeeds⟩ := h.runs k lt
  rw [afterSteps_succ, ← fetchEnd_afterSteps m k]
  exact ip_of_straight_step succeeds fun i is => h.straight k lt i (is ▸ succeeds)

theorem ip_le (h : m.RunsStraight n) (le : k ≤ n) :
    ((m.afterSteps k).get .ip).toNat ≤ max (m.get .ip).toNat m.fetchEnd := by
  cases k with
  | zero => exact Nat.le_max_left ..
  | succ k => exact Nat.le_trans (h.ip_succ le).2 (Nat.le_max_right ..)

theorem add_le_ip (h : m.RunsStraight n) (le : k ≤ n) :
    (m.get .ip).toNat + k ≤ ((m.afterSteps k).get .ip).toNat := by
  induction k with
  | zero => exact Nat.le_refl _
  | succ k ih =>
    have before := ih (Nat.le_of_succ_le le)
    have moves := (h.ip_succ le).1
    omega

/-- There is a byte to fetch for each step. -/
theorem length_le (h : m.RunsStraight n) : n ≤ m.fetchEnd - (m.get .ip).toNat := by
  cases n with
  | zero => exact Nat.zero_le _
  | succ n =>
    have far := h.add_le_ip (Nat.le_refl _)
    have within := (h.ip_succ (Nat.lt_succ_self n)).2
    omega

end RunsStraight

/-- Step by step the instruction pointer goes up, unless an instruction sets it, and it gets no
further than the end of memory or the highest address. So there are at most as many such steps in a
row as there are bytes from the pointer up to there, and a machine that takes no other steps ends in
a fault after them, however many steps it is asked for. -/
theorem straight_runs_end (m : Machine) :
    let ip := fun k => ((m.afterSteps k).get .ip).toNat
    let ceiling := min m.memory.size 65535
    (∀ n, m.RunsStraight n →
      (∀ k < n, ip k < ip (k + 1)) ∧ (∀ k ≤ n, ip k ≤ max (ip 0) ceiling) ∧
      n ≤ ceiling - ip 0) ∧
    ((∀ n, m.RunsFor n → m.RunsStraight n) →
      ∃ k fault, k ≤ ceiling - ip 0 ∧ m.FaultsAt k fault ∧ (m.afterSteps k).state = m.state ∧
        ∀ n, k < n → m.runFor n = (.error fault, (m.afterSteps k).faulted)) := by
  intro ip ceiling
  constructor
  · intro n h
    exact ⟨fun k lt => (h.ip_succ lt).1, fun k le => h.ip_le le, h.length_le⟩
  · intro straight
    obtain ⟨runs, -⟩ | ⟨k, fault, -, faults, -⟩ := runFor_cases (ceiling - ip 0 + 1) m
    · exact absurd (straight _ runs).length_le (Nat.not_succ_le_self _)
    · exact ⟨k, fault, (straight k faults.runs).length_le, faults, faults.runs.state_afterSteps,
        fun n lt => faults.runFor_eq lt⟩

/-- A skipped byte, a push over the push itself, another skipped byte, and the end of memory. -/
theorem straight_runs_end_push :
    let m : Machine := .ofMemory ⟨#[0xEE, 0x18, 0x02, 0x00]⟩ { opcodePolicy := .permissive }
    m.RunsStraight 3 ∧ (∀ n, m.RunsFor n → m.RunsStraight n) ∧
      3 ≤ min m.memory.size 65535 - (m.get .ip).toNat ∧
      ∃ k fault, k ≤ 4 ∧ m.FaultsAt k fault ∧
        m.runFor 9 = (.error fault, (m.afterSteps k).faulted) := by
  intro m
  have first : (m.afterSteps 0).step.outcome = .ok none := by decide +kernel
  have second : (m.afterSteps 1).step.outcome = .ok (some (.pshReg .r1)) := by decide +kernel
  have third : (m.afterSteps 2).step.outcome = .ok none := by decide +kernel
  have last : (m.afterSteps 3).step.outcome = .error (.memoryFault (.outOfBounds 4 1 4)) := by
    decide +kernel
  have runs : m.RunsStraight 3 := by
    constructor
    · rintro (_ | _ | _ | k) lt
      · exact ⟨_, first⟩
      · exact ⟨_, second⟩
      · exact ⟨_, third⟩
      · omega
    · rintro (_ | _ | _ | k) lt i ran
      · cases first.symm.trans ran
      · cases second.symm.trans ran
        nofun
      · cases third.symm.trans ran
      · omega
  have straight : ∀ n, m.RunsFor n → m.RunsStraight n := by
    intro n ran
    have le : n ≤ 3 := FaultsAt.le_of_runsFor ⟨runs.runs, last⟩ ran
    exact ⟨ran, fun k lt => runs.straight k (Nat.lt_of_lt_of_le lt le)⟩
  obtain ⟨bounds, ends⟩ := straight_runs_end m
  obtain ⟨k, fault, le, faults, -, counted⟩ := ends straight
  have few : k ≤ 4 := le
  exact ⟨runs, straight, (bounds 3 runs).2.2, k, fault, few, faults, counted 9 (by omega)⟩

end WordMachine.Machine
