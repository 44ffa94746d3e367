import WordMachine.Proofs.Machine.Trajectory

/-!
# Looser settings

Settings only refuse. A stack limit refuses pushes below it, and a strict policy refuses bytes that
are no opcodes. So under looser settings a machine goes the same way up to the first refusal, and a
fault that is no refusal stays the same fault.
-/

namespace WordMachine

/-- The loose settings permit all that the tight ones do. -/
structure Settings.Relaxes (loose tight : Settings) : Prop where
  limit : loose.stackLimit ≤ tight.stackLimit
  policy : loose.opcodePolicy = tight.opcodePolicy ∨ loose.opcodePolicy = .permissive

/-- The fault may be due to the settings. -/
def Fault.isRefusal : Fault → Bool
  | .stackOverflow .. | .invalidOpcode _ => true
  | .notRunning _ | .invalidRegister _ | .memoryFault _ | .stackUnderflow .. => false

namespace Machine

/-- The machine with other settings. -/
def under (m : Machine) (c : Settings) : Machine := { m with settings := c }

/-- The next step is not refused. -/
def Unrefused (m : Machine) : Prop :=
  ∀ fault, m.step.outcome = .error fault → fault.isRefusal = false

/-- The step with other settings in the machine after it. -/
def Step.under (s : Step) (c : Settings) : Step := { s with machine := s.machine.under c }

variable {m : Machine} {c : Settings}

/-! ## One step -/

theorem effect_under (m : Machine) (i : Instruction) (c : Settings) :
    (m.under c).effect i = (m.effect i).under c := by
  cases i with
  | jmpNotEq value addr =>
    change (if value = m.get .acc then m.under c else (m.set .ip addr).under c) = _
    rw [effect]
    split <;> rfl
  | _ => rfl

/-- A lower limit refuses no push that a higher one lets through to memory. -/
theorem pushFault?_under (lower : c.stackLimit ≤ m.settings.stackLimit)
    (unrefused : ∀ fault, m.pushFault? = some fault → fault.isRefusal = false) :
    (m.under c).pushFault? = m.pushFault? := by
  have lower := UInt16.le_iff_toNat_le.mp lower
  rw [pushFault?_eq] at unrefused ⊢
  rw [pushFault?_eq]
  split at unrefused
  case isTrue low => exact absurd (unrefused _ rfl) nofun
  case isFalse high =>
    have high' : ¬ ((m.under c).get .sp).toNat < max (m.under c).settings.stackLimit.toNat 2 := by
      change ¬ (m.get .sp).toNat < max c.stackLimit.toNat 2
      omega
    rw [if_neg high, if_neg high']
    rfl

theorem faultOn?_under (lower : c.stackLimit ≤ m.settings.stackLimit) (i : Instruction)
    (unrefused : ∀ fault, m.faultOn? i = some fault → fault.isRefusal = false) :
    (m.under c).faultOn? i = m.faultOn? i := by
  cases i with
  | pshLit | pshReg => exact pushFault?_under lower unrefused
  | _ => rfl

theorem finish_under (m : Machine) (i : Instruction) (c : Settings) :
    (m.under c).finish i = (m.finish i).under c := by
  have past : (m.under c).past i.size = (m.past i.size).under c := rfl
  simp only [finish, Step.under, past, effect_under]
  rfl

theorem step_under_of_decoded (lower : c.stackLimit ≤ m.settings.stackLimit)
    (unrefused : m.Unrefused) (running : m.state = .running) {i : Instruction}
    (decoded : m.memory.instructionAt (m.get .ip) = .ok i) :
    (m.under c).step = m.step.under c := by
  have steps := step_of_decoded running decoded
  have same : ((m.under c).past i.size).faultOn? i = (m.past i.size).faultOn? i := by
    refine faultOn?_under (m := m.past i.size) lower i fun fault faults => ?_
    rw [faults] at steps
    exact unrefused fault (congrArg Step.outcome steps)
  rw [step_of_decoded (m := m.under c) running decoded, same, steps]
  cases (m.past i.size).faultOn? i with
  | none => exact finish_under m i c
  | some fault => rfl

/-- A byte that is no opcode is the only one that a policy decides about. -/
theorem step_under_of_undecoded (policy : c.opcodePolicy = m.settings.opcodePolicy ∨
      c.opcodePolicy = .permissive)
    (unrefused : m.Unrefused) (running : m.state = .running) {e : DecodeError}
    (undecoded : m.memory.instructionAt (m.get .ip) = .error e) :
    (m.under c).step = m.step.under c := by
  by_cases operand : ∀ byte, e ≠ .invalidOpcode byte
  · rw [step_of_undecoded (m := m.under c) running undecoded (.inr operand),
      step_of_undecoded running undecoded (.inr operand)]
    rfl
  · obtain ⟨byte, rfl⟩ : ∃ byte, e = .invalidOpcode byte := by simpa using operand
    cases tight : m.settings.opcodePolicy with
    | strict =>
      have steps := step_of_undecoded running undecoded (.inl tight)
      exact absurd (unrefused _ (congrArg Step.outcome steps)) nofun
    | permissive =>
      have loose : c.opcodePolicy = .permissive := policy.elim (fun same => same.trans tight) id
      rw [(step_of_skipped (m := m.under c) running undecoded loose).1,
        (step_of_skipped running undecoded tight).1]
      rfl

/-- Looser settings change nothing about a step that is not refused. -/
theorem step_under (relaxes : c.Relaxes m.settings) (unrefused : m.Unrefused) :
    (m.under c).step = m.step.under c := by
  cases state : m.state with
  | faulted =>
    rw [step_of_faulted state, step_of_faulted (m := m.under c) state]
    rfl
  | running =>
    cases decoded : m.memory.instructionAt (m.get .ip) with
    | ok i => exact step_under_of_decoded relaxes.limit unrefused state decoded
    | error e => exact step_under_of_undecoded relaxes.policy unrefused state decoded

/-! ## Runs -/

theorem relaxes_afterSteps (relaxes : c.Relaxes m.settings) (k : Nat) :
    c.Relaxes (m.afterSteps k).settings := by
  rw [(sameFrame_afterSteps m k).settings]
  exact relaxes

theorem afterSteps_under (relaxes : c.Relaxes m.settings) {n : Nat}
    (unrefused : ∀ k < n, (m.afterSteps k).Unrefused) :
    (m.under c).afterSteps n = (m.afterSteps n).under c := by
  induction n with
  | zero => rfl
  | succ n ih =>
    rw [afterSteps_succ, afterSteps_succ, ih fun k lt => unrefused k (Nat.lt_succ_of_lt lt),
      step_under (relaxes_afterSteps relaxes n) (unrefused n (Nat.lt_succ_self n))]
    rfl

theorem step_afterSteps_under (relaxes : c.Relaxes m.settings) {n : Nat}
    (unrefused : ∀ k < n, (m.afterSteps k).Unrefused) {k : Nat} (lt : k < n) :
    ((m.under c).afterSteps k).step = (m.afterSteps k).step.under c := by
  rw [afterSteps_under relaxes fun j before => unrefused j (Nat.lt_trans before lt)]
  exact step_under (relaxes_afterSteps relaxes k) (unrefused k lt)

theorem RunsFor.unrefused {n : Nat} (runs : m.RunsFor n) : ∀ k < n, (m.afterSteps k).Unrefused := by
  intro k lt fault faults
  obtain ⟨i, ok⟩ := runs k lt
  cases ok.symm.trans faults

/-- After a fault that is no refusal come only steps of a machine that takes none. -/
theorem FaultsAt.unrefused {k : Nat} {fault : Fault} (h : m.FaultsAt k fault)
    (other : fault.isRefusal = false) (j : Nat) : (m.afterSteps j).Unrefused := by
  obtain before | rfl | after := Nat.lt_trichotomy j k
  · exact h.runs.unrefused j before
  · intro same faults
    cases h.faults.symm.trans faults
    exact other
  · intro same faults
    rw [h.afterSteps_of_lt after, step_of_faulted rfl] at faults
    cases faults
    rfl

end Machine

namespace Watched

variable {ω : Type} (note : ω → Event → ω)

/-- The watched machine with other settings. -/
def under (w : Watched ω) (c : Settings) : Watched ω := { w with machine := w.machine.under c }

variable {w : Watched ω} {c : Settings}

theorem step_under (relaxes : c.Relaxes w.machine.settings) (unrefused : w.machine.Unrefused) :
    step note (w.under c) = ((step note w).1, (step note w).2.under c) := by
  obtain ⟨machine, seen⟩ := w
  simp only [under, step, Machine.step_under relaxes unrefused, Machine.Step.under]
  rcases machine.step with ⟨outcome, _ | event, after⟩ <;> rfl

theorem runFor_under (relaxes : c.Relaxes w.machine.settings) {n : Nat}
    (unrefused : ∀ k < n, (w.machine.afterSteps k).Unrefused) :
    runFor note n (w.under c) = ((runFor note n w).1, (runFor note n w).2.under c) := by
  induction n generalizing w with
  | zero => rfl
  | succ n ih =>
    obtain ⟨first, rest⟩ := Machine.forall_lt_afterSteps_succ.mp unrefused
    have kept : c.Relaxes w.machine.step.machine.settings := Machine.relaxes_afterSteps relaxes 1
    rw [← step_machine note] at kept rest
    rw [runFor, runFor, step_under note relaxes first]
    generalize step note w = result at kept rest
    obtain ⟨_ | i, after⟩ := result
    · rfl
    · exact ih kept rest

theorem run_under (relaxes : c.Relaxes w.machine.settings) {n : Nat}
    (unrefused : ∀ k < n, (w.machine.afterSteps k).Unrefused) :
    run note n (w.under c) = ((run note n w).1, (run note n w).2.under c) := by
  rw [run, runFor_under note relaxes unrefused]
  rfl

end Watched

namespace Machine

/-- Looser settings do not change a run that goes well, nor one that ends in a fault other than a
refusal. Of the same machine under tight and under loose settings, each step has the same outcome,
reports the same event and leads to the same state, up to the settings, and a counted run has the
same answer and the same effect on its observer. -/
theorem looser_settings_keep_runs (m : Machine) {tight loose : Settings}
    (relaxes : loose.Relaxes tight) :
    let first := m.under tight
    let second := m.under loose
    (∀ n, first.RunsFor n →
      (∀ k ≤ n, second.afterSteps k = (first.afterSteps k).under loose) ∧
      (∀ k < n, (second.afterSteps k).step = (first.afterSteps k).step.under loose) ∧
      ∀ {ω : Type} (note : ω → Event → ω) (seen : ω),
        Watched.run note n ⟨second, seen⟩ =
          ((Watched.run note n ⟨first, seen⟩).1,
            (Watched.run note n ⟨first, seen⟩).2.under loose)) ∧
    ∀ k fault, first.FaultsAt k fault → fault.isRefusal = false →
      second.FaultsAt k fault ∧
      (∀ j, second.afterSteps j = (first.afterSteps j).under loose) ∧
      (∀ j, (second.afterSteps j).step = (first.afterSteps j).step.under loose) ∧
      ∀ (n : Nat) {ω : Type} (note : ω → Event → ω) (seen : ω),
        Watched.run note n ⟨second, seen⟩ =
          ((Watched.run note n ⟨first, seen⟩).1,
            (Watched.run note n ⟨first, seen⟩).2.under loose) := by
  intro first second
  have relaxes : loose.Relaxes first.settings := relaxes
  constructor
  · intro n runs
    refine ⟨fun k le => ?_, fun k lt => step_afterSteps_under relaxes runs.unrefused lt, ?_⟩
    · exact afterSteps_under relaxes fun j lt => runs.unrefused j (Nat.lt_of_lt_of_le lt le)
    · intro ω note seen
      exact Watched.run_under note (w := ⟨first, seen⟩) relaxes runs.unrefused
  · intro k fault faults other
    have unrefused := faults.unrefused other
    have steps : ∀ j, (second.afterSteps j).step = (first.afterSteps j).step.under loose :=
      fun j => step_afterSteps_under relaxes (fun i _ => unrefused i) (Nat.lt_succ_self j)
    have outcomes : ∀ j, (second.afterSteps j).step.outcome =
        (first.afterSteps j).step.outcome := by
      intro j
      rw [steps j]
      rfl
    refine ⟨⟨fun j lt => ?_, ?_⟩, ?_, steps, ?_⟩
    · rw [outcomes]
      exact faults.runs j lt
    · rw [outcomes]
      exact faults.faults
    · exact fun j => afterSteps_under relaxes fun i _ => unrefused i
    · intro n ω note seen
      exact Watched.run_under note (w := ⟨first, seen⟩) relaxes fun j _ => unrefused j

/-- A push and two pops, of which the second finds the stack empty. -/
theorem looser_settings_keep_runs_underflow :
    let m : Machine := .ofMemory
      ⟨#[0x17, 0x00, 0x07, 0x1A, 0x02, 0x1A, 0x02, 0x00, 0x00, 0x00, 0x00, 0x00]⟩ {}
    let tight : Settings := { stackLimit := 8 }
    let loose : Settings := { stackLimit := 4, opcodePolicy := .permissive }
    loose.Relaxes tight ∧ (m.under tight).FaultsAt 2 (.stackUnderflow 10 10) ∧
      (m.under loose).FaultsAt 2 (.stackUnderflow 10 10) ∧
      (m.under loose).afterSteps 2 = ((m.under tight).afterSteps 2).under loose := by
  intro m tight loose
  have relaxes : loose.Relaxes tight := ⟨by decide, .inr rfl⟩
  have runs : (m.under tight).RunsFor 2 := by
    rintro (_ | _ | k) lt
    · exact ⟨some (.pshLit 7), by decide +kernel⟩
    · exact ⟨some (.pop .r1), by decide +kernel⟩
    · omega
  have faults : (m.under tight).FaultsAt 2 (.stackUnderflow 10 10) := ⟨runs, by decide +kernel⟩
  obtain ⟨well, ill⟩ := looser_settings_keep_runs m relaxes
  exact ⟨relaxes, faults, (ill 2 _ faults rfl).1, (well 2 runs).1 2 (Nat.le_refl 2)⟩

end Machine

end WordMachine
