import WordMachine.Debugger.Basic
import WordMachine.Proofs.Machine.Trajectory

/-!
# Running in the debugger

A debugger that runs takes a step at each tick until the instruction pointer is at a breakpoint or
the machine faults. Then it runs no longer, and further ticks do nothing. So ticks take the machine
along its trajectory to the first breakpoint, and no event comes from an address that has one.
-/

namespace WordMachine

theorem EventLog.mem_of_mem_record {log : EventLog} {e new : Event}
    (h : e ∈ (log.record new).toList) : e ∈ log.toList ∨ e = new := by
  unfold record at h
  split at h
  case isTrue full =>
    simp only [toList, Array.toList_push, Array.toList_eraseIdxIfInBounds, List.mem_append,
      List.mem_singleton] at h
    exact h.imp_left List.mem_of_mem_eraseIdx
  case isFalse space => simpa [toList] using h

namespace Debugger

/-- The watched machine after one step. -/
def stepped (d : Debugger) : Watched EventLog := (Watched.step EventLog.record d.watched).2

theorem machine_stepped (d : Debugger) : d.stepped.machine = d.machine.step.machine :=
  Watched.step_machine ..

/-- A debugger steps its watched machine, and a fault ends its run. -/
theorem step_eq (d : Debugger) :
    ∃ notice, d.step =
      { d with
        watched := d.stepped
        running := d.running && d.machine.step.outcome.isOk
        notice } := by
  rw [stepped, machine, ← Watched.step_outcome EventLog.record]
  obtain ⟨watched, loaded, breakpoints, running, quit, notice, scroll⟩ := d
  cases state : watched.machine.state with
  | faulted =>
    rw [Watched.step_of_faulted EventLog.record state]
    simp [step, machine, state, Except.isOk, Except.toBool]
  | running =>
    simp only [step, machine, state, mapWatched]
    rcases Watched.step EventLog.record watched with ⟨_ | _ | i, after⟩ <;>
      simp [Except.isOk, Except.toBool]

/-- A tick is a step, unless the debugger does not run or is at a breakpoint. -/
theorem tick_eq (d : Debugger) :
    ∃ notice, d.tick =
      if d.running ∧ d.ip ∉ d.breakpoints then { d.step with notice }
      else { d with running := false, notice } := by
  obtain ⟨watched, loaded, breakpoints, running, quit, notice, scroll⟩ := d
  cases running with
  | false => simp [tick]
  | true =>
    by_cases marked : watched.machine.get .ip ∈ breakpoints
    · cases state : watched.machine.state <;> simp [tick, machine, state, ip, marked]
    · cases state : watched.machine.state with
      | faulted => simp [tick, step, machine, state, ip, marked]
      | running =>
        simp only [tick, machine, state, ip, marked]
        exact ⟨_, rfl⟩

variable {d : Debugger}

theorem tick_of_go (running : d.running) (unmarked : d.ip ∉ d.breakpoints) :
    d.tick.watched = d.stepped ∧ d.tick.breakpoints = d.breakpoints ∧
      d.tick.running = d.machine.step.outcome.isOk := by
  obtain ⟨_, tick⟩ := d.tick_eq
  obtain ⟨_, step⟩ := d.step_eq
  rw [if_pos ⟨running, unmarked⟩, step] at tick
  simp [tick, running]

theorem tick_of_stay (stay : ¬ (d.running ∧ d.ip ∉ d.breakpoints)) :
    d.tick.watched = d.watched ∧ d.tick.breakpoints = d.breakpoints ∧ d.tick.running = false := by
  obtain ⟨_, tick⟩ := d.tick_eq
  rw [if_neg stay] at tick
  simp [tick]

theorem ticks_of_not_running (stopped : d.running = false) (n : Nat) : d.ticks n = d := by
  have stays : d.tick = d := by simp [tick, stopped]
  induction n with
  | zero => rfl
  | succ n ih => rw [ticks, stays, ih]

/-! ## Many ticks -/

/-- Ticks take the machine as far as the first breakpoint on its trajectory. -/
theorem ticks_endsIn (running : d.running) (n : Nat) :
    ∃ k end?, Machine.EndsIn (fun s => s.get .ip ∈ d.breakpoints) n d.machine k end?
      (d.ticks n).machine := by
  induction n generalizing d with
  | zero => exact ⟨0, none, .zero _ _⟩
  | succ n ih =>
    by_cases marked : d.ip ∈ d.breakpoints
    · obtain ⟨watched, -, stopped⟩ := tick_of_stay fun go => go.2 marked
      have stays : (d.ticks (n + 1)).machine = d.machine := by
        rw [ticks, ticks_of_not_running stopped, machine, watched]
        rfl
      rw [stays]
      exact ⟨0, none, .of_halt marked _⟩
    · obtain ⟨watched, breakpoints, goesOn⟩ := tick_of_go running marked
      have stepped : d.tick.machine = d.machine.step.machine := by
        rw [machine, watched, machine_stepped]
      cases outcome : d.machine.step.outcome with
      | error fault =>
        rw [outcome] at goesOn
        rw [ticks, ticks_of_not_running goesOn, stepped]
        exact ⟨0, some fault, .of_error marked outcome n⟩
      | ok i =>
        rw [outcome] at goesOn
        obtain ⟨k, end?, rest⟩ := ih goesOn
        rw [breakpoints, stepped] at rest
        exact ⟨k + 1, end?, rest.next marked outcome⟩

theorem breakpoints_tick (d : Debugger) : d.tick.breakpoints = d.breakpoints := by
  by_cases go : d.running ∧ d.ip ∉ d.breakpoints
  · exact (tick_of_go go.1 go.2).2.1
  · exact (tick_of_stay go).2.1

/-- What a tick adds to the log does not come from a breakpoint. -/
theorem mem_log_tick {e : Event} (h : e ∈ d.tick.watched.seen.toList) :
    e ∈ d.watched.seen.toList ∨ e.ip ∉ d.breakpoints := by
  by_cases go : d.running ∧ d.ip ∉ d.breakpoints
  · rw [(tick_of_go go.1 go.2).1, stepped, Watched.step_seen] at h
    cases event : d.watched.machine.step.event with
    | none =>
      rw [event] at h
      exact .inl h
    | some new =>
      rw [event] at h
      refine (EventLog.mem_of_mem_record h).imp_right ?_
      rintro rfl
      rw [Machine.ip_of_event event]
      exact go.2
  · rw [(tick_of_stay go).1] at h
    exact .inl h

theorem mem_log_ticks {e : Event} {n : Nat} (h : e ∈ (d.ticks n).watched.seen.toList) :
    e ∈ d.watched.seen.toList ∨ e.ip ∉ d.breakpoints := by
  induction n generalizing d with
  | zero => exact .inl h
  | succ n ih =>
    obtain old | unmarked := ih h
    · exact mem_log_tick old
    · rw [breakpoints_tick] at unmarked
      exact .inr unmarked

end Debugger

end WordMachine
