import WordMachine.Proofs.Debugger.Run

/-!
# What a reset forgets

A debugger keeps the memory and the settings with which it was made, whatever is done with it. All
else that bears on a run is its watched machine, its breakpoints and whether it runs; a reset makes
the first and the last of these anew. So a debugger that was reset cannot be told from a fresh one
with the same breakpoints.
-/

namespace WordMachine.Debugger

/-- What can be done with a debugger. -/
inductive Operation where
  | step
  | run
  | tick
  | pause
  | resume
  | reset
  | addBreakpoint (addr : UInt16)
  | toggleBreakpoint
  | scrollBy (rows : Int)
  | followStack
  | press (key : Key)
  /-- Sets a register of the machine. -/
  | set (r : Register) (value : UInt16)
  /-- Changes the memory of the machine. -/
  | change (f : Memory → Memory)

def operate (d : Debugger) : Operation → Debugger
  | .step => d.step
  | .run => d.run
  | .tick => d.tick
  | .pause => d.pause
  | .resume => d.resume
  | .reset => d.reset
  | .addBreakpoint addr => d.addBreakpoint addr
  | .toggleBreakpoint => d.toggleBreakpoint
  | .scrollBy rows => d.scrollBy rows
  | .followStack => d.followStack
  | .press key => d.press key
  | .set r value => (d.mapMachine fun m => ((), m.set r value)).2
  | .change f => (d.mapMachine fun m => ((), { m with memory := f m.memory })).2

def operated (d : Debugger) (operations : List Operation) : Debugger :=
  operations.foldl operate d

theorem toggleBreakpoint_eq (d : Debugger) :
    ∃ notice, d.toggleBreakpoint =
      { d with
        breakpoints :=
          if d.ip ∈ d.breakpoints then d.breakpoints.erase d.ip
          else insertAddress d.ip d.breakpoints
        notice } := by
  simp only [toggleBreakpoint, addBreakpoint]
  split <;> exact ⟨_, rfl⟩

/-! ## What is kept -/

/-- The debugger can restore this memory and these settings. -/
structure Keeps (memory : Memory) (settings : Settings) (d : Debugger) : Prop where
  loaded : d.loaded = memory
  settings : d.machine.settings = settings

namespace Keeps

variable {memory : Memory} {settings : Settings} {d : Debugger}

theorem step (h : Keeps memory settings d) : Keeps memory settings d.step := by
  obtain ⟨_, step⟩ := d.step_eq
  have kept : d.stepped.machine.settings = settings := by
    rw [machine_stepped, (Machine.sameFrame_step d.machine).settings, h.settings]
  rw [step]
  exact ⟨h.loaded, kept⟩

theorem tick (h : Keeps memory settings d) : Keeps memory settings d.tick := by
  obtain ⟨_, tick⟩ := d.tick_eq
  rw [tick]
  split
  · exact ⟨h.step.loaded, h.step.settings⟩
  · exact ⟨h.loaded, h.settings⟩

theorem toggleBreakpoint (h : Keeps memory settings d) :
    Keeps memory settings d.toggleBreakpoint := by
  obtain ⟨_, toggle⟩ := d.toggleBreakpoint_eq
  rw [toggle]
  exact ⟨h.loaded, h.settings⟩

theorem press (h : Keeps memory settings d) (key : Key) : Keeps memory settings (d.press key) := by
  cases key with
  | step => exact step (d := { d with running := false }) ⟨h.loaded, h.settings⟩
  | breakpoint => exact h.toggleBreakpoint
  | _ => exact ⟨h.loaded, h.settings⟩

theorem operate (h : Keeps memory settings d) (op : Operation) :
    Keeps memory settings (d.operate op) := by
  cases op with
  | step => exact h.step
  | tick => exact h.tick
  | toggleBreakpoint => exact h.toggleBreakpoint
  | press key => exact h.press key
  | _ => exact ⟨h.loaded, h.settings⟩

theorem operated (h : Keeps memory settings d) (operations : List Operation) :
    Keeps memory settings (d.operated operations) :=
  List.foldlRecOn operations Debugger.operate h fun _ h op _ => h.operate op

end Keeps

/-! ## What bears on a run -/

/-- The debugger without what its user sees of it. -/
def core (d : Debugger) : Debugger := { d with quit := false, notice := .ready, scroll := 0 }

theorem of_core_eq {d e : Debugger} (h : d.core = e.core) :
    d.watched = e.watched ∧ d.running = e.running ∧ d.breakpoints = e.breakpoints := by
  obtain ⟨watched, -, breakpoints, running, -⟩ := Debugger.mk.inj h
  exact ⟨watched, running, breakpoints⟩

theorem core_step (d : Debugger) : d.step.core = d.core.step.core := by
  obtain ⟨_, step⟩ := d.step_eq
  obtain ⟨_, coreStep⟩ := d.core.step_eq
  rw [step, coreStep]
  rfl

theorem core_tick (d : Debugger) : d.tick.core = d.core.tick.core := by
  obtain ⟨_, tick⟩ := d.tick_eq
  obtain ⟨_, coreTick⟩ := d.core.tick_eq
  rw [tick, coreTick]
  by_cases go : d.running ∧ d.ip ∉ d.breakpoints
  · rw [if_pos go, if_pos (show d.core.running ∧ d.core.ip ∉ d.core.breakpoints from go)]
    exact d.core_step
  · rw [if_neg go, if_neg (show ¬ (d.core.running ∧ d.core.ip ∉ d.core.breakpoints) from go)]
    rfl

theorem core_toggleBreakpoint (d : Debugger) :
    d.toggleBreakpoint.core = d.core.toggleBreakpoint.core := by
  obtain ⟨_, toggle⟩ := d.toggleBreakpoint_eq
  obtain ⟨_, coreToggle⟩ := d.core.toggleBreakpoint_eq
  rw [toggle, coreToggle]
  rfl

theorem core_press (d : Debugger) (key : Key) : (d.press key).core = (d.core.press key).core := by
  cases key with
  | step => exact core_step { d with running := false }
  | breakpoint => exact d.core_toggleBreakpoint
  | _ => rfl

/-- What the user sees has no effect on the rest. -/
theorem core_operate (d : Debugger) (op : Operation) :
    (d.operate op).core = (d.core.operate op).core := by
  cases op with
  | step => exact d.core_step
  | tick => exact d.core_tick
  | toggleBreakpoint => exact d.core_toggleBreakpoint
  | press key => exact d.core_press key
  | _ => rfl

theorem core_operated (d : Debugger) (operations : List Operation) :
    (d.operated operations).core = (d.core.operated operations).core := by
  induction operations generalizing d with
  | nil => rfl
  | cons op rest ih =>
    have first := ih (d.operate op)
    rw [d.core_operate op] at first
    exact first.trans (ih (d.core.operate op)).symm

/-! ## What is forgotten -/

theorem Keeps.core_reset {memory : Memory} {settings : Settings} {d : Debugger}
    (h : Keeps memory settings d) :
    d.reset.core = { ofMemory memory settings with breakpoints := d.breakpoints } := by
  obtain ⟨rfl, rfl⟩ := h
  rfl

/-- A reset leaves a machine as it was when it was loaded, with an empty log, and no run going on,
whatever has been done before; only breakpoints and the memory view are kept. From then on the
debugger does what a fresh one with the same breakpoints does. -/
theorem reset_forgets_history (memory : Memory) (settings : Settings)
    (history : List Operation) :
    let fresh := ofMemory memory settings
    let d := fresh.operated history
    d.reset.watched = fresh.watched ∧
    d.reset.running = false ∧
    d.reset.breakpoints = d.breakpoints ∧
    d.reset.scroll = d.scroll ∧
    ∀ later,
      let again := d.reset.operated later
      let anew := { fresh with breakpoints := d.breakpoints }.operated later
      again.watched = anew.watched ∧
      again.running = anew.running ∧
      again.breakpoints = anew.breakpoints := by
  intro fresh d
  have start : Keeps memory settings fresh := ⟨rfl, rfl⟩
  have reset : d.reset.core = { fresh with breakpoints := d.breakpoints } :=
    (start.operated history).core_reset
  refine ⟨(of_core_eq (e := { fresh with breakpoints := d.breakpoints }) reset).1, rfl, rfl, rfl,
    fun later => of_core_eq ?_⟩
  rw [d.reset.core_operated later, reset]

end WordMachine.Debugger
