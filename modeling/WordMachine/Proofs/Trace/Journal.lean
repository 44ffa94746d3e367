import Mathlib.Data.List.DropRight
import WordMachine.Proofs.Machine.Trajectory

/-!
# Journals

A journal tells a drive from its beginning: the events of its steps and, between them, the calls
that set the machine running again. What any observer is told is in the journal, and the journal
tells the state, the count and the last instruction of the machine.
-/

namespace WordMachine

namespace Event

/-- The number that an executed instruction has since the last reset. -/
def cycle? : Event → Option UInt64
  | .executed _ _ cycle => some cycle
  | .ignored .. | .faulted .. => none

def isFault : Event → Bool
  | .faulted .. => true
  | .executed .. | .ignored .. => false

end Event

inductive Entry where
  | event (e : Event)
  | resumed
  | reset
  deriving DecidableEq, Repr

def Entry.event? : Entry → Option Event
  | .event e => some e
  | .resumed | .reset => none

namespace Machine

/-- The events of the next `n` steps. -/
def events (m : Machine) (n : Nat) : List Event :=
  (List.range n).filterMap fun k => (m.afterSteps k).step.event

/-- What a call adds to a journal. -/
def entries (m : Machine) : DriverCall → List Entry
  | .step => (m.events 1).map .event
  | .runFor n => (m.events n).map .event
  | .resume => [.resumed]
  | .reset => [.reset]
  | .set .. => []

/-- The machine after a call. -/
def call (m : Machine) : DriverCall → Machine
  | .step => m.afterSteps 1
  | .runFor n => m.afterSteps n
  | .resume => m.resume
  | .reset => m.reset
  | .set r value => m.set r value

def driven (m : Machine) (calls : List DriverCall) : Machine := calls.foldl call m

def journal (m : Machine) : List DriverCall → List Entry
  | [] => []
  | c :: calls => m.entries c ++ (m.call c).journal calls

theorem events_succ (m : Machine) (n : Nat) :
    m.events (n + 1) = m.events n ++ (m.afterSteps n).step.event.toList := by
  simp only [events, List.range_succ, List.filterMap_append, List.filterMap_cons,
    List.filterMap_nil]
  cases (m.afterSteps n).step.event <;> rfl

end Machine

namespace Journal

/-- The events that a journal tells. -/
def events (journal : List Entry) : List Event := journal.filterMap Entry.event?

/-- The events since the last reset. -/
def sinceReset (journal : List Entry) : List Event :=
  events (journal.rtakeWhile (· ≠ .reset))

/-- The events since the last call that set the machine running. -/
def sinceSetRunning (journal : List Entry) : List Event :=
  events (journal.rtakeWhile fun entry => entry ≠ .reset ∧ entry ≠ .resumed)

section

variable (journal : List Entry) (e : Event)

theorem events_append (more : List Entry) :
    events (journal ++ more) = events journal ++ events more :=
  List.filterMap_append

@[simp] theorem sinceReset_event :
    sinceReset (journal ++ [.event e]) = sinceReset journal ++ [e] := by
  rw [sinceReset, List.rtakeWhile_concat_pos _ _ _ (by simp), events_append]
  rfl

@[simp] theorem sinceReset_resumed :
    sinceReset (journal ++ [.resumed]) = sinceReset journal := by
  rw [sinceReset, List.rtakeWhile_concat_pos _ _ _ (by simp), events_append]
  exact List.append_nil _

@[simp] theorem sinceReset_reset : sinceReset (journal ++ [.reset]) = [] := by
  rw [sinceReset, List.rtakeWhile_concat_neg _ _ _ (by simp)]
  rfl

theorem filterMap_sinceReset_event {α : Type} {f : Event → Option α} (unread : f e = none) :
    (sinceReset (journal ++ [.event e])).filterMap f = (sinceReset journal).filterMap f := by
  simp [unread]

@[simp] theorem sinceSetRunning_event :
    sinceSetRunning (journal ++ [.event e]) = sinceSetRunning journal ++ [e] := by
  rw [sinceSetRunning, List.rtakeWhile_concat_pos _ _ _ (by simp), events_append]
  rfl

@[simp] theorem sinceSetRunning_resumed : sinceSetRunning (journal ++ [.resumed]) = [] := by
  rw [sinceSetRunning, List.rtakeWhile_concat_neg _ _ _ (by simp)]
  rfl

@[simp] theorem sinceSetRunning_reset : sinceSetRunning (journal ++ [.reset]) = [] := by
  rw [sinceSetRunning, List.rtakeWhile_concat_neg _ _ _ (by simp)]
  rfl

end

theorem sinceSetRunning_suffix (journal : List Entry) :
    sinceSetRunning journal <:+ events journal :=
  (List.rtakeWhile_suffix _ _).filterMap _

/-! ## What a journal tells -/

/-- The journal agrees with the machine. -/
structure Tells (journal : List Entry) (m : Machine) : Prop where
  /-- Executed instructions are numbered from one on, and the machine has counted them. -/
  cycles : ∃ n, (sinceReset journal).filterMap Event.cycle? = (List.range' 1 n).map UInt64.ofNat ∧
    m.cycles = UInt64.ofNat n
  last : m.last = ((sinceReset journal).filterMap Event.instruction?).getLast?
  running : m.state = .running → ∀ e ∈ sinceSetRunning journal, e.isFault = false
  faulted : m.state = .faulted → ∃ earlier e, sinceSetRunning journal = earlier ++ [e] ∧
    e.isFault = true ∧ ∀ e ∈ earlier, e.isFault = false

namespace Tells

variable {journal : List Entry} {m : Machine}

/-- A quiet event is added to quiet ones. -/
theorem quiet (h : Tells journal m) (running : m.state = .running) {new : Event}
    (plain : new.isFault = false) :
    ∀ e ∈ sinceSetRunning (journal ++ [.event new]), e.isFault = false := by
  intro e member
  rw [sinceSetRunning_event, List.mem_append, List.mem_singleton] at member
  obtain old | rfl := member
  · exact h.running running e old
  · exact plain

theorem executed (h : Tells journal m) (running : m.state = .running) {after : Machine}
    (ip : UInt16) {i : Instruction} (cycles : after.cycles = m.cycles + 1)
    (last : after.last = some i) (still : after.state = .running) :
    Tells (journal ++ [.event (.executed ip i after.cycles)]) after := by
  obtain ⟨n, numbered, counted⟩ := h.cycles
  have next : after.cycles = UInt64.ofNat (n + 1) := by rw [cycles, counted]; simp
  refine ⟨⟨n + 1, ?_, next⟩, ?_, fun _ => h.quiet running rfl, ?_⟩
  · simp [Event.cycle?, numbered, next, List.range'_concat, Nat.add_comm]
  · simp [Event.instruction?, last]
  · intro faulted
    rw [still] at faulted
    cases faulted

theorem ignored (h : Tells journal m) (running : m.state = .running) {after : Machine}
    (ip : UInt16) (byte : UInt8) (cycles : after.cycles = m.cycles) (last : after.last = m.last)
    (still : after.state = .running) : Tells (journal ++ [.event (.ignored ip byte)]) after := by
  refine ⟨?_, ?_, fun _ => h.quiet running rfl, ?_⟩
  · rw [filterMap_sinceReset_event _ _ rfl, cycles]
    exact h.cycles
  · rw [filterMap_sinceReset_event _ _ rfl, last]
    exact h.last
  · intro faulted
    rw [still] at faulted
    cases faulted

theorem stopped (h : Tells journal m) (running : m.state = .running) (ip : UInt16)
    (fault : Fault) : Tells (journal ++ [.event (.faulted ip fault)]) m.faulted := by
  refine ⟨?_, ?_, nofun, fun _ => ⟨_, _, sinceSetRunning_event .., rfl, h.running running⟩⟩
  · rw [filterMap_sinceReset_event _ _ rfl]
    exact h.cycles
  · rw [filterMap_sinceReset_event _ _ rfl]
    exact h.last

theorem step (h : Tells journal m) :
    Tells (journal ++ m.step.event.toList.map .event) m.step.machine := by
  cases state : m.state with
  | faulted =>
    rw [Machine.step_of_faulted state]
    simpa using h
  | running =>
    rcases Machine.step_cases state with ⟨i, -, -, steps⟩ | ⟨byte, -, -, steps⟩ | ⟨fault, steps⟩ <;>
      rw [steps]
    · have still : (m.finish i).machine.state = .running := by
        rw [Machine.finish, Machine.effect_frame]
        exact state
      exact h.executed state (m.get .ip) rfl rfl still
    · exact h.ignored state (m.get .ip) byte rfl rfl state
    · exact h.stopped state (m.get .ip) fault

theorem steps (h : Tells journal m) (n : Nat) :
    Tells (journal ++ (m.events n).map .event) (m.afterSteps n) := by
  induction n with
  | zero =>
    rw [Machine.events, List.range_zero, List.filterMap_nil, List.map_nil, List.append_nil]
    exact h
  | succ n ih =>
    rw [Machine.events_succ, List.map_append, ← List.append_assoc, Machine.afterSteps_succ]
    exact ih.step

theorem resume (h : Tells journal m) : Tells (journal ++ [.resumed]) m.resume := by
  refine ⟨?_, ?_, ?_, nofun⟩
  · rw [sinceReset_resumed]
    exact h.cycles
  · rw [sinceReset_resumed]
    exact h.last
  · simp

theorem reset (journal : List Entry) (m : Machine) : Tells (journal ++ [.reset]) m.reset := by
  refine ⟨⟨0, ?_, rfl⟩, ?_, ?_, nofun⟩
  · simp
  · simp [Machine.reset]
  · simp

theorem call (h : Tells journal m) (c : DriverCall) : Tells (journal ++ m.entries c) (m.call c) := by
  cases c with
  | step => exact h.steps 1
  | runFor n => exact h.steps n
  | resume => exact h.resume
  | reset => exact .reset journal m
  | set r value =>
    rw [Machine.entries, List.append_nil]
    exact ⟨h.cycles, h.last, h.running, h.faulted⟩

theorem calls (h : Tells journal m) (calls : List DriverCall) :
    Tells (journal ++ m.journal calls) (m.driven calls) := by
  induction calls generalizing journal m with
  | nil =>
    rw [Machine.journal, List.append_nil]
    exact h
  | cons c calls ih =>
    rw [Machine.journal, ← List.append_assoc]
    exact ih (h.call c)

theorem cycles_eq (h : Tells journal m)
    (few : ((sinceReset journal).filterMap Event.cycle?).length < UInt64.size) :
    ((sinceReset journal).filterMap Event.cycle?).map UInt64.toNat =
      List.range' 1 m.cycles.toNat := by
  obtain ⟨n, numbered, counted⟩ := h.cycles
  rw [numbered, List.length_map, List.length_range'] at few
  have small : ∀ k ≤ n, (UInt64.ofNat k).toNat = k := by
    intro k le
    exact UInt64.toNat_ofNat_of_lt' (le.trans_lt few)
  rw [numbered, counted, small n le_rfl, List.map_map]
  refine (List.map_congr_left fun k member => ?_).trans (List.map_id _)
  have range := List.mem_range'_1.mp member
  exact small k (by omega)

theorem faulted_iff (h : Tells journal m) :
    m.state = .faulted ↔ ∃ e ∈ sinceSetRunning journal, e.isFault := by
  constructor
  · intro faulted
    obtain ⟨earlier, e, told, fault, -⟩ := h.faulted faulted
    exact ⟨e, by simp [told], fault⟩
  · rintro ⟨e, member, fault⟩
    cases state : m.state with
    | faulted => rfl
    | running => simp [h.running state e member] at fault

/-- Nothing happens after a fault until the machine is set running. -/
theorem fault_last (h : Tells journal m) {earlier later : List Event} {e : Event}
    (told : sinceSetRunning journal = earlier ++ e :: later) (fault : e.isFault) : later = [] := by
  have faulted := h.faulted_iff.mpr ⟨e, by simp [told], fault⟩
  obtain ⟨before, last, same, -, plain⟩ := h.faulted faulted
  obtain rfl | ⟨init, final, rfl⟩ := later.eq_nil_or_concat
  · rfl
  · -- `e` would stand before the last event of the journal
    have split : earlier ++ e :: init ++ [final] = before ++ [last] := by
      rw [← same, told]
      simp
    obtain ⟨rfl, -⟩ := List.append_inj' split rfl
    have := plain e (by simp)
    simp [this] at fault

end Tells

theorem tells_ofMemory (memory : Memory) (settings : Settings) :
    Tells [] (.ofMemory memory settings) where
  cycles := ⟨0, rfl, rfl⟩
  last := rfl
  running _ _ := nofun
  faulted := nofun

end Journal

/-! ## What an observer is told -/

namespace Watched

variable {ω : Type} (note : ω → Event → ω)

theorem iterate_step_eq (n : Nat) (w : Watched ω) :
    (fun w => (step note w).2)^[n] w =
      ⟨w.machine.afterSteps n, (w.machine.events n).foldl note w.seen⟩ := by
  induction n with
  | zero => rfl
  | succ n ih =>
    rw [Function.iterate_succ_apply', ih, Machine.events_succ, List.foldl_append,
      Machine.afterSteps_succ]
    simp only [step]
    rcases (w.machine.afterSteps n).step with ⟨outcome, _ | event, machine⟩ <;> rfl

theorem events_map_event (events : List Event) : Journal.events (events.map .event) = events := by
  simp [Journal.events, List.filterMap_map, Function.comp_def, Entry.event?]

theorem drive_eq (w : Watched ω) (c : DriverCall) :
    drive note w c =
      ⟨w.machine.call c, (Journal.events (w.machine.entries c)).foldl note w.seen⟩ := by
  cases c with
  | step =>
    rw [Machine.entries, events_map_event]
    exact iterate_step_eq note 1 w
  | runFor n =>
    rw [Machine.entries, events_map_event, drive, runFor_eq_iterate]
    exact iterate_step_eq note n w
  | resume | reset | set => rfl

/-- An observer is told the events of the journal, one after the other, and the machine goes its
way without it. -/
theorem driven_eq (w : Watched ω) (calls : List DriverCall) :
    driven note w calls =
      ⟨w.machine.driven calls,
        (Journal.events (w.machine.journal calls)).foldl note w.seen⟩ := by
  induction calls generalizing w with
  | nil => rfl
  | cons c calls ih =>
    rw [Machine.journal, Journal.events_append, List.foldl_append]
    exact (congrArg (driven note · calls) (drive_eq note w c)).trans (ih _)

/-- The observer has a turn at each step that begins in a running machine, and only then. -/
theorem step_reports (v : Watched ω) :
    (v.machine.state = .running → ∃ e, e.ip = v.machine.get .ip ∧
      (step note v).2.seen = note v.seen e ∧
      ∀ ip byte, e = .ignored ip byte →
        (step note v).2.machine.cycles = v.machine.cycles ∧
        (step note v).2.machine.last = v.machine.last) ∧
    (v.machine.state = .faulted → (step note v).2.seen = v.seen) := by
  rw [step_seen, step_machine]
  constructor
  · intro running
    rcases Machine.step_cases running with ⟨i, -, -, steps⟩ | ⟨byte, -, -, steps⟩ | ⟨fault, steps⟩ <;>
      rw [steps]
    · exact ⟨_, rfl, rfl, nofun⟩
    · exact ⟨_, rfl, rfl, fun _ _ _ => ⟨rfl, rfl⟩⟩
    · exact ⟨_, rfl, rfl, nofun⟩
  · intro faulted
    rw [Machine.step_of_faulted faulted]
    rfl

/-- The events of a drive tell its course. An observer is told one event by each step that begins in
a running machine, with the address where it begins, and a counted run is that many steps. Since the
last reset the executed instructions are numbered from one on without a gap, up to the count of the
machine, and the last of them is the one that the machine has. The machine is faulted just when there
has been a fault since it was last set running, and then nothing comes after the fault. What the
observer makes of all this has no effect on the machine or on the answers of its calls. -/
theorem events_tell_course (seen : ω) (memory : Memory) (settings : Settings)
    (calls : List DriverCall)
    (few : ((Journal.sinceReset ((Machine.ofMemory memory settings).journal calls)).filterMap
      Event.cycle?).length < UInt64.size) :
    let start : Machine := .ofMemory memory settings
    let w := driven note ⟨start, seen⟩ calls
    let m := w.machine
    let journal := start.journal calls
    let counted := Journal.sinceReset journal
    let recent := Journal.sinceSetRunning journal
    w.seen = (Journal.events journal).foldl note seen ∧
    (∀ v : Watched ω,
      (v.machine.state = .running → ∃ e, e.ip = v.machine.get .ip ∧
        (step note v).2.seen = note v.seen e ∧
        ∀ ip byte, e = .ignored ip byte →
          (step note v).2.machine.cycles = v.machine.cycles ∧
          (step note v).2.machine.last = v.machine.last) ∧
      (v.machine.state = .faulted → (step note v).2.seen = v.seen)) ∧
    (∀ n v, (run note n v).2 = (fun v => (step note v).2)^[n] v) ∧
    (counted.filterMap Event.cycle?).map UInt64.toNat = List.range' 1 m.cycles.toNat ∧
    m.last = (counted.filterMap Event.instruction?).getLast? ∧
    (m.state = .faulted ↔ ∃ e ∈ recent, e.isFault) ∧
    (∀ earlier e later, recent = earlier ++ e :: later → e.isFault →
      later = [] ∧ (Journal.events journal).getLast? = some e) ∧
    ∀ {ω' : Type} (note' : ω' → Event → ω') (seen' : ω'),
      let w' := driven note' ⟨start, seen'⟩ calls
      w'.machine = m ∧ (step note' w').1 = (step note w).1 ∧
        ∀ n, (run note' n w').1 = (run note n w).1 := by
  intro start w m journal counted recent
  have course : w = ⟨start.driven calls, (Journal.events journal).foldl note seen⟩ :=
    driven_eq note _ calls
  have tells : Journal.Tells journal m := by
    have run := (Journal.tells_ofMemory memory settings).calls calls
    rwa [show m = start.driven calls from congrArg machine course]
  refine ⟨congrArg Watched.seen course, step_reports note, runFor_eq_iterate note,
    tells.cycles_eq few, tells.last, tells.faulted_iff, ?_, ?_⟩
  · intro earlier e later told fault
    obtain rfl := tells.fault_last told fault
    obtain ⟨before, whole⟩ := Journal.sinceSetRunning_suffix journal
    refine ⟨rfl, ?_⟩
    rw [← whole, show Journal.sinceSetRunning journal = earlier ++ [e] from told]
    simp
  · intro ω' note' seen' w'
    have same : w'.machine = m := by
      rw [show w' = _ from driven_eq note' _ calls, show m = _ from congrArg machine course]
    refine ⟨same, ?_, fun n => ?_⟩
    · rw [step_outcome, step_outcome, same]
    · have runs := runFor_machine note' n w'
      rw [same, ← runFor_machine note n w] at runs
      exact congrArg (Except.map fun _ => n) (Prod.mk.inj runs).1

/-- A skipped byte, a load and a pop from the empty stack, tried twice. -/
theorem events_tell_course_underflow :
    let memory : Memory := ⟨#[0xEE, 0x10, 0x00, 0x05, 0x02, 0x1A, 0x02, 0x00]⟩
    let settings : Settings := { opcodePolicy := .permissive }
    let calls : List DriverCall := [.runFor 9, .resume, .step]
    let journal := (Machine.ofMemory memory settings).journal calls
    let w := driven keepAll ⟨.ofMemory memory settings, []⟩ calls
    let refused : Event := .faulted 5 (.stackUnderflow 6 6)
    ((Journal.sinceReset journal).filterMap Event.cycle?).length < UInt64.size ∧
      w.seen = [.ignored 0 0xEE, .executed 1 (.movLitReg 5 .r1) 1, refused, refused] ∧
      w.machine.last = some (.movLitReg 5 .r1) ∧ w.machine.state = .faulted := by
  intro memory settings calls journal
  have few : ((Journal.sinceReset journal).filterMap Event.cycle?).length < UInt64.size := by
    decide +kernel
  obtain ⟨seen, -, -, -, last, faulted, -, -⟩ :=
    events_tell_course keepAll [] memory settings calls few
  refine ⟨few, seen.trans ?_, last.trans ?_, faulted.mpr ?_⟩ <;> decide +kernel

end Watched

end WordMachine
