import Mathlib.Data.List.Induction
import WordMachine.Debugger.Screen
import WordMachine.Proofs.Debugger.Reset

/-!
# Where the memory view is

Scrolling moves the view by rows and keeps it on memory. Following the stack moves it to the row of
the stack pointer, which a program or a user can set to any word. So the view is off memory, and its
pane empty, exactly if it was last moved to a stack pointer past the last row.
-/

namespace WordMachine.Debugger

/-- A move of the memory view. -/
inductive ViewMove where
  | byRows (rows : Int)
  | toStack
  deriving DecidableEq

namespace Operation

/-- How an operation moves the memory view, if it does. -/
def move? : Operation → Option ViewMove
  | .scrollBy rows => some (.byRows rows)
  | .press .up => some (.byRows (-1))
  | .press .down => some (.byRows 1)
  | .press .pageUp => some (.byRows (-pageRows))
  | .press .pageDown => some (.byRows pageRows)
  | .followStack | .press .stack => some .toStack
  | _ => none

/-- The operation does not put a memory of another size in the place of the machine's. -/
def KeepsSize : Operation → Prop
  | .change f => ∀ m : Memory, (f m).size = m.size
  | _ => True

end Operation

variable {memory : Memory} {settings : Settings} {d : Debugger}

/-! ## The size of memory -/

/-- The machine's memory is as large as the one that was loaded. -/
structure SizeKept (memory : Memory) (settings : Settings) (d : Debugger) : Prop
    extends Keeps memory settings d where
  size : d.machine.memory.size = memory.size

namespace SizeKept

theorem size_step (h : SizeKept memory settings d) : d.step.machine.memory.size = memory.size := by
  obtain ⟨_, step⟩ := d.step_eq
  have kept : d.stepped.machine.memory.size = memory.size := by
    rw [machine_stepped, (Machine.sameFrame_step d.machine).size, h.size]
  rw [step]
  exact kept

theorem size_reset (h : SizeKept memory settings d) : d.reset.machine.memory.size = memory.size :=
  congrArg Memory.size h.loaded

theorem operate (h : SizeKept memory settings d) {op : Operation} (sized : op.KeepsSize) :
    SizeKept memory settings (d.operate op) := by
  refine ⟨h.toKeeps.operate op, ?_⟩
  cases op with
  | step => exact h.size_step
  | tick =>
    obtain ⟨_, tick⟩ := d.tick_eq
    rw [Debugger.operate, tick]
    split
    · exact h.size_step
    · exact h.size
  | reset => exact h.size_reset
  | toggleBreakpoint =>
    obtain ⟨_, toggle⟩ := d.toggleBreakpoint_eq
    rw [Debugger.operate, toggle]
    exact h.size
  | press key =>
    cases key with
    | step =>
      have paused : SizeKept memory settings { d with running := false } :=
        ⟨⟨h.loaded, h.settings⟩, h.size⟩
      exact paused.size_step
    | reset => exact h.size_reset
    | breakpoint =>
      obtain ⟨_, toggle⟩ := d.toggleBreakpoint_eq
      rw [Debugger.operate, press, toggle]
      exact h.size
    | _ => exact h.size
  | change f => exact (sized _).trans h.size
  | _ => exact h.size

theorem operated (h : SizeKept memory settings d) {history : List Operation}
    (sized : ∀ op ∈ history, op.KeepsSize) : SizeKept memory settings (d.operated history) :=
  List.foldlRecOn history Debugger.operate h fun _ h op listed => h.operate (sized op listed)

end SizeKept

/-! ## The first row of the view -/

theorem scroll_step (d : Debugger) : d.step.scroll = d.scroll := by
  obtain ⟨_, step⟩ := d.step_eq
  rw [step]

theorem scroll_tick (d : Debugger) : d.tick.scroll = d.scroll := by
  obtain ⟨_, tick⟩ := d.tick_eq
  rw [tick]
  split
  · exact d.scroll_step
  · rfl

theorem scroll_toggleBreakpoint (d : Debugger) : d.toggleBreakpoint.scroll = d.scroll := by
  obtain ⟨_, toggle⟩ := d.toggleBreakpoint_eq
  rw [toggle]

/-- Nothing else moves the view. -/
theorem scroll_operate (d : Debugger) (op : Operation) :
    (d.operate op).scroll = match op.move? with
      | none => d.scroll
      | some (.byRows rows) => (d.scrollBy rows).scroll
      | some .toStack => (d.machine.get .sp).toNat / rowBytes := by
  cases op with
  | step => exact d.scroll_step
  | tick => exact d.scroll_tick
  | toggleBreakpoint => exact d.scroll_toggleBreakpoint
  | press key =>
    cases key with
    | step => exact scroll_step { d with running := false }
    | breakpoint => exact d.scroll_toggleBreakpoint
    | _ => rfl
  | _ => rfl

theorem scroll_scrollBy_le (d : Debugger) (rows : Int) :
    (d.scrollBy rows).scroll ≤ d.rowCount - 1 := Nat.min_le_right ..

/-! ## After many operations -/

theorem operated_concat (d : Debugger) (history : List Operation) (op : Operation) :
    d.operated (history ++ [op]) = (d.operated history).operate op := List.foldl_append

/-- The rows of a debugger whose memory has kept its size. -/
theorem SizeKept.rowCount (h : SizeKept memory settings d) :
    d.rowCount = (memory.size + 7) / 8 := by
  rw [Debugger.rowCount, h.size]
  rfl

/-- If the view was last moved to the stack pointer, that was at most at row `last` then. -/
def FollowedTo (last : Nat) (start : Debugger) (history : List Operation) : Prop :=
  ∀ before op after, history = before ++ op :: after → op.move? = some .toStack →
    (∀ later ∈ after, later.move? = none) →
      ((start.operated before).machine.get .sp).toNat / rowBytes ≤ last

/-- An entry of a longer history is the new one or one of those before it. -/
theorem concat_eq_split_iff {α : Type} {history before after : List α} {new op : α} :
    history ++ [new] = before ++ op :: after ↔
      after = [] ∧ history = before ∧ new = op ∨
        ∃ rest, after = rest ++ [new] ∧ history = before ++ op :: rest := by
  rcases List.eq_nil_or_concat after with rfl | ⟨rest, last, rfl⟩
  · simp [List.append_singleton_inj]
  · rw [List.concat_eq_append, ← List.cons_append, ← List.append_assoc, List.append_singleton_inj]
    constructor
    · rintro ⟨front, rfl⟩
      exact .inr ⟨rest, rfl, front⟩
    · rintro (⟨none, -⟩ | ⟨rest', same, rfl⟩)
      · simp at none
      · obtain ⟨rfl, rfl⟩ := List.append_singleton_inj.mp same
        exact ⟨rfl, rfl⟩

theorem followedTo_concat {last : Nat} {start : Debugger} {history : List Operation}
    {new : Operation} :
    FollowedTo last start (history ++ [new]) ↔ match new.move? with
      | none => FollowedTo last start history
      | some (.byRows _) => True
      | some .toStack => ((start.operated history).machine.get .sp).toNat / rowBytes ≤ last := by
  simp only [FollowedTo, concat_eq_split_iff]
  cases moved : new.move? with
  | none =>
    constructor
    · intro followed before op rest parts toStack still
      exact followed before op (rest ++ [new]) (.inr ⟨rest, rfl, parts⟩) toStack
        (List.forall_mem_append.mpr ⟨still, by simpa using moved⟩)
    · rintro followed before op after (⟨rfl, rfl, rfl⟩ | ⟨rest, rfl, parts⟩) toStack still
      · cases moved.symm.trans toStack
      · exact followed before op rest parts toStack fun later listed =>
          still later (List.mem_append_left _ listed)
  | some move =>
    -- A move before the new one is not the last.
    have latest {rest : List Operation} (still : ∀ later ∈ rest ++ [new], later.move? = none) :
        False := by
      cases moved.symm.trans (still new (by simp))
    cases move with
    | byRows rows =>
      refine iff_of_true ?_ trivial
      rintro before op after (⟨rfl, rfl, rfl⟩ | ⟨rest, rfl, parts⟩) toStack still
      · cases moved.symm.trans toStack
      · exact (latest still).elim
    | toStack =>
      constructor
      · intro followed
        exact followed history new [] (.inl ⟨rfl, rfl, rfl⟩) moved nofun
      · rintro bounded before op after (⟨rfl, rfl, rfl⟩ | ⟨rest, rfl, parts⟩) toStack still
        · exact bounded
        · exact (latest still).elim

/-- A view that begins on memory is on memory after a history as long as it follows no stack pointer
past the last row. -/
theorem scroll_operated_le_iff {start : Debugger} (kept : SizeKept memory settings start)
    (inside : start.scroll ≤ start.rowCount - 1) {history : List Operation}
    (sized : ∀ op ∈ history, op.KeepsSize) :
    (start.operated history).scroll ≤ start.rowCount - 1 ↔
      FollowedTo (start.rowCount - 1) start history := by
  induction history using List.reverseRecOn with
  | nil =>
    refine iff_of_true inside ?_
    intro before op after parts
    simp at parts
  | append_singleton history new ih =>
    obtain ⟨before, -⟩ := List.forall_mem_append.mp sized
    have same : (start.operated history).rowCount = start.rowCount := by
      rw [(kept.operated before).rowCount, kept.rowCount]
    rw [operated_concat, scroll_operate, followedTo_concat]
    cases new.move? with
    | none => exact ih before
    | some move =>
      cases move with
      | byRows rows => exact iff_of_true (same ▸ scroll_scrollBy_le _ rows) trivial
      | toStack => exact Iff.rfl

/-! ## What is shown -/

theorem memoryRows_ne_nil_iff (filled : 0 < d.rowCount) {visible : Nat} (room : 0 < visible) :
    d.memoryRows visible ≠ [] ↔ d.scroll ≤ d.rowCount - 1 := by
  simp only [memoryRows, ne_eq, List.map_eq_nil_iff, List.range_eq_nil]
  omega

theorem memoryPane_ne_nil_iff (filled : 0 < d.rowCount) {height : Nat} (room : 3 ≤ height) :
    (d.memoryPane height).rows ≠ [] ↔ d.scroll ≤ d.rowCount - 1 := by
  have visible : 0 < height - 2 := by omega
  rw [← memoryRows_ne_nil_iff filled visible]
  simp [memoryPane]

/-- The memory view begins on memory and scrolling keeps it there, whatever else is done. It stays
on memory exactly if, when it was last moved, it did not follow a stack pointer past the last row;
and then a pane of memory with room for a row shows one, while otherwise it is empty. -/
theorem view_on_memory_iff (memory : Memory) (settings : Settings) (history : List Operation)
    (least : 2 ≤ memory.size) (sized : ∀ op ∈ history, op.KeepsSize) :
    let start := ofMemory memory settings
    let d := start.operated history
    let last := (memory.size + 7) / 8 - 1
    (d.scroll ≤ last ↔ FollowedTo last start history) ∧
    (∀ rows, (d.scrollBy rows).scroll ≤ last) ∧
    ∀ height, 3 ≤ height → ((d.memoryPane height).rows ≠ [] ↔ d.scroll ≤ last) := by
  intro start d last
  have kept : SizeKept memory settings start := ⟨⟨rfl, rfl⟩, rfl⟩
  have rows : d.rowCount = (memory.size + 7) / 8 := (kept.operated sized).rowCount
  have bound : d.rowCount - 1 = last := congrArg (· - 1) rows
  have first : start.rowCount - 1 = last := congrArg (· - 1) kept.rowCount
  refine ⟨?_, fun n => bound ▸ d.scroll_scrollBy_le n, fun height room => ?_⟩
  · exact first ▸ scroll_operated_le_iff kept (Nat.zero_le _) sized
  · rw [memoryPane_ne_nil_iff (by omega) room, bound]

/-- A program sets the stack pointer past the ten bytes of memory. The view is followed there and
paged back, and a reset puts the stack pointer back. -/
theorem view_on_memory_iff_paged_back :
    let memory : Memory := ⟨#[0x10, 0x01, 0x00, 0x0A, 0, 0, 0, 0, 0, 0]⟩
    let start := ofMemory memory {}
    let history : List Operation := [.step, .press .stack, .tick]
    let later : List Operation := [.step, .reset, .followStack]
    2 ≤ memory.size ∧ (∀ op ∈ history, op.KeepsSize) ∧ (∀ op ∈ later, op.KeepsSize) ∧
      ¬ (start.operated history).scroll ≤ 1 ∧
      ((start.operated history).press .pageUp).scroll ≤ 1 ∧
      ((start.operated later).memoryPane 3).rows ≠ [] := by
  intro memory start history later
  have sized : ∀ op ∈ history, op.KeepsSize := by simp [history, Operation.KeepsSize]
  have sized' : ∀ op ∈ later, op.KeepsSize := by simp [later, Operation.KeepsSize]
  have last : (memory.size + 7) / 8 - 1 = 1 := by decide
  obtain ⟨stays, scrolled, -⟩ := view_on_memory_iff memory {} history (by decide) sized
  obtain ⟨-, -, shown⟩ := view_on_memory_iff memory {} later (by decide) sized'
  rw [last] at stays
  refine ⟨by decide, sized, sized', ?_, last ▸ scrolled (-pageRows), ?_⟩
  · intro inside
    have past : 1 < ((start.operated [.step]).machine.get .sp).toNat / rowBytes := by
      decide +kernel
    have followed := stays.mp inside [.step] (.press .stack) [.tick] rfl rfl
      (by simp [Operation.move?])
    exact Nat.not_le.mpr past followed
  · exact (shown 3 (by decide)).mpr (by decide +kernel)

/-- One instruction and one key put the view past the end of memory, where it shows nothing. -/
theorem view_of_stray_stack_pointer :
    let memory : Memory :=
      ⟨#[0x10, 0x01, 0x00, 0x0A, 0, 0, 0, 0, 0, 0, 0, 0, 0, 0, 0, 0]⟩
    let d := (ofMemory memory {}).operated [.step, .followStack]
    ¬ d.scroll ≤ (memory.size + 7) / 8 - 1 ∧ d.scroll = 32 ∧ (d.memoryPane 30).rows = [] := by
  refine ⟨by decide +kernel, by decide +kernel, by decide +kernel⟩

end WordMachine.Debugger
