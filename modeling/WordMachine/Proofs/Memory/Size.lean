import Mathlib.Tactic.MkIffOfInductiveProp
import WordMachine.Proofs.Json
import WordMachine.Proofs.Machine.Drive
import WordMachine.Proofs.Machine.Fetch
import WordMachine.Proofs.Machine.Stack

/-!
# The size of a memory

A memory is made with a size, made as large as the address space, or read from JSON. From then on
its size never changes, whatever is stored in it and whatever machine runs on it. A memory that is
made has a size that addresses can cover. One that is read has as many bytes as are written there,
and nothing checks how many they are.
-/

namespace WordMachine

namespace Memory

variable {m n : Memory}

/-! ## Sizes that addresses can cover -/

@[mk_iff]
structure WellSized (m : Memory) : Prop where
  least : minSize ≤ m.size
  most : m.size ≤ maxSize

theorem wellSized_congr (h : n.size = m.size) : n.WellSized ↔ m.WellSized := by
  rw [wellSized_iff, wellSized_iff, h]

theorem WellSized.isEmpty_eq_false (h : m.WellSized) : m.isEmpty = false := by
  have least : 0 < m.bytes.size := Nat.lt_of_lt_of_le (by decide) h.least
  exact Array.isEmpty_eq_false_iff.mpr (Array.ne_empty_of_size_pos least)

/-- Every place has an address. -/
theorem WellSized.exists_read8 (h : m.WellSized) {place : Nat} (inside : place < m.bytes.size) :
    ∃ addr : UInt16, addr.toNat = place ∧ m.read8 addr = .ok m.bytes[place] := by
  have back : (UInt16.ofNat place).toNat = place :=
    UInt16.toNat_ofNat_of_lt' (Nat.lt_of_lt_of_le inside h.most)
  refine ⟨UInt16.ofNat place, back, ?_⟩
  rw [read8_eq_ok (back.symm ▸ inside)]
  simp only [back]

/-! ## Origins -/

/-- How a memory comes into being. -/
inductive Origin where
  | ofSize (n : Nat)
  | full
  | json (j : Json)

/-- The memory that comes into being, if one does. -/
def Origin.memory? : Origin → Option Memory
  | .ofSize n => (Memory.ofSize n).toOption
  | .full => some Memory.full
  | .json j => Memory.ofJson? j

theorem wellSized_of_ofSize {n : Nat} (h : ofSize n = .ok m) : m.WellSized := by
  rw [ofSize] at h
  split at h
  case isTrue bounds =>
    cases h
    rw [← size_zeros n] at bounds
    exact ⟨bounds.1, bounds.2⟩
  case isFalse => cases h

theorem wellSized_full : full.WellSized := by
  have size : full.size = maxSize := size_zeros maxSize
  exact ⟨by rw [size]; decide, by rw [size]⟩

/-- A memory that is not read from JSON has a size that addresses can cover. -/
theorem Origin.wellSized {origin : Origin} (h : origin.memory? = some m)
    (made : ∀ j, origin ≠ .json j) : m.WellSized := by
  cases origin with
  | ofSize n =>
    rw [memory?] at h
    cases result : Memory.ofSize n with
    | error => exact nomatch result ▸ h
    | ok made =>
      rw [result] at h
      obtain rfl : made = m := Option.some.inj h
      exact wellSized_of_ofSize result
  | full => cases h; exact wellSized_full
  | json j => exact absurd rfl (made j)

/-- Every memory is read back from what is written, so that a memory that is read can have any
size. -/
@[simp] theorem ofJson?_toJson (m : Memory) : ofJson? m.toJson = some m := by
  have written : m.toJson = .ofFields
      [("bytes", .arr (m.bytes.toList.map fun b => .ofNat b.toNat))] := rfl
  have fields (j : Json) : (Json.ofFields [("bytes", j)]).record? .ignored ["bytes"] =
      some [some j] := rfl
  simp [ofJson?, written, fields, Json.list?_arr_map Json.byte?_ofNat]

/-! ## Changes -/

inductive Change where
  | write8 (addr : UInt16) (value : UInt8)
  | write16 (addr value : UInt16)
  | load (start : UInt16) (program : Bytes)
  | clear
  deriving DecidableEq, Repr

/-- The memory after a change, which is as it was if the change is refused or aborted. -/
def apply (m : Memory) : Change → Memory
  | .write8 addr value =>
    match m.write8 addr value with
    | .ok changed => changed
    | .error _ => m
  | .write16 addr value =>
    match m.write16 addr value with
    | .ok changed => changed
    | .error _ => m
  | .load start program =>
    match m.load start program with
    | .placed changed => changed
    | .refused _ | .aborted => m
  | .clear => m.clear

theorem size_of_write8 {addr : UInt16} {value : UInt8} (h : m.write8 addr value = .ok n) :
    n.size = m.size := by
  rw [write8] at h
  split at h
  · cases h; exact size_put8 ..
  · cases h

theorem size_of_write16 {addr value : UInt16} (h : m.write16 addr value = .ok n) :
    n.size = m.size := by
  rw [write16] at h
  split at h
  · cases h; exact size_put16 ..
  · cases h

theorem size_of_load {start : UInt16} {program : Bytes} (h : m.load start program = .placed n) :
    n.size = m.size := by
  simp only [load] at h
  split at h
  case isTrue => cases h
  case isFalse room =>
    split at h
    case isTrue => cases h
    case isFalse => cases h; exact size_put (by omega)

theorem size_apply (m : Memory) (c : Change) : (m.apply c).size = m.size := by
  cases c with
  | write8 addr value =>
    simp only [apply]
    split
    case h_1 changed => exact size_of_write8 changed
    case h_2 => rfl
  | write16 addr value =>
    simp only [apply]
    split
    case h_1 changed => exact size_of_write16 changed
    case h_2 => rfl
  | load start program =>
    simp only [apply]
    split
    case h_1 placed => exact size_of_load placed
    case h_2 => rfl
    case h_3 => rfl
  | clear => exact size_clear m

end Memory

/-! ## Machines that run on a memory -/

/-- What is done from outside to a machine or to the memory that it runs on. -/
inductive Machine.Call where
  | drive (call : DriverCall)
  | stack (call : StackCall)
  | fetch
  | fetch16
  | fetchRegister
  /-- Fetch the operands of an instruction. -/
  | operands (op : Opcode)
  | change (c : Memory.Change)
  deriving DecidableEq, Repr

namespace Machine

/-- The machine after an action, however it ends. -/
def after {α : Type} (action : Action α) (m : Machine) : Machine :=
  match action m with
  | .ok _ m => m
  | .error _ m => m

theorem sameFrame_set (m : Machine) (r : Register) (value : UInt16) : SameFrame m (m.set r value) :=
  ⟨rfl, rfl, rfl⟩

theorem sameFrame_fetches {α : Type} {action : Action α} {reader : Cursor.Read α}
    (h : Fetches action reader) (m : Machine) : SameFrame m (m.after action) := by
  rw [after, h.follows]
  cases reader m.cursor <;> exact sameFrame_set ..

theorem sameFrame_callStack (m : Machine) (call : StackCall) :
    SameFrame m (m.callStack call).2 := by
  cases call with
  | push value =>
    rw [callStack_push]
    cases m.pushFault? with
    | none => exact ⟨rfl, rfl, Memory.size_put16 ..⟩
    | some => exact .refl m
  | pop =>
    rw [callStack_pop]
    cases m.popFault? with
    | none => exact ⟨rfl, rfl, rfl⟩
    | some => exact .refl m

end Machine

namespace Watched

variable {ω : Type} (note : ω → Event → ω)

def serve (w : Watched ω) : Machine.Call → Watched ω
  | .drive call => drive note w call
  | .stack call => { w with machine := (w.machine.callStack call).2 }
  | .fetch => { w with machine := w.machine.after Machine.fetch }
  | .fetch16 => { w with machine := w.machine.after Machine.fetch16 }
  | .fetchRegister => { w with machine := w.machine.after Machine.fetchRegister }
  | .operands op => { w with machine := w.machine.after (Instruction.read op) }
  | .change c => { w with machine.memory := w.machine.memory.apply c }

def served (w : Watched ω) (calls : List Machine.Call) : Watched ω := calls.foldl (serve note) w

theorem sameFrame_drive (w : Watched ω) (call : DriverCall) :
    Machine.SameFrame w.machine (drive note w call).machine := by
  -- One call is a drive.
  change Machine.SameFrame w.machine (driven note w [call]).machine
  refine driven_induction note (P := fun v => Machine.SameFrame w.machine v.machine)
    (.refl _) ?_ ?_ ?_ ?_
  · intro v h
    rw [step_machine]
    exact h.trans (Machine.sameFrame_step _)
  · exact fun v h => h.trans ⟨rfl, rfl, rfl⟩
  · exact fun _ v h => h.trans ⟨rfl, rfl, rfl⟩
  · exact fun r value _ v h => h.trans (Machine.sameFrame_set ..)

theorem sameFrame_serve (w : Watched ω) (call : Machine.Call) :
    Machine.SameFrame w.machine (serve note w call).machine := by
  cases call with
  | drive call => exact sameFrame_drive note w call
  | stack call => exact Machine.sameFrame_callStack _ call
  | fetch => exact Machine.sameFrame_fetches .nextByte _
  | fetch16 => exact Machine.sameFrame_fetches .nextWord _
  | fetchRegister => exact Machine.sameFrame_fetches .nextRegister _
  | operands op => exact Machine.sameFrame_fetches (.read op) _
  | change c => exact ⟨rfl, rfl, Memory.size_apply _ c⟩

theorem sameFrame_served (w : Watched ω) (calls : List Machine.Call) :
    Machine.SameFrame w.machine (w.served note calls).machine := by
  induction calls generalizing w with
  | nil => exact .refl _
  | cons call calls ih => exact (sameFrame_serve note w call).trans (ih _)

end Watched

namespace Memory

/-- The memories that a memory becomes by changes and by machines that run on it. -/
inductive Becomes (m : Memory) : Memory → Prop where
  | refl : Becomes m m
  | change {n : Memory} (h : m.Becomes n) (c : Change) : m.Becomes (n.apply c)
  | run {n : Memory} (h : m.Becomes n) (settings : Settings) {ω : Type} (note : ω → Event → ω)
      (seen : ω) (calls : List Machine.Call) :
      m.Becomes (Watched.served note ⟨.ofMemory n settings, seen⟩ calls).machine.memory

theorem Becomes.size_eq {m n : Memory} (h : m.Becomes n) : n.size = m.size := by
  induction h with
  | refl => rfl
  | change _ c ih => exact (size_apply _ c).trans ih
  | run _ settings note seen calls ih =>
    exact (Watched.sameFrame_served note ⟨.ofMemory _ settings, seen⟩ calls).size.trans ih

/-- A memory keeps the size that it came into being with. Only one that is read from JSON can have
a size that addresses do not cover. -/
theorem size_fixed_by_origin {origin : Origin} {m n : Memory} (born : origin.memory? = some m)
    (becomes : m.Becomes n) :
    n.size = m.size ∧ (n.WellSized ↔ ∀ j, origin = .json j → m.WellSized) ∧
    (n.WellSized → n.isEmpty = false ∧ ∀ place (inside : place < n.bytes.size),
      ∃ addr : UInt16, addr.toNat = place ∧ n.read8 addr = .ok n.bytes[place]) := by
  have size := becomes.size_eq
  refine ⟨size, ?_, fun sized => ⟨sized.isEmpty_eq_false, fun _ => sized.exists_read8⟩⟩
  rw [wellSized_congr size]
  constructor
  · exact fun sized _ _ => sized
  · intro checked
    by_cases made : ∀ j, origin ≠ .json j
    · exact origin.wellSized born made
    · obtain ⟨j, read⟩ := not_forall_not.mp made
      exact checked j read

/-- A load that is placed and one that is aborted, then a machine that pushes, is refused a push and
has its memory changed. -/
theorem size_fixed_by_origin_three :
    let calls : List Machine.Call := [.drive (.runFor 5), .stack (.push 7), .change (.write8 3 1)]
    let loaded := ((zeros 3).apply (.load 0 [0x17, 0x12, 0x34])).apply (.load 4 [])
    let n := (Watched.served Watched.keepAll ⟨.ofMemory loaded {}, []⟩ calls).machine.memory
    (Origin.ofSize 3).memory? = some (zeros 3) ∧ (zeros 3).Becomes n ∧
      n.size = 3 ∧ n.isEmpty = false := by
  intro calls loaded n
  have placed : (zeros 3).Becomes loaded := .change (.change .refl _) _
  have becomes := placed.run {} Watched.keepAll [] calls
  have born : (Origin.ofSize 3).memory? = some (zeros 3) := rfl
  obtain ⟨size, covered, addressed⟩ := size_fixed_by_origin born becomes
  exact ⟨born, becomes, size, (addressed (covered.mpr nofun)).1⟩

/-- No byte is room for no word. -/
theorem isEmpty_of_json :
    ∃ m, (Json.parse? "\x7b\"bytes\":[]\x7d" >>= ofJson?) = some m ∧
      ¬ minSize ≤ m.size ∧ m.isEmpty = true :=
  ⟨⟨#[]⟩, by decide +kernel, by decide, rfl⟩

end Memory

end WordMachine
