import Mathlib.Logic.Function.Basic
import WordMachine.Proofs.Machine.Step

/-!
# The instruction table

The table says for each instruction when it can run and what it then does, with registers as a
function of their names and memory as a function of places. Banks of bytes, machine arithmetic and
the order of checks do not occur in it. A step is the table's entry applied to the machine whose
instruction pointer is already past the instruction.
-/

namespace WordMachine

/-- Registers and memory, without what they are stored in. -/
structure View where
  register : Register → UInt16
  byte : Nat → UInt8

namespace View

def set (v : View) (r : Register) (value : UInt16) : View :=
  { v with register := Function.update v.register r value }

/-- The word at an address, its high byte first. -/
def load (v : View) (addr : UInt16) : UInt16 :=
  Word.ofBytes (v.byte addr.toNat) (v.byte (addr.toNat + 1))

def store (v : View) (addr value : UInt16) : View :=
  { v with
    byte := Function.update (Function.update v.byte addr.toNat (Word.high value))
      (addr.toNat + 1) (Word.low value) }

def push (v : View) (value : UInt16) : View :=
  (v.store (v.register .sp) value).set .sp (v.register .sp - 2)

end View

namespace Instruction

/-- The effects of the table. Operands are read before anything is written. -/
def apply (v : View) : Instruction → View
  | .movLitReg value reg => v.set reg value
  | .movRegReg source target => v.set target (v.register source)
  | .movRegMem reg addr => v.store addr (v.register reg)
  | .movMemReg addr reg => v.set reg (v.load addr)
  | .addRegReg left right =>
    v.set .acc (UInt16.ofNat (((v.register left).toNat + (v.register right).toNat) % 65536))
  | .jmpNotEq value addr => if value ≠ v.register .acc then v.set .ip addr else v
  | .pshLit value => v.push value
  | .pshReg reg => v.push (v.register reg)
  | .pop reg => (v.set .sp (v.register .sp + 2)).set reg (v.load (v.register .sp + 2))

/-- The conditions of the table, over numbers that do not wrap. -/
def Permitted (m : Machine) : Instruction → Prop
  | .movRegMem _ addr | .movMemReg addr _ => addr.toNat + 2 ≤ m.memory.size
  | .pshLit _ | .pshReg _ =>
    max m.settings.stackLimit.toNat 2 ≤ (m.get .sp).toNat ∧
      (m.get .sp).toNat + 2 ≤ m.memory.size
  | .pop _ => (m.get .sp).toNat + 2 ≤ m.stackTop.toNat
  | .movLitReg .. | .movRegReg .. | .addRegReg .. | .jmpNotEq .. => True

end Instruction

namespace Machine

def view (m : Machine) : View := ⟨m.get, fun place => m.memory.bytes.getD place 0⟩

/-! ## Conditions -/

theorem faultOn?_eq_none_iff {m : Machine} {i : Instruction} (size : 2 ≤ m.memory.size)
    (top : m.stackTop.toNat = m.memory.size - 2) : m.faultOn? i = none ↔ i.Permitted m := by
  cases i with
  | movLitReg | movRegReg | addRegReg | jmpNotEq => simp [faultOn?, Instruction.Permitted]
  | movRegMem | movMemReg => exact accessFault?_eq_none_iff
  | pshLit | pshReg => exact pushFault?_eq_none_iff
  | pop => exact popFault?_eq_none_iff size top

/-- Nothing that the table asks for depends on the instruction pointer. -/
theorem permitted_past {m : Machine} {i : Instruction} (n : Nat) :
    i.Permitted (m.past n) ↔ i.Permitted m := by
  have sp : (m.past n).get .sp = m.get .sp := get_set_of_ne _ (by decide) _
  cases i <;> simp only [Instruction.Permitted, sp] <;> rfl

/-! ## Effects -/

theorem view_set (m : Machine) (r : Register) (value : UInt16) :
    (m.set r value).view = m.view.set r value := by
  simp only [view, View.set, memory_set, View.mk.injEq, and_true]
  funext s
  by_cases h : s = r
  · subst h; simp
  · rw [get_set_of_ne _ (Ne.symm h), Function.update_of_ne h]

theorem view_stored {m : Machine} {addr : UInt16} (inside : addr.toNat + 2 ≤ m.memory.size)
    (value : UInt16) : (m.stored addr value).view = m.view.store addr value := by
  have last : addr.toNat + 1 < m.memory.bytes.size := inside
  simp only [view, stored, View.store, View.mk.injEq]
  refine ⟨rfl, ?_⟩
  funext place
  by_cases low : place = addr.toNat + 1
  · subst low
    simp [Memory.put16, last]
  · by_cases high : place = addr.toNat
    · subst high
      simp [Memory.put16, Nat.lt_of_succ_lt last]
    · simp [Memory.put16, low, high, Ne.symm low, Ne.symm high]

theorem view_pushed {m : Machine} (h : m.pushFault? = none) (value : UInt16) :
    (m.pushed value).view = m.view.push value := by
  rw [pushed, view_set, view_stored (pushFault?_eq_none_iff.mp h).2]
  rfl

theorem view_effect {m : Machine} {i : Instruction} (h : m.faultOn? i = none) :
    (m.effect i).view = i.apply m.view := by
  cases i with
  | movLitReg value reg => exact view_set m reg value
  | movRegReg source target => exact view_set m target _
  | movRegMem reg addr => exact view_stored (accessFault?_eq_none_iff.mp h) _
  | movMemReg addr reg => exact view_set m reg _
  | addRegReg left right =>
    have sum : m.get left + m.get right =
        UInt16.ofNat (((m.get left).toNat + (m.get right).toNat) % 65536) := by
      apply UInt16.toNat.inj
      simp
    simp only [effect, view_set, sum]
    rfl
  | jmpNotEq value addr =>
    by_cases same : value = m.get .acc
    · simp [effect, Instruction.apply, view, same]
    · simp [effect, Instruction.apply, same, view_set]
      simp [view, same]
  | pshLit value => exact view_pushed h value
  | pshReg reg => exact view_pushed h _
  | pop reg =>
    simp only [effect, view_set, popped]
    rfl

/-- Where the table permits an instruction, and only there, it is executed, and the machine after it
is the table's. -/
theorem step_meets_table {m : Machine} {i : Instruction} (running : m.state = .running)
    (least : 2 ≤ m.memory.size) (most : m.memory.size ≤ 65536)
    (top : m.stackTop = topOfStack m.memory.size)
    (decoded : m.memory.instructionAt (m.get .ip) = .ok i) :
    (m.step.outcome = .ok (some i) ↔ i.Permitted m) ∧
    (m.step.outcome = .ok (some i) →
      (m.get .ip).toNat + i.size ≤ 65535 ∧
      m.step.machine.view =
        i.apply (m.view.set .ip (UInt16.ofNat ((m.get .ip).toNat + i.size))) ∧
      m.step.machine =
        { m with
          memory := m.step.machine.memory
          registers := m.step.machine.registers
          cycles := m.cycles + 1
          last := some i } ∧
      m.step.machine.memory.size = m.memory.size) := by
  have bottom : m.stackTop.toNat = m.memory.size - 2 := by rw [top, toNat_topOfStack most]
  have runnable : (m.past i.size).faultOn? i = none ↔ i.Permitted (m.past i.size) :=
    faultOn?_eq_none_iff least bottom
  have permitted := runnable.trans (permitted_past i.size)
  have steps := step_of_decoded running decoded
  cases runs : (m.past i.size).faultOn? i with
  | some fault =>
    have stopped : m.step.outcome ≠ .ok (some i) := by
      rw [steps, runs]
      simp [stop]
    have refused : ¬ i.Permitted m := by
      intro allowed
      rw [permitted.mpr allowed] at runs
      cases runs
    exact ⟨iff_of_false stopped refused, fun h => absurd h stopped⟩
  | none =>
    rw [runs] at steps
    rw [steps]
    refine ⟨iff_of_true rfl (permitted.mp runs), ?_⟩
    intro executed
    refine ⟨?_, ?_, ?_, ?_⟩
    · exact (Memory.instructionAt_eq_ok_iff.mp decoded).2
    · have moved : (m.past i.size).view = m.view.set .ip _ := view_set ..
      rw [← moved, ← view_effect runs]
      rfl
    · simp only [finish]
      rw [effect_frame]
      rfl
    · exact size_effect (m.past i.size) i

/-- Pushing the stack pointer stores what it was. -/
theorem step_meets_table_psh_sp :
    let m : Machine := .ofMemory ⟨#[0x18, 0x0A, 0, 0, 0, 0]⟩ {}
    let i : Instruction := .pshReg .sp
    m.state = .running ∧ 2 ≤ m.memory.size ∧ m.memory.size ≤ 65536 ∧
      m.stackTop = topOfStack m.memory.size ∧ m.memory.instructionAt (m.get .ip) = .ok i ∧
      i.Permitted m ∧ m.step.outcome = .ok (some i) ∧
      m.step.machine.view = i.apply (m.view.set .ip 2) := by
  intro m i
  have decoded : m.memory.instructionAt (m.get .ip) = .ok i := rfl
  have permitted : i.Permitted m := by
    simp only [i, Instruction.Permitted]
    decide
  have meets := step_meets_table (m := m) (i := i) rfl (by decide) (by decide) rfl decoded
  have executed := meets.1.mpr permitted
  exact ⟨rfl, by decide, by decide, rfl, decoded, permitted, executed, (meets.2 executed).2.1⟩

end Machine

end WordMachine
