import WordMachine.Machine.Fault
import WordMachine.Register.Bank

/-!
# The machine

A machine is a memory, a register bank and what it needs to run: its settings, the bottom of its
stack, its state, the number of instructions run so far and the last one. The stack grows down
from the last word of memory.
-/

namespace WordMachine

/-- What a machine does with a byte that is no opcode. -/
inductive OpcodePolicy where
  | strict
  /-- Skip the byte. -/
  | permissive
  deriving DecidableEq, Repr

structure Settings where
  /-- The lowest address to which a push may write. -/
  stackLimit : UInt16 := 0
  opcodePolicy : OpcodePolicy := .strict
  deriving DecidableEq, Repr

structure Machine where
  memory : Memory
  registers : RegisterBank
  settings : Settings
  /-- The stack pointer of an empty stack; no pop moves it higher. -/
  stackTop : UInt16
  state : RunState
  /-- The number of instructions run since the last reset. -/
  cycles : UInt64
  last : Option Instruction
  deriving DecidableEq

namespace Machine

/-- The address of the last word of a memory of `size` bytes. -/
def topOfStack (size : Nat) : UInt16 :=
  if size - 2 ≤ 65535 then UInt16.ofNat (size - 2) else 65534

def get (m : Machine) (r : Register) : UInt16 := m.registers.get r

def set (m : Machine) (r : Register) (value : UInt16) : Machine :=
  { m with registers := m.registers.set r value }

/-- The register bank of a machine that has not run. -/
def freshRegisters (stackTop : UInt16) : RegisterBank :=
  (RegisterBank.zero.set .sp stackTop).set .fp stackTop

/-- Forgets everything but memory, settings and stack bottom. -/
def reset (m : Machine) : Machine :=
  { m with
    registers := freshRegisters m.stackTop
    state := .running
    cycles := 0
    last := none }

/-- A machine that has not run yet. -/
def ofMemory (memory : Memory) (settings : Settings) : Machine :=
  let stackTop := topOfStack memory.size
  { memory, settings, stackTop
    registers := freshRegisters stackTop
    state := .running
    cycles := 0
    last := none }

/-- Leaves the faulted state and changes nothing else. -/
def resume (m : Machine) : Machine := { m with state := .running }

def isRunning (m : Machine) : Bool := m.state == .running

/-- One line of text with state, cycles and registers. -/
def summary (m : Machine) : String :=
  s!"Cpu \x7b state: {m.state.name}, cycles: {m.cycles}, regs: {m.registers.summary} \x7d"

theorem toNat_topOfStack {size : Nat} (h : size ≤ 65536) :
    (topOfStack size).toNat = size - 2 := by
  have small : size - 2 ≤ 65535 := by omega
  rw [topOfStack, if_pos small, UInt16.toNat_ofNat']
  omega

@[simp] theorem get_set_self (m : Machine) (r : Register) (value : UInt16) :
    (m.set r value).get r = value := RegisterBank.get_set_self ..

theorem get_set_of_ne (m : Machine) {r s : Register} (h : r ≠ s) (value : UInt16) :
    (m.set r value).get s = m.get s := RegisterBank.get_set_of_ne _ h _

theorem get_set (m : Machine) (r s : Register) (value : UInt16) :
    (m.set r value).get s = if s = r then value else m.get s := by
  split
  case isTrue same => rw [same, get_set_self]
  case isFalse other => exact get_set_of_ne m (Ne.symm other) value

@[simp] theorem set_get_self (m : Machine) (r : Register) : m.set r (m.get r) = m := by
  simp only [set, get, RegisterBank.set_get_self]

@[simp] theorem set_set (m : Machine) (r : Register) (first second : UInt16) :
    (m.set r first).set r second = m.set r second := by
  simp only [set, RegisterBank.set_set]

@[simp] theorem memory_set (m : Machine) (r : Register) (value : UInt16) :
    (m.set r value).memory = m.memory := rfl

@[simp] theorem reset_ofMemory (memory : Memory) (settings : Settings) :
    (ofMemory memory settings).reset = ofMemory memory settings := rfl

end Machine

end WordMachine
