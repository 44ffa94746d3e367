import WordMachine.Machine.Basic

/-!
# Snapshots

A snapshot is what a front end shows of a machine.
-/

namespace WordMachine

structure Snapshot where
  registers : List (Register × UInt16)
  state : RunState
  cycles : UInt64
  /-- The text of the last instruction. -/
  lastInstruction : Option String
  deriving DecidableEq, Repr

def Machine.snapshot (m : Machine) : Snapshot where
  registers := m.registers.toList
  state := m.state
  cycles := m.cycles
  lastInstruction := m.last.map Instruction.text

end WordMachine
