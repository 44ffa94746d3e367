import WordMachine.Machine.Fault

/-!
# Events

A step of a running machine is reported as one event, with the address of the opcode that the step
was about.
-/

namespace WordMachine

inductive Event where
  /-- An instruction ran; it was number `cycle` since the last reset. -/
  | executed (ip : UInt16) (instruction : Instruction) (cycle : UInt64)
  /-- A byte that is no opcode was skipped. -/
  | ignored (ip : UInt16) (opcode : UInt8)
  | faulted (ip : UInt16) (fault : Fault)
  deriving DecidableEq, Repr

namespace Event

def ip : Event → UInt16
  | .executed ip _ _ => ip
  | .ignored ip _ => ip
  | .faulted ip _ => ip

def text : Event → String
  | .executed ip i _ => s!"{Text.Hex.word ip}: {i.text}"
  | .ignored ip opcode => s!"{Text.Hex.word ip}: ignored opcode 0x{Text.Hex.byte opcode}"
  | .faulted ip fault => s!"{Text.Hex.word ip}: fault: {fault.message}"

end Event

end WordMachine
