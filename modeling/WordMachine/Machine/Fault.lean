import WordMachine.Instruction.Reader

/-!
# Faults

What stops a machine, each with the text that reports it.
-/

namespace WordMachine

inductive RunState where
  | running
  /-- The last step faulted. -/
  | faulted
  deriving DecidableEq, Repr

def RunState.name : RunState → String
  | .running => "Running"
  | .faulted => "Faulted"

inductive Fault where
  /-- A step was asked of a machine in a state that takes none. -/
  | notRunning (state : RunState)
  | invalidOpcode (byte : UInt8)
  | invalidRegister (error : RegisterError)
  | memoryFault (error : MemoryError)
  /-- A push at `sp` while the stack may not grow below `limit`. -/
  | stackOverflow (sp limit : UInt16)
  /-- A pop at `sp` while the stack begins at `top`. -/
  | stackUnderflow (sp top : UInt16)
  deriving DecidableEq, Repr

namespace Fault

def message : Fault → String
  | .notRunning state => s!"CPU not running: {state.name}"
  | .invalidOpcode byte => s!"invalid opcode: 0x{Text.Hex.byte byte}"
  | .invalidRegister e => e.message
  | .memoryFault e => e.message
  | .stackOverflow sp limit =>
    s!"stack overflow: SP=0x{Text.Hex.word sp}, limit=0x{Text.Hex.word limit}"
  | .stackUnderflow sp top =>
    s!"stack underflow: SP=0x{Text.Hex.word sp}, top=0x{Text.Hex.word top}"

/-- The fault of a machine whose instruction cannot be read. -/
def ofDecode : DecodeError → Fault
  | .invalidOpcode byte => .invalidOpcode byte
  | .invalidRegister e => .invalidRegister e
  | .memoryFault e => .memoryFault e

@[simp] theorem message_ofDecode (e : DecodeError) : (ofDecode e).message = e.message := by
  cases e <;> rfl

end Fault

end WordMachine
