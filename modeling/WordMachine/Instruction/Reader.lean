import WordMachine.Instruction
import WordMachine.Memory

/-!
# Reading instructions

The operands of an instruction are read from any source of bytes, words and registers. A cursor is
such a source that reads a memory and changes nothing but its own position, which stays where it
is when a read fails.
-/

namespace WordMachine

inductive DecodeError where
  | invalidOpcode (byte : UInt8)
  | invalidRegister (error : RegisterError)
  | memoryFault (error : MemoryError)
  deriving DecidableEq, Repr

def DecodeError.message : DecodeError → String
  | .invalidOpcode byte => s!"invalid opcode: 0x{Text.Hex.byte byte}"
  | .invalidRegister e => e.message
  | .memoryFault e => e.message

/-- A monad with a stream of instruction bytes to read from. -/
class OperandSource (m : Type → Type) where
  nextByte : m UInt8
  nextWord : m UInt16
  nextRegister : m Register

namespace Instruction

open OperandSource

/-- Reads the operands that follow an opcode. -/
@[specialize] def read {m : Type → Type} [Monad m] [OperandSource m] :
    Opcode → m Instruction
  | .movLitReg => do
    let value ← nextWord
    let reg ← nextRegister
    return .movLitReg value reg
  | .movRegReg => do
    let source ← nextRegister
    let target ← nextRegister
    return .movRegReg source target
  | .movRegMem => do
    let reg ← nextRegister
    let addr ← nextWord
    return .movRegMem reg addr
  | .movMemReg => do
    let addr ← nextWord
    let reg ← nextRegister
    return .movMemReg addr reg
  | .addRegReg => do
    let left ← nextRegister
    let right ← nextRegister
    return .addRegReg left right
  | .jmpNotEq => do
    let value ← nextWord
    let addr ← nextWord
    return .jmpNotEq value addr
  | .pshLit => do
    let value ← nextWord
    return .pshLit value
  | .pshReg => do
    let reg ← nextRegister
    return .pshReg reg
  | .pop => do
    let reg ← nextRegister
    return .pop reg

end Instruction

/-- A place in a memory from which bytes are read in order. -/
structure Cursor where
  memory : Memory
  position : UInt16
  deriving DecidableEq

namespace Cursor

/-- Reading at a cursor: a failed read leaves the cursor where it was. -/
abbrev Read := EStateM DecodeError Cursor

def nextByte : Read UInt8 := fun c =>
  match c.memory.read8 c.position with
  | .error e => .error (.memoryFault e) c
  | .ok byte =>
    match Memory.addressAfter c.position 1 with
    | .error e => .error (.memoryFault e) c
    | .ok next => .ok byte { c with position := next }

def nextWord : Read UInt16 := fun c =>
  match c.memory.read16 c.position with
  | .error e => .error (.memoryFault e) c
  | .ok word =>
    match Memory.addressAfter c.position 2 with
    | .error e => .error (.memoryFault e) c
    | .ok next => .ok word { c with position := next }

/-- A byte that selects no register has been read all the same. -/
def nextRegister : Read Register := do
  let index ← nextByte
  match Register.ofIndex index with
  | .ok reg => return reg
  | .error e => throw (.invalidRegister e)

instance : OperandSource Read := ⟨nextByte, nextWord, nextRegister⟩

/-- Reads an opcode and its operands. -/
def nextInstruction : Read Instruction := do
  let byte ← nextByte
  match Opcode.ofByte? byte with
  | some op => Instruction.read op
  | none => throw (.invalidOpcode byte)

end Cursor

/-- The instruction whose opcode is at `addr`. -/
def Memory.instructionAt (m : Memory) (addr : UInt16) : Except DecodeError Instruction :=
  match Cursor.nextInstruction ⟨m, addr⟩ with
  | .ok i _ => .ok i
  | .error e _ => .error e

end WordMachine
