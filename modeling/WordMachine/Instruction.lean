import WordMachine.Register
import WordMachine.Text.Hex
import WordMachine.Word

/-!
# Instructions

The nine instructions, their byte encoding and their text. An encoding is an opcode byte followed
by the operands in the order in which the constructor lists them: a register takes one byte, a
literal or an address two. The size of an encoding depends on the opcode alone.
-/

namespace WordMachine

inductive Opcode where
  | movLitReg | movRegReg | movRegMem | movMemReg | addRegReg | jmpNotEq | pshLit | pshReg | pop
  deriving DecidableEq, Repr

namespace Opcode

/-- Every opcode, by ascending byte. -/
def all : List Opcode :=
  [.movLitReg, .movRegReg, .movRegMem, .movMemReg, .addRegReg, .jmpNotEq, .pshLit, .pshReg, .pop]

def byte : Opcode → UInt8
  | .movLitReg => 0x10
  | .movRegReg => 0x11
  | .movRegMem => 0x12
  | .movMemReg => 0x13
  | .addRegReg => 0x14
  | .jmpNotEq => 0x15
  | .pshLit => 0x17
  | .pshReg => 0x18
  | .pop => 0x1A

def mnemonic : Opcode → String
  | .movLitReg => "MOV_LIT_REG"
  | .movRegReg => "MOV_REG_REG"
  | .movRegMem => "MOV_REG_MEM"
  | .movMemReg => "MOV_MEM_REG"
  | .addRegReg => "ADD_REG_REG"
  | .jmpNotEq => "JMP_NOT_EQ"
  | .pshLit => "PSH_LIT"
  | .pshReg => "PSH_REG"
  | .pop => "POP"

/-- The number of bytes of an instruction, the opcode included. -/
def size : Opcode → Nat
  | .movLitReg | .movRegMem | .movMemReg => 4
  | .movRegReg | .addRegReg | .pshLit => 3
  | .jmpNotEq => 5
  | .pshReg | .pop => 2

def ofByte? (byte : UInt8) : Option Opcode := all.find? fun op => op.byte == byte

@[simp] theorem ofByte?_byte (op : Opcode) : ofByte? op.byte = some op := by cases op <;> rfl

theorem byte_of_ofByte? {b : UInt8} {op : Opcode} (h : ofByte? b = some op) : op.byte = b := by
  simpa using List.find?_some h

end Opcode

inductive Instruction where
  /-- Puts a literal into a register. -/
  | movLitReg (value : UInt16) (reg : Register)
  /-- Copies register `source` to register `target`. -/
  | movRegReg (source target : Register)
  /-- Stores a register as the word at `addr`. -/
  | movRegMem (reg : Register) (addr : UInt16)
  /-- Loads the word at `addr` into a register. -/
  | movMemReg (addr : UInt16) (reg : Register)
  /-- Puts the sum of two registers into the accumulator. -/
  | addRegReg (left right : Register)
  /-- Jumps to `addr` unless the accumulator holds `value`. -/
  | jmpNotEq (value addr : UInt16)
  | pshLit (value : UInt16)
  | pshReg (reg : Register)
  | pop (reg : Register)
  deriving DecidableEq, Repr

namespace Instruction

def opcode : Instruction → Opcode
  | .movLitReg .. => .movLitReg
  | .movRegReg .. => .movRegReg
  | .movRegMem .. => .movRegMem
  | .movMemReg .. => .movMemReg
  | .addRegReg .. => .addRegReg
  | .jmpNotEq .. => .jmpNotEq
  | .pshLit .. => .pshLit
  | .pshReg .. => .pshReg
  | .pop .. => .pop

def size (i : Instruction) : Nat := i.opcode.size

/-- The bytes after the opcode. -/
def operands : Instruction → Bytes
  | .movLitReg value reg => Word.toBytes value ++ [reg.index]
  | .movRegReg source target => [source.index, target.index]
  | .movRegMem reg addr => reg.index :: Word.toBytes addr
  | .movMemReg addr reg => Word.toBytes addr ++ [reg.index]
  | .addRegReg left right => [left.index, right.index]
  | .jmpNotEq value addr => Word.toBytes value ++ Word.toBytes addr
  | .pshLit value => Word.toBytes value
  | .pshReg reg => [reg.index]
  | .pop reg => [reg.index]

def encode (i : Instruction) : Bytes := i.opcode.byte :: i.operands

/-- Literals are marked by a dollar sign and addresses by an ampersand. -/
def text : Instruction → String
  | .movLitReg value reg => s!"MOV ${Text.Hex.word value}, {reg.name}"
  | .movRegReg source target => s!"MOV {source.name}, {target.name}"
  | .movRegMem reg addr => s!"MOV {reg.name}, &{Text.Hex.word addr}"
  | .movMemReg addr reg => s!"MOV &{Text.Hex.word addr}, {reg.name}"
  | .addRegReg left right => s!"ADD {left.name}, {right.name}"
  | .jmpNotEq value addr => s!"JNE ${Text.Hex.word value}, &{Text.Hex.word addr}"
  | .pshLit value => s!"PSH ${Text.Hex.word value}"
  | .pshReg reg => s!"PSH {reg.name}"
  | .pop reg => s!"POP {reg.name}"

theorem length_encode (i : Instruction) : i.encode.length = i.size := by cases i <;> rfl

theorem size_pos (i : Instruction) : 0 < i.size := by cases i <;> exact Nat.succ_pos _

theorem two_le_size (i : Instruction) : 2 ≤ i.size := by
  unfold size
  cases i.opcode <;> decide

theorem size_le (i : Instruction) : i.size ≤ 5 := by
  unfold size
  cases i.opcode <;> decide

end Instruction

end WordMachine
