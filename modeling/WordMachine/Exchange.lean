import WordMachine.Json.Reader
import WordMachine.Json.Shape
import WordMachine.Machine.Snapshot

/-!
# JSON forms

How registers, instructions, settings, states, memories and register banks are written as JSON and
read again. A form that has a reader and a writer is read back from what is written.
-/

namespace WordMachine

/-- The element of `all` with the name that a JSON value gives. -/
def named? {α : Type} (all : List α) (tag : α → String) (j : Json) : Option α := do
  let name ← j.name?
  all.find? fun a => tag a == name

namespace Register

def tag : Register → String
  | .ip => "Ip" | .acc => "Acc" | .r1 => "R1" | .r2 => "R2" | .r3 => "R3" | .r4 => "R4"
  | .r5 => "R5" | .r6 => "R6" | .r7 => "R7" | .r8 => "R8" | .sp => "Sp" | .fp => "Fp"

def toJson (r : Register) : Json := .ofString r.tag

def ofJson? : Json → Option Register := named? all tag

end Register

namespace Opcode

def tag : Opcode → String
  | .movLitReg => "MovLitReg"
  | .movRegReg => "MovRegReg"
  | .movRegMem => "MovRegMem"
  | .movMemReg => "MovMemReg"
  | .addRegReg => "AddRegReg"
  | .jmpNotEq => "JmpNotEq"
  | .pshLit => "PshLit"
  | .pshReg => "PshReg"
  | .pop => "Pop"

def toJson (op : Opcode) : Json := .ofString op.tag

def ofJson? : Json → Option Opcode := named? all tag

end Opcode

namespace RunState

def toJson (s : RunState) : Json := .ofString s.name

def ofJson? : Json → Option RunState := named? [.running, .faulted] name

end RunState

namespace OpcodePolicy

def name : OpcodePolicy → String
  | .strict => "strict"
  | .permissive => "permissive"

def toJson (p : OpcodePolicy) : Json := .ofString p.name

def ofJson? : Json → Option OpcodePolicy := named? [.strict, .permissive] name

end OpcodePolicy

namespace Instruction

private def word (w : UInt16) : Json := .ofNat w.toNat

/-- The operands by name, in the order of the encoding. -/
def operandFields : Instruction → List (String × Json)
  | .movLitReg value reg => [("value", word value), ("reg", reg.toJson)]
  | .movRegReg source target => [("from", source.toJson), ("to", target.toJson)]
  | .movRegMem reg addr => [("reg", reg.toJson), ("addr", word addr)]
  | .movMemReg addr reg => [("addr", word addr), ("reg", reg.toJson)]
  | .addRegReg left right => [("a", left.toJson), ("b", right.toJson)]
  | .jmpNotEq value addr => [("value", word value), ("addr", word addr)]
  | .pshLit value => [("value", word value)]
  | .pshReg reg => [("reg", reg.toJson)]
  | .pop reg => [("reg", reg.toJson)]

/-- An object with one field: the opcode and, in it, the operands. -/
def toJson (i : Instruction) : Json :=
  .ofFields [(i.opcode.tag, .ofFields i.operandFields)]

/-- One operand with its name. -/
private def operand? {α : Type} (name : String) (read? : Json → Option α) (j : Json) :
    Option α := do
  match ← j.record? .ignored [name] with
  | [some a] => read? a
  | _ => none

/-- Two operands with their names. -/
private def operands? {α β : Type} (first : String) (read₁? : Json → Option α)
    (second : String) (read₂? : Json → Option β) (j : Json) : Option (α × β) := do
  match ← j.record? .ignored [first, second] with
  | [some a, some b] => return (← read₁? a, ← read₂? b)
  | _ => none

/-- The instruction with opcode `op` whose operands a JSON value gives. -/
def ofOperands? (op : Opcode) (j : Json) : Option Instruction :=
  let reg? := Register.ofJson?
  let word? := Json.word?
  match op with
  | .movLitReg => (operands? "value" word? "reg" reg? j).map fun (v, r) => .movLitReg v r
  | .movRegReg => (operands? "from" reg? "to" reg? j).map fun (r, s) => .movRegReg r s
  | .movRegMem => (operands? "reg" reg? "addr" word? j).map fun (r, a) => .movRegMem r a
  | .movMemReg => (operands? "addr" word? "reg" reg? j).map fun (a, r) => .movMemReg a r
  | .addRegReg => (operands? "a" reg? "b" reg? j).map fun (r, s) => .addRegReg r s
  | .jmpNotEq => (operands? "value" word? "addr" word? j).map fun (v, a) => .jmpNotEq v a
  | .pshLit => (operand? "value" word? j).map .pshLit
  | .pshReg => (operand? "reg" reg? j).map .pshReg
  | .pop => (operand? "reg" reg? j).map .pop

def ofJson? (j : Json) : Option Instruction := do
  match ← j.choice? with
  | (name, some content) => ofOperands? (← Opcode.all.find? fun op => op.tag == name) content
  | (_, none) => none

end Instruction

namespace Settings

def toJson (s : Settings) : Json :=
  .ofFields
    [("stack_limit", .ofNat s.stackLimit.toNat), ("opcode_policy", s.opcodePolicy.toJson)]

/-- A missing value has its default. -/
def ofValues? (stackLimit opcodePolicy : Option Json) : Option Settings := do
  let default : Settings := {}
  let stackLimit ← stackLimit.elim (some default.stackLimit) Json.word?
  let opcodePolicy ← opcodePolicy.elim (some default.opcodePolicy) OpcodePolicy.ofJson?
  return { stackLimit, opcodePolicy }

def ofJson? (j : Json) : Option Settings := do
  match ← j.record? .ignored ["stack_limit", "opcode_policy"] with
  | [stackLimit, opcodePolicy] => ofValues? stackLimit opcodePolicy
  | _ => none

end Settings

private def bytesToJson (bytes : Bytes) : Json := .arr (bytes.map fun b => .ofNat b.toNat)

namespace Memory

def toJson (m : Memory) : Json := .ofFields [("bytes", bytesToJson m.bytes.toList)]

/-- A memory of any size. -/
def ofJson? (j : Json) : Option Memory := do
  match ← j.record? .ignored ["bytes"] with
  | [some bytes] => return ⟨(← bytes.list? Json.byte?).toArray⟩
  | _ => none

end Memory

namespace RegisterBank

def toJson (b : RegisterBank) : Json := .ofFields [("slots", bytesToJson b.bytes)]

def ofJson? (j : Json) : Option RegisterBank := do
  match ← j.record? .ignored ["slots"] with
  | [some slots] =>
    let slots := (← slots.list? Json.byte?).toArray
    if h : slots.size = 2 * Register.count then some ⟨⟨slots, h⟩⟩ else none
  | _ => none

end RegisterBank

def Snapshot.toJson (s : Snapshot) : Json :=
  let registers := s.registers.map fun (r, value) =>
    Json.ofFields [("name", .ofString r.name), ("value", .ofNat value.toNat)]
  .ofFields
    [("registers", .arr registers),
     ("state", s.state.toJson),
     ("cycles", .ofNat s.cycles.toNat),
     ("last_instruction", s.lastInstruction.elim .null .ofString)]

end WordMachine
