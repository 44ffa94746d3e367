import WordMachine.Machine.Basic
import WordMachine.Trace.Event

/-!
# Running one instruction

An action runs on a machine and ends in a value or a fault, with a machine in either case. The
actions that read at the instruction pointer move it as far as they have read. The others change
nothing when they fault, so that a step only has to put the instruction pointer back.
-/

namespace WordMachine.Machine

abbrev Action := EStateM Fault Machine

/-! ## Reading at the instruction pointer -/

/-- The byte at the instruction pointer. The pointer never wraps: the last byte of a full address
space cannot be fetched. -/
def fetch : Action UInt8 := fun m =>
  let ip := m.get .ip
  match m.memory.read8 ip with
  | .error e => .error (.memoryFault e) m
  | .ok byte =>
    match Memory.addressAfter ip 1 with
    | .error e => .error (.memoryFault e) m
    | .ok next => .ok byte (m.set .ip next)

/-- The word at the instruction pointer. -/
def fetch16 : Action UInt16 := fun m =>
  let ip := m.get .ip
  match m.memory.read16 ip with
  | .error e => .error (.memoryFault e) m
  | .ok word =>
    match Memory.addressAfter ip 2 with
    | .error e => .error (.memoryFault e) m
    | .ok next => .ok word (m.set .ip next)

/-- The register that the byte at the instruction pointer selects. -/
def fetchRegister : Action Register := do
  let index ← fetch
  match Register.ofIndex index with
  | .ok reg => return reg
  | .error e => throw (.invalidRegister e)

instance : OperandSource Action := ⟨fetch, fetch16, fetchRegister⟩

/-! ## Effects -/

/-- Stores a word. -/
def store (addr value : UInt16) : Action Unit := fun m =>
  if m.memory.Holds addr 2 then .ok () { m with memory := m.memory.put16 addr value }
  else .error (.memoryFault (m.memory.fault addr 2)) m

/-- The word at `addr`. -/
def fetchFrom (addr : UInt16) : Action UInt16 := fun m =>
  match m.memory.read16 addr with
  | .ok value => .ok value m
  | .error e => .error (.memoryFault e) m

/-- Stores a word at the stack pointer, which then moves down one word. -/
def push (value : UInt16) : Action Unit := fun m =>
  let sp := m.get .sp
  let limit := m.settings.stackLimit
  if sp < 2 ∨ sp < limit then .error (.stackOverflow sp limit) m
  else
    match store sp value m with
    | .ok _ m => .ok () (m.set .sp (sp - 2))
    | .error e m => .error e m

/-- The word above the stack pointer, which moves up to it. -/
def pop : Action UInt16 := fun m =>
  let sp := m.get .sp
  let top := m.stackTop
  if sp > 65533 ∨ sp + 2 > top then .error (.stackUnderflow sp top) m
  else
    match fetchFrom (sp + 2) m with
    | .ok value m => .ok value (m.set .sp (sp + 2))
    | .error e m => .error e m

/-- Runs a decoded instruction; the instruction pointer is already past it. -/
def execute : Instruction → Action Unit
  | .movLitReg value reg => modify fun m => m.set reg value
  | .movRegReg source target => modify fun m => m.set target (m.get source)
  | .movRegMem reg addr => fun m => store addr (m.get reg) m
  | .movMemReg addr reg => do
    let value ← fetchFrom addr
    modify fun m => m.set reg value
  | .addRegReg left right => modify fun m => m.set .acc (m.get left + m.get right)
  | .jmpNotEq value addr =>
    modify fun m => if value = m.get .acc then m else m.set .ip addr
  | .pshLit value => push value
  | .pshReg reg => fun m => push (m.get reg) m
  | .pop reg => do
    let value ← pop
    modify fun m => m.set reg value

/-! ## Steps -/

/-- What became of the byte at the instruction pointer. -/
inductive Progress where
  | executed (instruction : Instruction)
  | ignored (opcode : UInt8)
  deriving DecidableEq, Repr

/-- Fetches, decodes and runs the instruction at the instruction pointer. -/
def advance : Action Progress := do
  let byte ← fetch
  match Opcode.ofByte? byte with
  | some op =>
    let instruction ← Instruction.read op
    execute instruction
    return .executed instruction
  | none =>
    match (← getThe Machine).settings.opcodePolicy with
    | .permissive => return .ignored byte
    | .strict => throw (.invalidOpcode byte)

/-- How a step ended: its outcome, the event it reports and the machine after it. -/
structure Step where
  /-- The instruction that ran, or none if a byte was skipped. -/
  outcome : Except Fault (Option Instruction)
  event : Option Event
  machine : Machine

/-- Runs one instruction. After a fault the instruction pointer is back at the opcode, nothing else
has changed, and the machine takes no step until it is resumed or reset. -/
def step (m : Machine) : Step :=
  match m.state with
  | .faulted => ⟨.error (.notRunning .faulted), none, m⟩
  | .running =>
    let ip := m.get .ip
    match advance m with
    | .ok (.executed i) m =>
      let cycles := m.cycles + 1
      ⟨.ok (some i), some (.executed ip i cycles), { m with cycles, last := some i }⟩
    | .ok (.ignored opcode) m => ⟨.ok none, some (.ignored ip opcode), m⟩
    | .error fault m =>
      ⟨.error fault, some (.faulted ip fault), { m.set .ip ip with state := .faulted }⟩

end WordMachine.Machine
