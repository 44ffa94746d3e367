import WordMachine.Machine.Step

/-!
# What an instruction does

Running a decoded instruction is a check followed by an effect: `faultOn?` names the fault that
keeps the instruction from running, and `effect` is the machine after it where there is none. The
equation `execute_eq` says so for all nine instructions. A fault leaves the machine as it was, and
everything about a step follows from these two functions.
-/

namespace WordMachine

namespace Memory

/-- The word at an address; bytes outside memory count as zero. -/
def wordAt (m : Memory) (addr : UInt16) : UInt16 :=
  Word.ofBytes (m.bytes.getD addr.toNat 0) (m.bytes.getD (addr.toNat + 1) 0)

theorem read16_eq (m : Memory) (addr : UInt16) :
    m.read16 addr = if m.Holds addr 2 then .ok (m.wordAt addr) else .error (m.fault addr 2) := by
  split
  case isTrue h =>
    have last : addr.toNat + 1 < m.bytes.size := h
    simp [read16_eq_ok last, wordAt, last, Nat.lt_of_succ_lt last]
  case isFalse h => exact read16_eq_error h

end Memory

namespace Machine

/-- The fault of a store or load, unless the word lies inside memory. -/
def accessFault? (m : Machine) (addr : UInt16) : Option Fault :=
  if m.memory.Holds addr 2 then none else some (.memoryFault (m.memory.fault addr 2))

def pushFault? (m : Machine) : Option Fault :=
  let sp := m.get .sp
  let limit := m.settings.stackLimit
  if sp < 2 ∨ sp < limit then some (.stackOverflow sp limit) else m.accessFault? sp

def popFault? (m : Machine) : Option Fault :=
  let sp := m.get .sp
  if sp > 65533 ∨ sp + 2 > m.stackTop then some (.stackUnderflow sp m.stackTop)
  else m.accessFault? (sp + 2)

/-- The fault in which running an instruction ends, if it does not run. -/
def faultOn? (m : Machine) : Instruction → Option Fault
  | .movRegMem _ addr | .movMemReg addr _ => m.accessFault? addr
  | .pshLit _ | .pshReg _ => m.pushFault?
  | .pop _ => m.popFault?
  | .movLitReg .. | .movRegReg .. | .addRegReg .. | .jmpNotEq .. => none

/-- The machine with a word stored. -/
def stored (m : Machine) (addr value : UInt16) : Machine :=
  { m with memory := m.memory.put16 addr value }

@[simp] theorem get_stored (m : Machine) (addr value : UInt16) (r : Register) :
    (m.stored addr value).get r = m.get r := rfl

def pushed (m : Machine) (value : UInt16) : Machine :=
  (m.stored (m.get .sp) value).set .sp (m.get .sp - 2)

/-- The machine without the top of its stack, which is `m.popValue`. -/
def popped (m : Machine) : Machine := m.set .sp (m.get .sp + 2)

def popValue (m : Machine) : UInt16 := m.memory.wordAt (m.get .sp + 2)

/-- What an instruction does that runs. The instruction pointer is already past it. -/
def effect (m : Machine) : Instruction → Machine
  | .movLitReg value reg => m.set reg value
  | .movRegReg source target => m.set target (m.get source)
  | .movRegMem reg addr => m.stored addr (m.get reg)
  | .movMemReg addr reg => m.set reg (m.memory.wordAt addr)
  | .addRegReg left right => m.set .acc (m.get left + m.get right)
  | .jmpNotEq value addr => if value = m.get .acc then m else m.set .ip addr
  | .pshLit value => m.pushed value
  | .pshReg reg => m.pushed (m.get reg)
  | .pop reg => m.popped.set reg m.popValue

theorem store_eq (addr value : UInt16) (m : Machine) :
    store addr value m = match m.accessFault? addr with
      | none => .ok () (m.stored addr value)
      | some fault => .error fault m := by
  by_cases h : m.memory.Holds addr 2 <;> simp [store, accessFault?, stored, h]

theorem fetchFrom_eq (addr : UInt16) (m : Machine) :
    fetchFrom addr m = match m.accessFault? addr with
      | none => .ok (m.memory.wordAt addr) m
      | some fault => .error fault m := by
  by_cases h : m.memory.Holds addr 2 <;> simp [fetchFrom, accessFault?, Memory.read16_eq, h]

theorem push_eq (value : UInt16) (m : Machine) :
    push value m = match m.pushFault? with
      | none => .ok () (m.pushed value)
      | some fault => .error fault m := by
  simp only [push, pushFault?, store_eq]
  split
  · rfl
  · cases m.accessFault? (m.get .sp) <;> rfl

theorem pop_eq (m : Machine) :
    pop m = match m.popFault? with
      | none => .ok m.popValue m.popped
      | some fault => .error fault m := by
  simp only [pop, popFault?, fetchFrom_eq]
  split
  · rfl
  · cases m.accessFault? (m.get .sp + 2) <;> rfl

/-- An instruction runs or faults, and changes nothing in the second case. -/
theorem execute_eq (i : Instruction) (m : Machine) :
    execute i m = match m.faultOn? i with
      | none => .ok () (m.effect i)
      | some fault => .error fault m := by
  cases i with
  | movLitReg | movRegReg | addRegReg | jmpNotEq => rfl
  | movRegMem reg addr => exact store_eq addr (m.get reg) m
  | pshLit value => exact push_eq value m
  | pshReg reg => exact push_eq (m.get reg) m
  | movMemReg addr reg =>
    simp only [execute, bind, EStateM.bind, fetchFrom_eq, faultOn?]
    cases m.accessFault? addr <;> rfl
  | pop reg =>
    simp only [execute, bind, EStateM.bind, pop_eq, faultOn?]
    cases m.popFault? <;> rfl

/-! ## What an effect leaves alone -/

/-- An effect concerns memory and registers only. -/
theorem effect_frame (m : Machine) (i : Instruction) :
    m.effect i =
      { m with memory := (m.effect i).memory, registers := (m.effect i).registers } := by
  cases i with
  | jmpNotEq value addr => simp only [effect]; split <;> rfl
  | _ => rfl

theorem cycles_effect (m : Machine) (i : Instruction) : (m.effect i).cycles = m.cycles := by
  rw [effect_frame]

theorem size_effect (m : Machine) (i : Instruction) :
    (m.effect i).memory.size = m.memory.size := by
  cases i with
  | jmpNotEq value addr => simp only [effect]; split <;> rfl
  | movRegMem | pshLit | pshReg => exact Memory.size_put16 ..
  | _ => rfl

/-! ## When there is no fault -/

theorem accessFault?_eq_none_iff {m : Machine} {addr : UInt16} :
    m.accessFault? addr = none ↔ addr.toNat + 2 ≤ m.memory.size := by
  unfold accessFault?
  split
  case isTrue h => exact iff_of_true rfl h
  case isFalse h => exact iff_of_false (by simp) h

/-- The two lower bounds of the stack are one. -/
theorem pushFault?_eq (m : Machine) :
    m.pushFault? =
      if (m.get .sp).toNat < max m.settings.stackLimit.toNat 2 then
        some (.stackOverflow (m.get .sp) m.settings.stackLimit)
      else m.accessFault? (m.get .sp) := by
  have two : (2 : UInt16).toNat = 2 := rfl
  have low : m.get .sp < 2 ∨ m.get .sp < m.settings.stackLimit ↔
      (m.get .sp).toNat < max m.settings.stackLimit.toNat 2 := by
    rw [UInt16.lt_iff_toNat_lt, UInt16.lt_iff_toNat_lt, two]
    omega
  simp only [pushFault?, low]

/-- A stack pointer that would wrap is above every top. -/
theorem popFault?_eq (m : Machine) :
    m.popFault? =
      if m.stackTop.toNat < (m.get .sp).toNat + 2 then
        some (.stackUnderflow (m.get .sp) m.stackTop)
      else m.accessFault? (m.get .sp + 2) := by
  have bound := m.stackTop.toNat_lt
  have last : (65533 : UInt16).toNat = 65533 := rfl
  have next : (m.get .sp + 2).toNat = ((m.get .sp).toNat + 2) % 65536 := UInt16.toNat_add ..
  have high : m.get .sp > 65533 ∨ m.get .sp + 2 > m.stackTop ↔
      m.stackTop.toNat < (m.get .sp).toNat + 2 := by
    rw [gt_iff_lt, gt_iff_lt, UInt16.lt_iff_toNat_lt, UInt16.lt_iff_toNat_lt, next, last]
    omega
  simp only [popFault?, high]

theorem pushFault?_eq_none_iff {m : Machine} :
    m.pushFault? = none ↔
      max m.settings.stackLimit.toNat 2 ≤ (m.get .sp).toNat ∧
        (m.get .sp).toNat + 2 ≤ m.memory.size := by
  rw [pushFault?_eq]
  split
  case isTrue low =>
    simp only [reduceCtorEq, false_iff]
    omega
  case isFalse high =>
    rw [accessFault?_eq_none_iff]
    omega

/-- What lies at or below the top of the stack is a word in memory. -/
theorem popFault?_eq_none_iff {m : Machine} (size : 2 ≤ m.memory.size)
    (top : m.stackTop.toNat = m.memory.size - 2) :
    m.popFault? = none ↔ (m.get .sp).toNat + 2 ≤ m.stackTop.toNat := by
  have bound := m.stackTop.toNat_lt
  have next : (m.get .sp + 2).toNat = ((m.get .sp).toNat + 2) % 65536 := UInt16.toNat_add ..
  rw [popFault?_eq]
  split
  case isTrue high =>
    simp only [reduceCtorEq, false_iff]
    omega
  case isFalse low =>
    rw [accessFault?_eq_none_iff, next]
    omega

end Machine

end WordMachine
