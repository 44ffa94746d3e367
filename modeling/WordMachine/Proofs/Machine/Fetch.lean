import WordMachine.Proofs.Instruction.Encoding
import WordMachine.Proofs.Machine.Effect

/-!
# Fetching is reading at a cursor

A machine fetches at its instruction pointer what a cursor reads there, fails where it fails, and
moves the pointer as far as the cursor moves. The relation is closed under sequencing, so it passes
from bytes and words to whole instructions. A step is then described by what is decoded at the
instruction pointer.
-/

namespace WordMachine.Machine

variable {α β : Type}

/-- The cursor at the instruction pointer. -/
def cursor (m : Machine) : Cursor := ⟨m.memory, m.get .ip⟩

/-- The end of a reading, for a machine that did the reading: its instruction pointer is where the
cursor is, and all else is as before. -/
def follow (m : Machine) : EStateM.Result DecodeError Cursor α → EStateM.Result Fault Machine α
  | .ok a c => .ok a (m.set .ip c.position)
  | .error e c => .error (.ofDecode e) (m.set .ip c.position)

/-- The action does at the instruction pointer what the operand reader does at a cursor. -/
structure Fetches (action : Action α) (reader : Cursor.Read α) : Prop where
  follows : ∀ m, action m = m.follow (reader m.cursor)
  memory : ∀ c a d, reader c = .ok a d → d.memory = c.memory
  /-- Operands are not looked up among the opcodes. -/
  operand : ∀ c d byte, reader c ≠ .error (.invalidOpcode byte) d

@[simp] theorem follow_set (m : Machine) (addr : UInt16)
    (r : EStateM.Result DecodeError Cursor α) : (m.set .ip addr).follow r = m.follow r := by
  cases r <;> simp [follow]

theorem cursor_set {m : Machine} {c : Cursor} (h : c.memory = m.memory) :
    (m.set .ip c.position).cursor = c := by
  simp [cursor, ← h]

namespace Fetches

theorem pure (a : α) : Fetches (Pure.pure a) (Pure.pure a) where
  follows m := by simp [Pure.pure, EStateM.pure, follow, cursor]
  memory c b d h := by cases h; rfl
  operand c d byte h := by cases h

theorem throw {e : DecodeError} (h : ∀ byte, e ≠ .invalidOpcode byte) :
    Fetches (throw (.ofDecode e) : Action α) (throw e) where
  follows m := by
    have stays : m.follow (.error e m.cursor : EStateM.Result DecodeError Cursor α) =
        .error (.ofDecode e) m := by simp [follow, cursor]
    exact stays.symm
  memory c b d h := by cases h
  operand c d byte he := by cases he; exact h byte rfl

theorem bind {action : Action α} {reader : Cursor.Read α} {next : α → Action β}
    {next' : α → Cursor.Read β} (h : Fetches action reader)
    (g : ∀ a, Fetches (next a) (next' a)) : Fetches (action >>= next) (reader >>= next') where
  follows m := by
    simp only [Bind.bind, EStateM.bind, h.follows m]
    cases read : reader m.cursor with
    | error => rfl
    | ok a c =>
      simp only [follow]
      rw [(g a).follows, cursor_set (h.memory _ _ _ read), follow_set]
      rfl
  memory c b d hb := by
    obtain ⟨a, e, ha, hb⟩ := Cursor.bind_eq_ok_iff.mp hb
    exact ((g a).memory _ _ _ hb).trans (h.memory _ _ _ ha)
  operand c d byte he := by
    simp only [Bind.bind, EStateM.bind] at he
    cases read : reader c with
    | error e' d' =>
      simp only [read] at he
      cases he
      exact h.operand c d byte read
    | ok a e =>
      simp only [read] at he
      exact (g a).operand e d byte he

theorem nextByte : Fetches fetch Cursor.nextByte where
  follows m := by
    simp only [fetch, Cursor.nextByte, cursor]
    cases m.memory.read8 (m.get .ip) with
    | error => simp [follow, Fault.ofDecode]
    | ok => cases Memory.addressAfter (m.get .ip) 1 <;> simp [follow, Fault.ofDecode]
  memory _ _ _ := Cursor.reads_nextByte.memory
  operand c d byte h := by
    simp only [Cursor.nextByte] at h
    split at h
    · cases h
    · split at h <;> cases h

theorem nextWord : Fetches fetch16 Cursor.nextWord where
  follows m := by
    simp only [fetch16, Cursor.nextWord, cursor]
    cases m.memory.read16 (m.get .ip) with
    | error => simp [follow, Fault.ofDecode]
    | ok => cases Memory.addressAfter (m.get .ip) 2 <;> simp [follow, Fault.ofDecode]
  memory _ _ _ := Cursor.reads_nextWord.memory
  operand c d byte h := by
    simp only [Cursor.nextWord] at h
    split at h
    · cases h
    · split at h <;> cases h

theorem nextRegister : Fetches fetchRegister Cursor.nextRegister := by
  refine nextByte.bind fun index => ?_
  cases Register.ofIndex index with
  | ok reg => exact .pure reg
  | error e => exact .throw (e := .invalidRegister e) fun _ => nofun

/-- Every instruction's operands are fetched as they are read. -/
theorem read (op : Opcode) : Fetches (Instruction.read op) (Instruction.read op) := by
  cases op with
  | movLitReg => exact nextWord.bind fun _ => nextRegister.bind fun _ => .pure _
  | movRegReg => exact nextRegister.bind fun _ => nextRegister.bind fun _ => .pure _
  | movRegMem => exact nextRegister.bind fun _ => nextWord.bind fun _ => .pure _
  | movMemReg => exact nextWord.bind fun _ => nextRegister.bind fun _ => .pure _
  | addRegReg => exact nextRegister.bind fun _ => nextRegister.bind fun _ => .pure _
  | jmpNotEq => exact nextWord.bind fun _ => nextWord.bind fun _ => .pure _
  | pshLit => exact nextWord.bind fun _ => .pure _
  | pshReg => exact nextRegister.bind fun _ => .pure _
  | pop => exact nextRegister.bind fun _ => .pure _

end Fetches

end WordMachine.Machine
