import WordMachine.Text.Case
import WordMachine.Text.Quoted
import WordMachine.Text.Split

/-!
# Registers

The machine has twelve registers in a fixed order: the instruction pointer, the accumulator, eight
general registers, the stack pointer and the frame pointer. A register is selected by its place in
that order or by its name.
-/

namespace WordMachine

inductive Register where
  | ip | acc | r1 | r2 | r3 | r4 | r5 | r6 | r7 | r8 | sp | fp
  deriving DecidableEq, Repr

inductive RegisterError where
  | unknownName (name : String)
  /-- A file of `count` registers has none at `index`. -/
  | indexOutOfRange (index : UInt8) (count : Nat)
  deriving DecidableEq, Repr

def RegisterError.message : RegisterError → String
  | .unknownName name => s!"invalid register: {Text.quoted name}"
  | .indexOutOfRange index count =>
    s!"invalid register index {index} (register file has {count})"

namespace Register

/-- Every register, in order. -/
def all : List Register := [.ip, .acc, .r1, .r2, .r3, .r4, .r5, .r6, .r7, .r8, .sp, .fp]

def count : Nat := 12

/-- The place in the order, which is also the operand byte that selects the register. -/
def index : Register → UInt8
  | .ip => 0 | .acc => 1 | .r1 => 2 | .r2 => 3 | .r3 => 4 | .r4 => 5
  | .r5 => 6 | .r6 => 7 | .r7 => 8 | .r8 => 9 | .sp => 10 | .fp => 11

/-- The place of the register's high byte in the register bank. -/
def offset (r : Register) : Nat := 2 * r.index.toNat

def name : Register → String
  | .ip => "IP" | .acc => "ACC" | .r1 => "R1" | .r2 => "R2" | .r3 => "R3" | .r4 => "R4"
  | .r5 => "R5" | .r6 => "R6" | .r7 => "R7" | .r8 => "R8" | .sp => "SP" | .fp => "FP"

def ofIndex (index : UInt8) : Except RegisterError Register :=
  match all[index.toNat]? with
  | some r => .ok r
  | none => .error (.indexOutOfRange index count)

/-- Names are read in either case and between blanks. -/
def ofName (s : String) : Except RegisterError Register :=
  let trimmed := String.ofList (Text.trim s.toList)
  match all.find? fun r => Text.sameLetters r.name trimmed with
  | some r => .ok r
  | none => .error (.unknownName s)

theorem mem_all (r : Register) : r ∈ all := by cases r <;> decide

@[simp] theorem ofIndex_index (r : Register) : ofIndex r.index = .ok r := by cases r <;> rfl

theorem index_of_ofIndex {index : UInt8} {r : Register} (h : ofIndex index = .ok r) :
    r.index = index := by
  have listed : ∀ k (hk : k < all.length), all[k].index.toNat = k := by decide
  unfold ofIndex at h
  split at h
  case h_1 r' found =>
    cases h
    obtain ⟨hk, rfl⟩ := List.getElem?_eq_some_iff.mp found
    exact UInt8.toNat.inj (listed _ hk)
  case h_2 => cases h

theorem offset_lt (r : Register) : r.offset + 1 < 2 * count := by cases r <;> decide

/-- Different registers share no byte of the bank. -/
theorem offset_inj {r s : Register} (h : r.offset = s.offset) : r = s := by
  revert h; cases r <;> cases s <;> decide

/-- Every byte of the bank belongs to a register. -/
theorem exists_offset {k : Nat} (h : k < 2 * count) :
    ∃ r : Register, k = r.offset ∨ k = r.offset + 1 := by
  have covered : ∀ k < 2 * count, ∃ r ∈ all, k = r.offset ∨ k = r.offset + 1 := by decide
  obtain ⟨r, -, place⟩ := covered k h
  exact ⟨r, place⟩

end Register

end WordMachine
