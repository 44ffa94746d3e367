import WordMachine.Word
import WordMachine.Text.Hex

/-!
# Byte-addressed memory

A memory is an array of bytes, addressed by words. A word access touches two neighbouring bytes,
the high one first. Every access checks its bounds first and reports a fault instead of wrapping;
an access that faults changes nothing.

Memories made by `Memory.ofSize` have between `Memory.minSize` and `Memory.maxSize` bytes. The type
itself bounds nothing, and every operation is defined on memories of any length.
-/

namespace WordMachine

/-- Why a memory operation failed. -/
inductive MemoryError where
  /-- A byte of the access lies outside a memory of `size` bytes. -/
  | outOfBounds (addr : UInt16) (width size : Nat)
  /-- The address after the access is no address. -/
  | addressOverflow (addr : UInt16) (width : Nat)
  | invalidSize (size : Nat)
  | programTooLarge (size available : Nat)
  deriving DecidableEq, Repr

def MemoryError.message : MemoryError → String
  | .outOfBounds addr width size =>
    s!"memory fault: {width}-byte access at 0x{Text.Hex.word addr} outside 0..0x" ++
      Text.Hex.number size
  | .addressOverflow addr width =>
    s!"{width}-byte access at 0x{Text.Hex.word addr} runs past the end of the address space"
  | .invalidSize size => s!"invalid memory size {size} (expected 2..=65536 bytes)"
  | .programTooLarge size available =>
    s!"program size {size} exceeds available space {available}"

structure Memory where
  bytes : Array UInt8
  deriving DecidableEq

namespace Memory

/-- The size of the whole address space. -/
def maxSize : Nat := 65536

/-- Room for one word. -/
def minSize : Nat := 2

def size (m : Memory) : Nat := m.bytes.size

def isEmpty (m : Memory) : Bool := m.bytes.isEmpty

/-- `n` zero bytes, for any `n`. -/
def zeros (n : Nat) : Memory := ⟨Array.replicate n 0⟩

/-- The whole address space, zeroed. -/
def full : Memory := zeros maxSize

/-- A zeroed memory whose size an address can cover. -/
def ofSize (n : Nat) : Except MemoryError Memory :=
  if minSize ≤ n ∧ n ≤ maxSize then .ok (zeros n) else .error (.invalidSize n)

/-- Whether the `width` bytes from `addr` on lie inside memory. -/
def Holds (m : Memory) (addr : UInt16) (width : Nat) : Prop := addr.toNat + width ≤ m.size

instance (m : Memory) (addr : UInt16) (width : Nat) : Decidable (m.Holds addr width) :=
  inferInstanceAs (Decidable (_ ≤ _))

/-- The fault of an access that does not lie inside memory. -/
def fault (m : Memory) (addr : UInt16) (width : Nat) : MemoryError :=
  .outOfBounds addr width m.size

def read8 (m : Memory) (addr : UInt16) : Except MemoryError UInt8 :=
  match m.bytes[addr.toNat]? with
  | some byte => .ok byte
  | none => .error (m.fault addr 1)

def read16 (m : Memory) (addr : UInt16) : Except MemoryError UInt16 :=
  match m.bytes[addr.toNat]?, m.bytes[addr.toNat + 1]? with
  | some hi, some lo => .ok (Word.ofBytes hi lo)
  | _, _ => .error (m.fault addr 2)

/-- Stores a byte; outside memory nothing changes. -/
def put8 (m : Memory) (addr : UInt16) (value : UInt8) : Memory :=
  ⟨m.bytes.setIfInBounds addr.toNat value⟩

/-- Stores the two bytes of a word; a byte outside memory is lost. -/
def put16 (m : Memory) (addr value : UInt16) : Memory :=
  ⟨(m.bytes.setIfInBounds addr.toNat (Word.high value)).setIfInBounds (addr.toNat + 1)
    (Word.low value)⟩

def write8 (m : Memory) (addr : UInt16) (value : UInt8) : Except MemoryError Memory :=
  if m.Holds addr 1 then .ok (m.put8 addr value) else .error (m.fault addr 1)

def write16 (m : Memory) (addr value : UInt16) : Except MemoryError Memory :=
  if m.Holds addr 2 then .ok (m.put16 addr value) else .error (m.fault addr 2)

/-- The `count` bytes from `addr` on. -/
def window (m : Memory) (addr : UInt16) (count : Nat) : Except MemoryError Bytes :=
  if m.Holds addr count then .ok (m.bytes.extract addr.toNat (addr.toNat + count)).toList
  else .error (m.fault addr count)

/-- The address after an access of `width` bytes at `addr`. Addresses do not wrap, so that
sequential reads end at the top of the address space. -/
def addressAfter (addr : UInt16) (width : Nat) : Except MemoryError UInt16 :=
  let sum := addr.toNat + width
  if sum ≤ 0xFFFF then .ok (UInt16.ofNat sum) else .error (.addressOverflow addr width)

/-- How asking for the address after an access ends. -/
inductive Advance where
  | reached (next : UInt16)
  | refused (error : MemoryError)
  /-- The sum of address and width is no 64-bit number: the run is aborted. -/
  | aborted
  deriving DecidableEq, Repr

/-- The address after an access of any 64-bit width. Only widths close to the largest one abort the
run; a byte or a word is passed by `addressAfter` alone. -/
def nextAddress (addr : UInt16) (width : UInt64) : Advance :=
  if addr.toNat + width.toNat < UInt64.size then
    match addressAfter addr width.toNat with
    | .ok next => .reached next
    | .error e => .refused e
  else .aborted

/-- Replaces the bytes from `start` on by `program`. -/
def put (m : Memory) (start : Nat) (program : Bytes) : Memory :=
  ⟨m.bytes.extract 0 start ++ program.toArray ++
    m.bytes.extract (start + program.length) m.bytes.size⟩

/-- How placing a program ends. -/
inductive Placement where
  | placed (memory : Memory)
  | refused (error : MemoryError)
  /-- An empty program starts beyond the end of memory. It fits into the no bytes that are left
  there, but no stretch of memory begins at its start: the run is aborted. -/
  | aborted
  deriving DecidableEq

/-- Places a program at `start`, all of it or nothing. -/
def load (m : Memory) (start : UInt16) (program : Bytes) : Placement :=
  let available := m.size - start.toNat
  if program.length > available then .refused (.programTooLarge program.length available)
  else if start.toNat > m.size then .aborted
  else .placed (m.put start.toNat program)

/-- Places a program at address 0. -/
def install (m : Memory) (program : Bytes) : Except MemoryError Memory :=
  if program.length > m.size then .error (.programTooLarge program.length m.size)
  else .ok (m.put 0 program)

def clear (m : Memory) : Memory := zeros m.size

/-- One line of text that tells how much of a memory is in use. -/
def summary (m : Memory) : String :=
  let used := m.bytes.foldl (fun n byte => if byte = 0 then n else n + 1) 0
  s!"Memory \x7b non_zero_bytes: {used}, size: {m.size} \x7d"

/-! ## Reads and writes -/

theorem read8_eq_ok {m : Memory} {addr : UInt16} (inside : addr.toNat < m.bytes.size) :
    m.read8 addr = .ok m.bytes[addr.toNat] := by
  simp only [read8, Array.getElem?_eq_getElem inside]

theorem read8_eq_error {m : Memory} {addr : UInt16} (fails : ¬ m.Holds addr 1) :
    m.read8 addr = .error (m.fault addr 1) := by
  simp only [read8, Array.getElem?_eq_none (Nat.not_lt.mp fails)]

theorem read16_eq_ok {m : Memory} {addr : UInt16} (last : addr.toNat + 1 < m.bytes.size) :
    m.read16 addr = .ok (Word.ofBytes m.bytes[addr.toNat] m.bytes[addr.toNat + 1]) := by
  simp only [read16, Array.getElem?_eq_getElem (Nat.lt_of_succ_lt last),
    Array.getElem?_eq_getElem last]

theorem read16_eq_error {m : Memory} {addr : UInt16} (fails : ¬ m.Holds addr 2) :
    m.read16 addr = .error (m.fault addr 2) := by
  have outside : ¬ addr.toNat + 1 < m.bytes.size := fails
  simp [read16, outside]

@[simp] theorem read8_put8_self {m : Memory} {addr : UInt16} (holds : m.Holds addr 1)
    (value : UInt8) : (m.put8 addr value).read8 addr = .ok value := by
  have inside : addr.toNat < m.bytes.size := holds
  simp [read8, put8, inside]

/-- A word reads back as it was stored. -/
@[simp] theorem read16_put16_self {m : Memory} {addr : UInt16} (holds : m.Holds addr 2)
    (value : UInt16) : (m.put16 addr value).read16 addr = .ok value := by
  have last : addr.toNat + 1 < m.bytes.size := holds
  have first : addr.toNat < m.bytes.size := Nat.lt_of_succ_lt last
  simp [read16, put16, first, last]

/-! ## Sizes -/

@[simp] theorem size_zeros (n : Nat) : (zeros n).size = n := by simp [zeros, size]

@[simp] theorem size_put8 (m : Memory) (addr : UInt16) (value : UInt8) :
    (m.put8 addr value).size = m.size := by simp [put8, size]

@[simp] theorem size_put16 (m : Memory) (addr value : UInt16) :
    (m.put16 addr value).size = m.size := by simp [put16, size]

@[simp] theorem size_clear (m : Memory) : m.clear.size = m.size := size_zeros _

/-- Placing a program that fits keeps the size. -/
theorem size_put {m : Memory} {start : Nat} {program : Bytes}
    (fits : start + program.length ≤ m.size) : (m.put start program).size = m.size := by
  simp only [size] at fits
  simp only [put, size, Array.size_append, Array.size_extract, List.size_toArray]
  omega

/-- A program starting at address 0 is never placed outside memory. -/
@[simp] theorem load_zero (m : Memory) (program : Bytes) :
    m.load 0 program = match m.install program with
      | .ok m => .placed m
      | .error e => .refused e := by
  unfold load install
  by_cases h : program.length > m.size <;> simp [h]

end Memory

end WordMachine
