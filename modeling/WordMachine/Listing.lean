import WordMachine.Instruction.Reader
import WordMachine.Text.Column

/-!
# Listings

A listing shows a memory line by line. A line holds one instruction, or one byte of data where no
instruction can be read; the next line begins where it ends.
-/

namespace WordMachine

structure Line where
  addr : UInt16
  bytes : Bytes
  /-- The instruction, unless the line is data. -/
  instruction : Option Instruction
  deriving DecidableEq, Repr

namespace Line

/-- The instruction or data of a line, without address and bytes. -/
def text (l : Line) : String :=
  match l.instruction with
  | some i => i.text
  | none => s!"DB ${Text.Hex.byte (l.bytes.headD 0)}"

/-- A line with address and bytes; the longest encoding sets the width of the byte column. -/
def display (l : Line) : String :=
  s!"{Text.Hex.word l.addr}: {Text.padRight 15 (Text.Hex.spaced l.bytes)} {l.text}"

end Line

namespace Memory

/-- The line that begins at `addr`. Outside memory it shows no byte. -/
def lineAt (m : Memory) (addr : UInt16) : Line :=
  match m.instructionAt addr with
  | .ok i => ⟨addr, (m.window addr i.size).toOption.getD [], some i⟩
  | .error _ => ⟨addr, (m.read8 addr).toOption.toList, none⟩

/-- Appends up to `count` lines from `position` on. An address takes the low sixteen bits of its
position, which can be more only in a memory beyond the address space. -/
def sweepFrom (m : Memory) : (count position : Nat) → Array Line → Array Line
  | 0, _, lines => lines
  | count + 1, position, lines =>
    if position < m.size then
      let line := m.lineAt (UInt16.ofNat position)
      m.sweepFrom count (position + max line.bytes.length 1) (lines.push line)
    else lines

/-- The first `count` lines from `start` on, or fewer at the end of memory. -/
def sweep (m : Memory) (start : UInt16) (count : Nat) : List Line :=
  (m.sweepFrom count start.toNat #[]).toList

end Memory

/-- The lines of a program image. The image is read in a memory of its own size, but for the two
bytes that a memory has at least. -/
def programLines (program : Bytes) : Except DecodeError (List Line) := do
  let size := program.length
  if size > Memory.maxSize then
    throw (.memoryFault (.programTooLarge size Memory.maxSize))
  let place : Except MemoryError Memory := do
    (← Memory.ofSize (max size Memory.minSize)).install program
  let memory ← place.mapError .memoryFault
  return (memory.sweep 0 size).takeWhile fun line => line.addr.toNat < size

def listingHeader : String := "; vm16 disassembly\n; -----------------\n\n"

/-- The listing of a program image. -/
def listing (program : Bytes) : Except DecodeError String := do
  let lines ← programLines program
  return listingHeader ++ Text.unlines (lines.map Line.display)

end WordMachine
