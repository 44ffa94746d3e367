import WordMachine.Memory
import WordMachine.Register.Bank

/-!
# Readouts

Registers and stretches of memory on one line of text.
-/

namespace WordMachine

def RegisterBank.readout (b : RegisterBank) : String :=
  ", ".intercalate (b.toList.map fun (r, value) => s!"{r.name}: 0x{Text.Hex.word value}")

namespace Memory

/-- The number of bytes that a readout shows if nothing else is asked. -/
def readoutWidth : Nat := 8

/-- Up to `count` bytes from `addr` on; at the end of memory fewer, but not none. -/
def readout (m : Memory) (addr : UInt16) (count : Nat) : Except MemoryError String := do
  let available := m.size - addr.toNat
  if available = 0 then throw (m.fault addr count)
  let bytes ← m.window addr (min count available)
  let cells := " | ".intercalate (bytes.map fun byte => s!"0x{Text.Hex.byte byte}")
  return s!"0x{Text.Hex.word addr} ⇥ {cells} ⇤"

end Memory

end WordMachine
