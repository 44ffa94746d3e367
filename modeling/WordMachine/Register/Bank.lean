import WordMachine.Register
import WordMachine.Text.Hex
import WordMachine.Word

/-!
# The register bank

The values of the twelve registers are kept in twenty-four bytes, each register in two
neighbouring ones with the high byte first. The bank is no part of memory.
-/

namespace WordMachine

structure RegisterBank where
  slots : Vector UInt8 (2 * Register.count)
  deriving DecidableEq

namespace RegisterBank

/-- Every register holds zero. -/
def zero : RegisterBank := ⟨Vector.replicate _ 0⟩

def get (b : RegisterBank) (r : Register) : UInt16 :=
  haveI := r.offset_lt
  Word.ofBytes b.slots[r.offset] b.slots[r.offset + 1]

def set (b : RegisterBank) (r : Register) (value : UInt16) : RegisterBank :=
  haveI := r.offset_lt
  ⟨(b.slots.set r.offset (Word.high value)).set (r.offset + 1) (Word.low value)⟩

def getByName (b : RegisterBank) (name : String) : Except RegisterError UInt16 :=
  (Register.ofName name).map b.get

def setByName (b : RegisterBank) (name : String) (value : UInt16) :
    Except RegisterError RegisterBank :=
  (Register.ofName name).map (b.set · value)

def getByIndex (b : RegisterBank) (index : UInt8) : Except RegisterError UInt16 :=
  (Register.ofIndex index).map b.get

def setByIndex (b : RegisterBank) (index : UInt8) (value : UInt16) :
    Except RegisterError RegisterBank :=
  (Register.ofIndex index).map (b.set · value)

/-- Every register with its value, in order. -/
def toList (b : RegisterBank) : List (Register × UInt16) :=
  Register.all.map fun r => (r, b.get r)

/-- The stored bytes. -/
def bytes (b : RegisterBank) : Bytes := b.slots.toList

/-- One line of text with every register. -/
def summary (b : RegisterBank) : String :=
  let entries := b.toList.map fun (r, value) => s!"{Text.quoted r.name}: 0x{Text.Hex.word value}"
  "\x7b" ++ ", ".intercalate entries ++ "\x7d"

@[simp] theorem get_zero (r : Register) : zero.get r = 0 := by
  simp [get, zero, Word.ofBytes]

@[simp] theorem get_set_self (b : RegisterBank) (r : Register) (value : UInt16) :
    (b.set r value).get r = value := by
  simp [get, set]

theorem get_set_of_ne (b : RegisterBank) {r s : Register} (h : r ≠ s) (value : UInt16) :
    (b.set r value).get s = b.get s := by
  have separate : r.offset ≠ s.offset := fun e => h (Register.offset_inj e)
  have hr : r.offset = 2 * r.index.toNat := rfl
  have hs : s.offset = 2 * s.index.toNat := rfl
  simp only [get, set]
  congr 1 <;> rw [Vector.getElem_set_ne _ _ (by omega), Vector.getElem_set_ne _ _ (by omega)]

/-- The twelve values determine every stored byte. -/
@[ext] theorem ext {b c : RegisterBank} (h : ∀ r, b.get r = c.get r) : b = c := by
  have bytes : ∀ (r : Register) (low : r.offset + 1 < 2 * Register.count),
      b.slots[r.offset] = c.slots[r.offset] ∧ b.slots[r.offset + 1] = c.slots[r.offset + 1] :=
    fun r _ => by simpa [get] using Word.ofBytes_eq_iff.mp (h r)
  obtain ⟨slots⟩ := b
  obtain ⟨slots'⟩ := c
  congr 1
  refine Vector.ext fun k hk => ?_
  obtain ⟨r, rfl | rfl⟩ := Register.exists_offset hk
  · exact (bytes r r.offset_lt).1
  · exact (bytes r r.offset_lt).2

@[simp] theorem set_get_self (b : RegisterBank) (r : Register) : b.set r (b.get r) = b := by
  refine ext fun s => ?_
  by_cases h : r = s
  · subst h; simp
  · exact get_set_of_ne b h _

@[simp] theorem set_set (b : RegisterBank) (r : Register) (first second : UInt16) :
    (b.set r first).set r second = b.set r second := by
  refine ext fun s => ?_
  by_cases h : r = s
  · subst h; simp
  · simp only [get_set_of_ne _ h]

end RegisterBank

end WordMachine
