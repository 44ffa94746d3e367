import WordMachine.Instruction

/-!
# Assembling programs

A program is laid out from address 0 on, one instruction or one stretch of raw bytes after the
other.
-/

namespace WordMachine

structure Assembly where
  image : Array UInt8
  deriving DecidableEq

namespace Assembly

def empty : Assembly := ⟨#[]⟩

/-- Appends bytes that need not be an instruction. -/
def raw (a : Assembly) (bytes : Bytes) : Assembly := ⟨a.image ++ bytes⟩

def push (a : Assembly) (i : Instruction) : Assembly := a.raw i.encode

def ofList (code : List Instruction) : Assembly := code.foldl push empty

def size (a : Assembly) : Nat := a.image.size

/-- The address at which the next byte will lie, while there is such an address. -/
def here? (a : Assembly) : Option UInt16 :=
  if a.size ≤ 65535 then some (UInt16.ofNat a.size) else none

def toBytes (a : Assembly) : Bytes := a.image.toList

@[simp] theorem toBytes_empty : empty.toBytes = [] := rfl

@[simp] theorem toBytes_raw (a : Assembly) (bytes : Bytes) :
    (a.raw bytes).toBytes = a.toBytes ++ bytes := by
  simp [toBytes, raw]

@[simp] theorem toBytes_push (a : Assembly) (i : Instruction) :
    (a.push i).toBytes = a.toBytes ++ i.encode := toBytes_raw ..

@[simp] theorem toBytes_ofList (code : List Instruction) :
    (ofList code).toBytes = code.flatMap Instruction.encode := by
  have general : ∀ a : Assembly,
      (code.foldl push a).toBytes = a.toBytes ++ code.flatMap Instruction.encode := by
    induction code with
    | nil => simp
    | cons i code ih => intro a; simp [ih]
  simpa [ofList] using general empty

end Assembly

end WordMachine
