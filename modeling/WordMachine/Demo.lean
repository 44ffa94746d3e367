import WordMachine.Assembly
import WordMachine.Memory

/-!
# Demonstration programs

Three small programs with the memory they need and the number of steps that runs them to their end.
-/

namespace WordMachine

structure Demo where
  name : String
  about : String
  memorySize : Nat
  steps : Nat
  code : List Instruction

namespace Demo

def program (d : Demo) : Bytes := (Assembly.ofList d.code).toBytes

/-- A fresh memory with the program at address 0. -/
def memory (d : Demo) : Except MemoryError Memory := do
  (← Memory.ofSize d.memorySize).install d.program

/-- Leaves `0xBE01` in the accumulator. -/
def add : Demo where
  name := "add"
  about := "add two literals into ACC"
  memorySize := 256
  steps := 3
  code :=
    [.movLitReg 0x1234 .r1,
     .movLitReg 0xABCD .r2,
     .addRegReg .r1 .r2]

/-- The word that the counting loop counts up. -/
def counter : UInt16 := 0x0100

def countingLoop : Demo where
  name := "loop"
  about := "count the word at 0x0100 up to 3"
  memorySize := 65536
  steps := 15
  code :=
    [.movMemReg counter .r1,
     .movLitReg 1 .r2,
     .addRegReg .r1 .r2,
     .movRegMem .acc counter,
     .jmpNotEq 3 0]

def stack : Demo where
  name := "stack"
  about := "push two registers, pop them swapped"
  memorySize := 65536
  steps := 6
  code :=
    [.movLitReg 0x5151 .r1,
     .movLitReg 0x4242 .r2,
     .pshReg .r1,
     .pshReg .r2,
     .pop .r1,
     .pop .r2]

def all : List Demo := [add, countingLoop, stack]

/-- Names are read in either case. -/
def ofName? (name : String) : Option Demo := all.find? fun d => Text.sameLetters d.name name

end Demo

end WordMachine
