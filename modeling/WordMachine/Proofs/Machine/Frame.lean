import Mathlib.Logic.Function.Iterate
import WordMachine.Proofs.Machine.Step

/-!
# What a step leaves alone

No step changes the settings, the top of the stack or the size of memory. The stack pointer and the
instruction pointer are moved by instructions that do not name them; all others leave the two alone
unless one of them is their destination.
-/

namespace WordMachine

namespace Instruction

/-- The register that takes the result of an instruction. -/
def destination? : Instruction → Option Register
  | .movLitReg _ reg | .movMemReg _ reg | .pop reg => some reg
  | .movRegReg _ target => some target
  | .addRegReg .. => some .acc
  | .movRegMem .. | .jmpNotEq .. | .pshLit _ | .pshReg _ => none

def isPush : Instruction → Bool
  | .pshLit _ | .pshReg _ => true
  | _ => false

def isPop : Instruction → Bool
  | .pop _ => true
  | _ => false

theorem isPop_of_isPush {i : Instruction} (h : i.isPush) : i.isPop = false := by
  cases i with
  | pop => exact absurd h Bool.false_ne_true
  | _ => rfl

/-- The instruction sets the instruction pointer: it is a jump that is taken, or the pointer is its
destination. -/
def Redirects (m : Machine) : Instruction → Prop
  | .jmpNotEq value _ => value ≠ m.get .acc
  | i => i.destination? = some .ip

end Instruction

namespace Machine

/-! ## Settings and sizes -/

/-- Two machines that differ in no more than contents of registers and memory, state and counts. -/
structure SameFrame (m n : Machine) : Prop where
  settings : n.settings = m.settings
  stackTop : n.stackTop = m.stackTop
  size : n.memory.size = m.memory.size

theorem SameFrame.refl (m : Machine) : SameFrame m m := ⟨rfl, rfl, rfl⟩

theorem SameFrame.trans {m n k : Machine} (h : SameFrame m n) (g : SameFrame n k) :
    SameFrame m k :=
  ⟨g.settings.trans h.settings, g.stackTop.trans h.stackTop, g.size.trans h.size⟩

theorem sameFrame_effect (m : Machine) (i : Instruction) : SameFrame m (m.effect i) := by
  refine ⟨?_, ?_, size_effect m i⟩ <;> rw [effect_frame]

theorem sameFrame_step (m : Machine) : SameFrame m m.step.machine := by
  cases state : m.state with
  | faulted =>
    rw [step_of_faulted state]
    exact .refl m
  | running =>
    rcases step_cases state with ⟨i, -, -, steps⟩ | ⟨byte, -, -, steps⟩ | ⟨fault, steps⟩
    · obtain ⟨settings, stackTop, size⟩ := sameFrame_effect (m.past i.size) i
      rw [steps]
      exact ⟨settings, stackTop, size⟩
    · rw [steps]
      exact ⟨rfl, rfl, rfl⟩
    · rw [steps]
      exact ⟨rfl, rfl, rfl⟩

/-- The machine after `n` steps. Once it has faulted it stays as it is. -/
def afterSteps (m : Machine) (n : Nat) : Machine := (fun m => m.step.machine)^[n] m

theorem afterSteps_succ (m : Machine) (n : Nat) :
    m.afterSteps (n + 1) = (m.afterSteps n).step.machine :=
  Function.iterate_succ_apply' ..

theorem sameFrame_afterSteps (m : Machine) (n : Nat) : SameFrame m (m.afterSteps n) := by
  induction n with
  | zero => exact .refl m
  | succ n ih =>
    rw [afterSteps_succ]
    exact ih.trans (sameFrame_step _)

/-! ## The stack pointer and the instruction pointer -/

theorem get_past_of_ne (m : Machine) (n : Nat) {r : Register} (h : r ≠ .ip) :
    (m.past n).get r = m.get r := get_set_of_ne _ h.symm _

theorem get_set_of_destination {r s : Register} (other : some r ≠ some s) (m : Machine)
    (value : UInt16) : (m.set r value).get s = m.get s :=
  get_set_of_ne m (fun same => other (congrArg some same)) value

theorem get_sp_effect {m : Machine} {i : Instruction} (other : i.destination? ≠ some .sp) :
    (m.effect i).get .sp =
      if i.isPush then m.get .sp - 2 else if i.isPop then m.get .sp + 2 else m.get .sp := by
  cases i with
  | movLitReg value reg => exact get_set_of_destination other ..
  | movRegReg source target => exact get_set_of_destination other ..
  | movRegMem reg addr => rfl
  | movMemReg addr reg => exact get_set_of_destination other ..
  | addRegReg left right => exact get_set_of_ne _ (by decide) _
  | jmpNotEq value addr =>
    simp only [effect]
    split
    · rfl
    · exact get_set_of_ne _ (by decide) _
  | pshLit value => exact get_set_self ..
  | pshReg reg => exact get_set_self ..
  | pop reg =>
    exact (get_set_of_destination other ..).trans (get_set_self ..)

theorem get_ip_effect {m : Machine} {i : Instruction} (straight : ¬ i.Redirects m) :
    (m.effect i).get .ip = m.get .ip := by
  cases i with
  | movLitReg value reg => exact get_set_of_destination straight ..
  | movRegReg source target => exact get_set_of_destination straight ..
  | movRegMem reg addr => rfl
  | movMemReg addr reg => exact get_set_of_destination straight ..
  | addRegReg left right => exact get_set_of_ne _ (by decide) _
  | jmpNotEq value addr =>
    have kept : value = m.get .acc := not_not.mp straight
    simp only [effect, if_pos kept]
  | pshLit value => exact get_set_of_ne _ (by decide) _
  | pshReg reg => exact get_set_of_ne _ (by decide) _
  | pop reg =>
    exact (get_set_of_destination straight ..).trans (get_set_of_ne _ (by decide) _)

/-- Whether an instruction sets the instruction pointer does not depend on where it stands. -/
theorem redirects_past {m : Machine} {i : Instruction} (n : Nat) :
    i.Redirects (m.past n) ↔ i.Redirects m := by
  cases i with
  | jmpNotEq value addr =>
    simp only [Instruction.Redirects, get_past_of_ne m n (r := .acc) (by decide)]
  | _ => exact Iff.rfl

end Machine

end WordMachine
