import WordMachine.Proofs.Machine.Drive
import WordMachine.Proofs.Machine.Stack

/-!
# The stack pointer of a program

As long as no instruction names the stack pointer as its destination, only pushes and pops move it.
From a reset on it then tells by how much the pushes outnumber the pops, however the program
rewrites itself, and it stays where every push and pop finds its word in memory.
-/

namespace WordMachine

namespace Machine

/-- The instruction that the next step runs, if it runs one, as its event reports it. -/
def instructionRun (m : Machine) : List Instruction :=
  (m.step.event.bind Event.instruction?).toList

/-- The stack pointer is where so many pushes and pops take it from the top of the stack. -/
structure StackBalanced (start m : Machine) (pushes pops : Nat) : Prop where
  frame : SameFrame start m
  le : pops ≤ pushes
  pointer : (m.get .sp).toNat + 2 * (pushes - pops) = start.stackTop.toNat
  /-- The last word on the stack has been pushed at or above the floor. -/
  floor : pops < pushes → start.stackFloor ≤ (m.get .sp).toNat + 2

theorem faultOn?_of_isPush {i : Instruction} (m : Machine) (h : i.isPush) :
    m.faultOn? i = m.pushFault? := by
  cases i with
  | pshLit | pshReg => rfl
  | _ => exact absurd h Bool.false_ne_true

theorem faultOn?_of_isPop {i : Instruction} (m : Machine) (h : i.isPop) :
    m.faultOn? i = m.popFault? := by
  cases i with
  | pop => rfl
  | _ => exact absurd h Bool.false_ne_true

namespace StackBalanced

variable {start m : Machine} {pushes pops : Nat} {i : Instruction}

theorem sp_le (h : StackBalanced start m pushes pops) :
    (m.get .sp).toNat ≤ start.stackTop.toNat := by
  have pointer := h.pointer
  omega

theorem of_sp_eq (h : StackBalanced start m pushes pops) {n : Machine} (frame : SameFrame m n)
    (sp : n.get .sp = m.get .sp) : StackBalanced start n pushes pops :=
  ⟨h.frame.trans frame, h.le, sp ▸ h.pointer, sp ▸ h.floor⟩

theorem pushFault?_eq (h : StackBalanced start m pushes pops) (root : start.Rooted) :
    m.pushFault? =
      if (m.get .sp).toNat < start.stackFloor then
        some (.stackOverflow (m.get .sp) start.settings.stackLimit)
      else none := by
  have inside : (m.get .sp).toNat ≤ m.stackTop.toNat := h.frame.stackTop ▸ h.sp_le
  rw [pushFault?_of_rooted (h.frame.rooted root) inside, h.frame.stackFloor, h.frame.settings]

theorem popFault?_eq (h : StackBalanced start m pushes pops) (root : start.Rooted) :
    m.popFault? =
      if start.stackTop.toNat < (m.get .sp).toNat + 2 then
        some (.stackUnderflow (m.get .sp) start.stackTop)
      else none := by
  rw [popFault?_of_rooted (h.frame.rooted root), h.frame.stackTop]

theorem pushed (h : StackBalanced start m pushes pops) (root : start.Rooted)
    (room : m.pushFault? = none) {n : Machine} (frame : SameFrame m n)
    (sp : n.get .sp = m.get .sp - 2) : StackBalanced start n (pushes + 1) pops := by
  have le := h.le
  have pointer := h.pointer
  rw [h.pushFault?_eq root] at room
  have above : start.stackFloor ≤ (m.get .sp).toNat := by simpa using room
  have two : 2 ≤ (m.get .sp).toNat := Nat.le_trans (Nat.le_max_right ..) above
  have moved : (n.get .sp).toNat = (m.get .sp).toNat - 2 := by rw [sp, Word.toNat_sub_two two]
  exact ⟨h.frame.trans frame, by omega, by omega, fun _ => by omega⟩

theorem popped (h : StackBalanced start m pushes pops) (root : start.Rooted)
    (held : m.popFault? = none) {n : Machine} (frame : SameFrame m n)
    (sp : n.get .sp = m.get .sp + 2) : StackBalanced start n pushes (pops + 1) := by
  have le := h.le
  have pointer := h.pointer
  have bound := start.stackTop.toNat_lt
  rw [h.popFault?_eq root] at held
  -- So the pointer is not at the top, and some push is not yet popped.
  have below : (m.get .sp).toNat + 2 ≤ start.stackTop.toNat := by simpa using held
  have moved : (n.get .sp).toNat = (m.get .sp).toNat + 2 := by
    rw [sp, Word.toNat_add_two (by omega)]
  refine ⟨h.frame.trans frame, by omega, by omega, fun more => ?_⟩
  have floor := h.floor (by omega)
  omega

/-- An instruction that runs without naming the stack pointer keeps the balance. -/
theorem effect (h : StackBalanced start m pushes pops) (root : start.Rooted)
    (runs : m.faultOn? i = none) (other : i.destination? ≠ some .sp) :
    StackBalanced start (m.effect i) (pushes + [i].countP Instruction.isPush)
      (pops + [i].countP Instruction.isPop) := by
  have frame := sameFrame_effect m i
  have sp := get_sp_effect (m := m) other
  rw [List.countP_singleton, List.countP_singleton]
  cases push : i.isPush with
  | true =>
    rw [faultOn?_of_isPush m push] at runs
    rw [push, if_pos rfl] at sp
    rw [Instruction.isPop_of_isPush push]
    exact h.pushed root runs frame sp
  | false =>
    rw [push, if_neg Bool.false_ne_true] at sp
    cases pop : i.isPop with
    | true =>
      rw [faultOn?_of_isPop m pop] at runs
      rw [pop, if_pos rfl] at sp
      exact h.popped root runs frame sp
    | false =>
      rw [pop, if_neg Bool.false_ne_true] at sp
      exact h.of_sp_eq frame sp

theorem step (h : StackBalanced start m pushes pops) (root : start.Rooted)
    (unnamed : ∀ i ∈ m.instructionRun, i.destination? ≠ some .sp) :
    StackBalanced start m.step.machine (pushes + m.instructionRun.countP Instruction.isPush)
      (pops + m.instructionRun.countP Instruction.isPop) := by
  have past (n : Nat) : StackBalanced start (m.past n) pushes pops :=
    h.of_sp_eq ⟨rfl, rfl, rfl⟩ (get_past_of_ne m n (by decide))
  cases state : m.state with
  | faulted =>
    rw [instructionRun, step_of_faulted state]
    exact h
  | running =>
    rcases step_cases state with ⟨i, -, runs, steps⟩ | ⟨byte, -, -, steps⟩ | ⟨fault, steps⟩
    · rw [instructionRun, steps] at unnamed ⊢
      have balanced := (past i.size).effect root runs (unnamed i (List.mem_singleton_self i))
      exact balanced.of_sp_eq ⟨rfl, rfl, rfl⟩ rfl
    · rw [instructionRun, steps]
      exact past 1
    · rw [instructionRun, steps]
      exact h.of_sp_eq ⟨rfl, rfl, rfl⟩ rfl

/-- A push can only find the stack full, and a pop can only find it empty. -/
theorem fault_eq (h : StackBalanced start m pushes pops) (root : start.Rooted)
    (running : m.state = .running) (decoded : m.memory.instructionAt (m.get .ip) = .ok i)
    {fault : Fault} (faults : m.step.outcome = .error fault) :
    (i.isPush → fault = .stackOverflow (m.get .sp) start.settings.stackLimit) ∧
      (i.isPop → fault = .stackUnderflow (m.get .sp) start.stackTop) := by
  have sp : (m.past i.size).get .sp = m.get .sp := get_past_of_ne m _ (by decide)
  have past := h.of_sp_eq (n := m.past i.size) ⟨rfl, rfl, rfl⟩ sp
  have refused : (m.past i.size).faultOn? i = some fault := by
    rw [step_of_decoded running decoded] at faults
    cases runs : (m.past i.size).faultOn? i with
    | none => simp [runs, finish] at faults
    | some other => simpa [runs, stop] using faults
  constructor
  · intro push
    rw [faultOn?_of_isPush _ push, past.pushFault?_eq root, sp,
      Option.ite_none_right_eq_some] at refused
    exact (Option.some.inj refused.2).symm
  · intro pop
    rw [faultOn?_of_isPop _ pop, past.popFault?_eq root, sp,
      Option.ite_none_right_eq_some] at refused
    exact (Option.some.inj refused.2).symm

end StackBalanced

theorem stackBalanced_reset (start : Machine) : StackBalanced start start.reset 0 0 where
  frame := ⟨rfl, rfl, rfl⟩
  le := Nat.le_refl 0
  pointer := by simp [reset, freshRegisters, get, RegisterBank.get_set_of_ne]
  floor h := absurd h (Nat.lt_irrefl 0)

end Machine

namespace Watched

open Machine

theorem executed_step (w : Watched (List Event)) :
    (step keepAll w).2.executed = w.executed ++ w.machine.instructionRun := by
  simp only [executed, step, instructionRun]
  rcases w.machine.step with ⟨outcome, _ | event, machine⟩
  · simp
  · cases event <;> simp [keepAll, Event.instruction?]

/-- The events tell how far pushes and pops have moved the stack pointer, unless an instruction
among them has named it. -/
def CountsStack (start : Machine) (w : Watched (List Event)) : Prop :=
  (∀ i ∈ w.executed, i.destination? ≠ some .sp) →
    StackBalanced start w.machine (w.executed.countP Instruction.isPush)
      (w.executed.countP Instruction.isPop)

namespace CountsStack

variable {start : Machine} {w : Watched (List Event)}

theorem step (h : CountsStack start w) (root : start.Rooted) :
    CountsStack start (Watched.step keepAll w).2 := by
  intro unnamed
  rw [executed_step] at unnamed ⊢
  rw [step_machine, List.countP_append, List.countP_append]
  have before := h fun i ran => unnamed i (List.mem_append_left _ ran)
  exact before.step root fun i ran => unnamed i (List.mem_append_right _ ran)

theorem driven (root : start.Rooted) {calls : List DriverCall} (unreset : .reset ∉ calls)
    (unset : ∀ value, .set .sp value ∉ calls) :
    CountsStack start (Watched.driven keepAll ⟨start.reset, []⟩ calls) := by
  apply driven_induction (P := CountsStack start)
  · exact fun _ => stackBalanced_reset start
  · exact fun w h => h.step root
  · exact fun w h unnamed => (h unnamed).of_sp_eq ⟨rfl, rfl, rfl⟩ rfl
  · exact fun called => absurd called unreset
  · intro r value called w h unnamed
    have other : r ≠ .sp := by
      rintro rfl
      exact unset value called
    exact (h unnamed).of_sp_eq ⟨rfl, rfl, rfl⟩ (get_set_of_ne _ other _)

end CountsStack

/-- After a reset the stack pointer is the top of the stack less two for each push that is not yet
popped, as long as neither an instruction nor the driver sets it. No pop is ahead of its push, and
what a push or pop still can run into is a full or an empty stack. Part of a run is a shorter run,
so this holds at every point of a drive. -/
theorem stack_pointer_counts_pushes (start : Machine) (least : 2 ≤ start.memory.size)
    (most : start.memory.size ≤ 65536) (top : start.stackTop = topOfStack start.memory.size)
    (calls : List DriverCall) (unreset : .reset ∉ calls) (unset : ∀ value, .set .sp value ∉ calls)
    (unnamed : ∀ i ∈ (driven keepAll ⟨start.reset, []⟩ calls).executed,
      i.destination? ≠ some .sp) :
    let w := driven keepAll ⟨start.reset, []⟩ calls
    let m := w.machine
    let pushes := w.executed.countP Instruction.isPush
    let pops := w.executed.countP Instruction.isPop
    pops ≤ pushes ∧
    (m.get .sp).toNat = start.stackTop.toNat - 2 * (pushes - pops) ∧
    2 * (pushes - pops) ≤ start.stackTop.toNat ∧
    m.get .sp ≤ start.stackTop ∧
    (pops < pushes → max start.settings.stackLimit.toNat 2 - 2 ≤ (m.get .sp).toNat) ∧
    (m.state = .running → ∀ i fault, m.memory.instructionAt (m.get .ip) = .ok i →
      m.step.outcome = .error fault →
        (i.isPush → fault = .stackOverflow (m.get .sp) start.settings.stackLimit) ∧
        (i.isPop → fault = .stackUnderflow (m.get .sp) start.stackTop)) := by
  intro w m pushes pops
  have root : start.Rooted := rooted_of_topOfStack least most top
  have balanced : StackBalanced start m pushes pops :=
    CountsStack.driven root unreset unset unnamed
  have pointer := balanced.pointer
  have floor := balanced.floor
  refine ⟨balanced.le, by omega, by omega, UInt16.le_iff_toNat_le.mpr balanced.sp_le, ?_, ?_⟩
  · intro more
    exact Nat.sub_le_iff_le_add.mpr (floor more)
  · intro running i fault decoded faults
    exact balanced.fault_eq root running decoded faults

/-- A program that pushes its own text over itself until the stack is full. -/
theorem stack_pointer_counts_pushes_full :
    let start : Machine := .ofMemory ⟨#[0x18, 0x02, 0x18, 0x02, 0x00, 0x00]⟩ {}
    let calls : List DriverCall := [.set .r1 0x1802, .runFor 3, .resume]
    let w := driven keepAll ⟨start.reset, []⟩ calls
    2 ≤ start.memory.size ∧ start.memory.size ≤ 65536 ∧
      start.stackTop = topOfStack start.memory.size ∧ .reset ∉ calls ∧
      (∀ value, .set .sp value ∉ calls) ∧
      (∀ i ∈ w.executed, i.destination? ≠ some .sp) ∧
      (w.machine.get .sp).toNat = start.stackTop.toNat - 2 * (2 - 0) ∧
      w.machine.step.outcome =
        .error (.stackOverflow (w.machine.get .sp) start.settings.stackLimit) := by
  intro start calls w
  have ran : w.executed = [.pshReg .r1, .pshReg .r1] := by decide +kernel
  have unset : ∀ value, .set .sp value ∉ calls := by simp [calls]
  have unnamed : ∀ i ∈ w.executed, i.destination? ≠ some .sp := by
    rw [ran]
    decide
  obtain ⟨-, pointer, -, -, -, faults⟩ := stack_pointer_counts_pushes start (by decide) (by decide)
    rfl calls (by decide) unset unnamed
  rw [ran] at pointer
  have decoded : w.machine.memory.instructionAt (w.machine.get .ip) = .ok (.pshReg .r1) := by
    decide +kernel
  have refused : w.machine.step.outcome = .error (.stackOverflow 0 0) := by decide +kernel
  have full := (faults (by decide +kernel) _ _ decoded refused).1 rfl
  exact ⟨by decide, by decide, rfl, by decide, unset, unnamed, pointer, full ▸ refused⟩

end Watched

end WordMachine
