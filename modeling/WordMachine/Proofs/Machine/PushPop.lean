import WordMachine.Proofs.Machine.Stack

/-!
# Pushes and pops undo each other

A push is bounded below by the stack limit and above by the end of memory, a pop above by the top of
the stack. As the top is the last word of memory, whatever can be pushed can be popped again,
wherever the stack pointer is. A pop can be undone unless it ends below the limit.
-/

namespace WordMachine

/-- Storing a word where it is already changes nothing. -/
theorem Memory.put16_wordAt {m : Memory} {addr : UInt16} (holds : m.Holds addr 2) :
    m.put16 addr (m.wordAt addr) = m := by
  have last : addr.toNat + 1 < m.bytes.size := holds
  have first : addr.toNat < m.bytes.size := Nat.lt_of_succ_lt last
  simp [put16, wordAt, Array.setIfInBounds_def, first, last]

namespace Machine

variable {m after : Machine} {value : UInt16} {fault : Fault}

theorem push_eq_ok_iff :
    push value m = .ok () after ↔ m.pushFault? = none ∧ m.pushed value = after := by
  rw [push_eq]
  cases m.pushFault? <;> simp

theorem pop_eq_ok_iff :
    pop m = .ok value after ↔ m.popFault? = none ∧ m.popValue = value ∧ m.popped = after := by
  rw [pop_eq]
  cases m.popFault? <;> simp

theorem push_of_error (h : push value m = .error fault after) : after = m := by
  rw [push_eq] at h
  grind

theorem pop_of_error (h : pop m = .error fault after) : after = m := by
  rw [pop_eq] at h
  grind

/-- A pop takes the word that was pushed, and leaves it behind in memory. -/
theorem pop_pushed (rooted : m.Rooted) (room : m.pushFault? = none) (value : UInt16) :
    pop (m.pushed value) = .ok value (m.stored (m.get .sp) value) := by
  obtain ⟨floor, inside⟩ := pushFault?_eq_none_iff.mp room
  have back : m.get .sp - 2 + 2 = m.get .sp := by simp
  have pointer : (m.pushed value).get .sp = m.get .sp - 2 := get_set_self ..
  refine pop_eq_ok_iff.mpr ⟨?_, ?_, ?_⟩
  · have rooted' : (m.pushed value).Rooted := rooted.trans (Memory.size_put16 ..).symm
    have lower : (m.get .sp - 2).toNat = (m.get .sp).toNat - 2 := Word.toNat_sub_two (by omega)
    have top : (m.pushed value).stackTop.toNat + 2 = m.memory.size := rooted
    rw [popFault?_of_rooted rooted', if_neg (by grind)]
  · rw [popValue, pointer, back]
    exact Memory.wordAt_of_shows (Memory.shows_put16 inside value)
  · rw [popped, pointer, back, pushed, set_set]
    exact set_get_self (m.stored (m.get .sp) value) .sp

/-- A push puts back the word that was popped. -/
theorem push_popped (rooted : m.Rooted) (held : m.popFault? = none)
    (limit : m.settings.stackLimit ≤ m.popped.get .sp) :
    push m.popValue m.popped = .ok () m := by
  have below : (m.get .sp).toNat + 2 ≤ m.stackTop.toNat := by
    simpa [popFault?_of_rooted rooted] using held
  have bound := m.stackTop.toNat_lt
  have pointer : m.popped.get .sp = m.get .sp + 2 := get_set_self ..
  have upper : (m.get .sp + 2).toNat = (m.get .sp).toNat + 2 := Word.toNat_add_two (by omega)
  have inside : (m.get .sp + 2).toNat + 2 ≤ m.memory.size := by rw [← rooted]; omega
  refine push_eq_ok_iff.mpr ⟨?_, ?_⟩
  · rw [UInt16.le_iff_toNat_le, pointer] at limit
    refine pushFault?_eq_none_iff.mpr ⟨?_, ?_⟩
    · rw [pointer]
      exact Nat.max_le.mpr ⟨limit, by omega⟩
    · rw [pointer]
      exact inside
  · have kept : m.popped.stored (m.get .sp + 2) m.popValue = m.popped := by
      rw [stored]
      exact congrArg (fun memory => { m.popped with memory }) (Memory.put16_wordAt inside)
    rw [pushed, pointer, kept, popped, set_set, UInt16.add_sub_cancel, set_get_self]

/-- Wherever the stack pointer is, a pop right after a push takes the pushed word, and all registers
are as they were. Pushing a popped word back restores the whole machine, unless the pop has ended
below the stack limit. A push or pop that faults changes nothing. -/
theorem push_pop_inverse (m : Machine) (least : 2 ≤ m.memory.size)
    (most : m.memory.size ≤ 65536) (top : m.stackTop = topOfStack m.memory.size) :
    (∀ value after, push value m = .ok () after →
      pop after = .ok value { m with memory := after.memory }) ∧
    (∀ value after, pop m = .ok value after → m.settings.stackLimit ≤ after.get .sp →
      push value after = .ok () m) ∧
    (∀ value fault after, push value m = .error fault after → after = m) ∧
    ∀ fault after, pop m = .error fault after → after = m := by
  have rooted : m.Rooted := rooted_of_topOfStack least most top
  refine ⟨?_, ?_, fun _ _ _ => push_of_error, fun _ _ => pop_of_error⟩
  · intro value after pushes
    obtain ⟨room, rfl⟩ := push_eq_ok_iff.mp pushes
    exact pop_pushed rooted room value
  · intro value after pops limit
    obtain ⟨held, rfl, rfl⟩ := pop_eq_ok_iff.mp pops
    exact push_popped rooted held limit

/-- At an odd stack pointer both ways, and a push and a pop where there is no word. -/
theorem push_pop_inverse_odd :
    let m := (ofMemory ⟨#[1, 2, 3, 4, 5, 6, 7]⟩ { stackLimit := 3 }).set .sp 3
    let beyond := m.set .sp 0xFFFF
    2 ≤ m.memory.size ∧ m.memory.size ≤ 65536 ∧ m.stackTop = topOfStack m.memory.size ∧
      push 0xABCD m = .ok () (m.pushed 0xABCD) ∧
      pop (m.pushed 0xABCD) =
        .ok 0xABCD { m with memory := ⟨#[1, 2, 3, 0xAB, 0xCD, 6, 7]⟩ } ∧
      pop m = .ok 0x0607 m.popped ∧ m.settings.stackLimit ≤ m.popped.get .sp ∧
      push 0x0607 m.popped = .ok () m ∧
      push 7 beyond = .error (.memoryFault (.outOfBounds 0xFFFF 2 7)) beyond ∧
      pop beyond = .error (.stackUnderflow 0xFFFF 5) beyond := by
  intro m beyond
  have pushes : push 0xABCD m = .ok () (m.pushed 0xABCD) := rfl
  have pops : pop m = .ok 0x0607 m.popped := rfl
  obtain ⟨popBack, pushBack, -, -⟩ := push_pop_inverse m (by decide) (by decide) rfl
  obtain ⟨-, -, pushFails, popFails⟩ := push_pop_inverse beyond (by decide) (by decide) rfl
  obtain ⟨pushed, noPush⟩ :
      ∃ after, push 7 beyond = .error (.memoryFault (.outOfBounds 0xFFFF 2 7)) after := ⟨_, rfl⟩
  obtain ⟨popped, noPop⟩ : ∃ after, pop beyond = .error (.stackUnderflow 0xFFFF 5) after :=
    ⟨_, rfl⟩
  exact ⟨by decide, by decide, rfl, pushes, popBack _ _ pushes, pops, by decide,
    pushBack _ _ pops (by decide), pushFails _ _ _ noPush ▸ noPush, popFails _ _ noPop ▸ noPop⟩

end Machine

end WordMachine
