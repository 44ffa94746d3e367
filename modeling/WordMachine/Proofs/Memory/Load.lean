import WordMachine.Proofs.Memory.Size

/-!
# Loading programs

A program is placed as a whole or not at all. Memory then has it from its start on, and every other
byte is as before. Where there is no room for it the refusal tells how much room there is.

One load ends in neither way. An empty program finds room everywhere, also behind the end of memory,
but there is no stretch of memory there to put it in, not even an empty one: the load is aborted.
-/

namespace WordMachine.Memory

variable {m n : Memory} {start : Nat} {program : Bytes}

/-! ## Memories with a program -/

/-- The second memory is the first one with a program from `start` on. -/
structure HasPlaced (m : Memory) (start : Nat) (program : Bytes) (n : Memory) : Prop where
  size : n.size = m.size
  shows : n.Shows start program
  elsewhere : ∀ place, place < start ∨ start + program.length ≤ place →
    n.bytes[place]? = m.bytes[place]?

theorem getElem?_put (fits : start + program.length ≤ m.size) (place : Nat) :
    (m.put start program).bytes[place]? =
      if start ≤ place ∧ place < start + program.length then program[place - start]?
      else m.bytes[place]? := by
  simp only [Memory.size] at fits
  have front : (m.bytes.extract 0 start).size = start := by
    simp only [Array.size_extract]
    omega
  rw [put, Array.append_assoc]
  by_cases before : place < start
  · have outside : ¬ (start ≤ place ∧ place < start + program.length) := by omega
    rw [if_neg outside, Array.getElem?_append_left (front.symm ▸ before), Array.getElem?_extract]
    simp only [Nat.zero_add, Nat.sub_zero]
    rw [if_pos (by omega)]
  · rw [Array.getElem?_append_right (by omega), front]
    by_cases inside : place < start + program.length
    · rw [if_pos ⟨by omega, inside⟩, Array.getElem?_append_left (by simp; omega)]
      simp
    · rw [if_neg (by omega), Array.getElem?_append_right (by simp; omega), Array.getElem?_extract,
        List.size_toArray]
      have place_eq : start + program.length + (place - start - program.length) = place := by omega
      rw [place_eq]
      split
      case isTrue => rfl
      case isFalse behind => exact (Array.getElem?_eq_none (by omega)).symm

theorem hasPlaced_put (fits : start + program.length ≤ m.size) :
    m.HasPlaced start program (m.put start program) where
  size := size_put fits
  shows := by
    rw [shows_iff_getElem?]
    intro k hk
    rw [getElem?_put fits, if_pos ⟨by omega, by omega⟩, Nat.add_sub_cancel_left]
    exact List.getElem?_eq_getElem hk
  elsewhere place apart := by rw [getElem?_put fits, if_neg (by omega)]

/-- What is shown and what stays is all that there is. -/
theorem HasPlaced.unique {n' : Memory} (h : m.HasPlaced start program n)
    (h' : m.HasPlaced start program n') : n = n' := by
  have bytes : n.bytes = n'.bytes := by
    apply Array.ext_getElem?
    intro place
    by_cases apart : place < start ∨ start + program.length ≤ place
    · rw [h.elsewhere place apart, h'.elsewhere place apart]
    · obtain ⟨k, rfl⟩ := Nat.exists_eq_add_of_le (show start ≤ place by omega)
      have hk : k < program.length := by omega
      rw [shows_iff_getElem?.mp h.shows k hk, shows_iff_getElem?.mp h'.shows k hk]
  cases n
  cases n'
  exact congrArg Memory.mk bytes

/-! ## The load -/

/-- A load is placed unless the program would run over the end of memory; what is then done with it
depends on whether there is anything to place. -/
theorem load_eq (m : Memory) (start : UInt16) (program : Bytes) :
    m.load start program =
      if start.toNat + program.length ≤ m.size then .placed (m.put start.toNat program)
      else if program = [] then .aborted
      else .refused (.programTooLarge program.length (m.size - start.toNat)) := by
  simp only [load, gt_iff_lt]
  by_cases empty : program = []
  · subst empty
    by_cases beyond : m.size < start.toNat <;> simp [beyond, Nat.not_le.mpr, Nat.not_lt.mp]
  · have something : 0 < program.length := List.length_pos_iff.mpr empty
    by_cases fits : start.toNat + program.length ≤ m.size
    · rw [if_pos fits, if_neg (by omega), if_neg (by omega)]
    · rw [if_neg fits, if_neg empty, if_pos (by omega)]

/-- A load places the whole program and changes nothing else, or it changes nothing and is refused
with the room that there is; the size of the program decides. Only the empty program that starts
behind the end of memory is neither placed nor refused. -/
theorem load_all_or_nothing (m : Memory) (start : UInt16) (program : Bytes) :
    let room := m.size - start.toNat
    let astray := program = [] ∧ m.size < start.toNat
    ((∃ n, m.load start program = .placed n) ↔ program.length ≤ room ∧ ¬ astray) ∧
    (∀ n, m.load start program = .placed n ↔
      (program.length ≤ room ∧ ¬ astray) ∧ m.HasPlaced start.toNat program n) ∧
    (∀ e, m.load start program = .refused e ↔
      room < program.length ∧ e = .programTooLarge program.length room) ∧
    (m.load start program = .aborted ↔ astray) ∧
    ((¬ ∃ n, m.load start program = .placed n) → m.apply (.load start program) = m) := by
  intro room astray
  by_cases fits : start.toNat + program.length ≤ m.size
  · have result : m.load start program = .placed (m.put start.toNat program) := by
      rw [load_eq, if_pos fits]
    have small : program.length ≤ room := by omega
    have regular : ¬ astray := fun h => by omega
    have placed (n : Memory) : m.put start.toNat program = n ↔ m.HasPlaced start.toNat program n :=
      ⟨fun same => same ▸ hasPlaced_put fits, (hasPlaced_put fits).unique⟩
    refine ⟨?_, ?_, ?_, ?_, fun unplaced => absurd ⟨_, result⟩ unplaced⟩
    · simp [result, small, regular]
    · simp [result, small, regular, placed]
    · simp [result, Nat.not_lt.mpr small]
    · simp [result, regular]
  · by_cases empty : program = []
    · have result : m.load start program = .aborted := by
        rw [load_eq, if_neg fits, if_pos empty]
      have beyond : m.size < start.toNat := by simpa [empty] using fits
      have lost : astray := ⟨empty, beyond⟩
      have small : ¬ room < program.length := by simp [empty]
      simp [apply, result, lost, small]
    · have result : m.load start program = .refused (.programTooLarge program.length room) := by
        rw [load_eq, if_neg fits, if_neg empty]
      have large : room < program.length := by
        have := List.length_pos_iff.mpr empty
        omega
      have regular : ¬ astray := fun h => empty h.1
      simp [apply, result, large, regular, Nat.not_le.mpr large, eq_comm]

/-- A word placed at the end of memory, and one that is refused there. -/
theorem load_all_or_nothing_four :
    (∃ n, (zeros 4).load 2 [1, 2] = .placed n ∧ (zeros 4).HasPlaced 2 [1, 2] n) ∧
      (zeros 4).load 3 [1, 2] = .refused (.programTooLarge 2 1) ∧
      (zeros 4).apply (.load 3 [1, 2]) = zeros 4 := by
  obtain ⟨fits, holds, -⟩ := load_all_or_nothing (zeros 4) 2 [1, 2]
  obtain ⟨fits', -, refused, -, stays⟩ := load_all_or_nothing (zeros 4) 3 [1, 2]
  obtain ⟨n, placed⟩ := fits.mpr (by decide)
  exact ⟨⟨n, placed, ((holds n).mp placed).2⟩, (refused _).mpr (by decide),
    stays (mt fits'.mp (by decide))⟩

/-- Nothing fits into the room behind the end of memory, yet it cannot be placed there. -/
theorem load_of_nothing_beyond_end :
    ([] : Bytes).length ≤ (zeros 2).size - (3 : UInt16).toNat ∧
      (zeros 2).load 3 [] = .aborted ∧ ¬ ∃ n, (zeros 2).load 3 [] = .placed n := by
  have aborted : (zeros 2).load 3 [] = .aborted := by decide
  exact ⟨by decide, aborted, by rintro ⟨n, placed⟩; cases aborted ▸ placed⟩

end WordMachine.Memory
