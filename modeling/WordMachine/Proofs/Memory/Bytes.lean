import WordMachine.Proofs.Memory.Bounds
import WordMachine.Proofs.Memory.Load

/-!
# Memory as one sequence of bytes

Whatever is written to a memory, byte by byte, word by word or as a program, it holds the bytes that
replacing them one after the other in a plain sequence gives. A word is its two bytes, wherever it
begins, and a word that is half outside memory is not stored at all. A fault tells the access that
it is about and the size of memory.
-/

namespace WordMachine.Memory

variable {m n : Memory} {addr : UInt16} {place : Nat} {bytes new : Bytes}

/-! ## Replacing bytes -/

/-- The sequence with the given bytes from `place` on. -/
def overwrite (bytes : Bytes) (place : Nat) (new : Bytes) : Bytes :=
  bytes.mapIdx fun k old => if place ≤ k then new[k - place]?.getD old else old

theorem getElem?_overwrite_of_inside {k : Nat} (first : place ≤ k)
    (inside : k < place + new.length) (fits : place + new.length ≤ bytes.length) :
    (overwrite bytes place new)[k]? = new[k - place]? := by
  have stored : k - place < new.length := by omega
  have covered : k < bytes.length := by omega
  simp [overwrite, first, stored, covered]

theorem getElem?_overwrite_of_apart {k : Nat} (apart : k < place ∨ place + new.length ≤ k) :
    (overwrite bytes place new)[k]? = bytes[k]? := by
  rw [overwrite, List.getElem?_mapIdx]
  by_cases first : place ≤ k
  · simp [first, List.getElem?_eq_none (show new.length ≤ k - place by omega)]
  · simp [first]

theorem HasPlaced.toList_eq (h : m.HasPlaced place new n) (fits : place + new.length ≤ m.size) :
    n.bytes.toList = overwrite m.bytes.toList place new := by
  apply List.ext_getElem?
  intro k
  by_cases apart : k < place ∨ place + new.length ≤ k
  · rw [getElem?_overwrite_of_apart apart]
    simpa using h.elsewhere k apart
  · obtain ⟨i, rfl⟩ := Nat.exists_eq_add_of_le (show place ≤ k by omega)
    have inside : i < new.length := by omega
    rw [getElem?_overwrite_of_inside (by omega) (by omega) fits, Nat.add_sub_cancel_left,
      List.getElem?_eq_getElem inside]
    simpa using shows_iff_getElem?.mp h.shows i inside

theorem hasPlaced_put8 (holds : m.Holds addr 1) (value : UInt8) :
    m.HasPlaced addr.toNat [value] (m.put8 addr value) where
  size := size_put8 ..
  shows := by
    have inside : addr.toNat < m.bytes.size := holds
    simp [put8, inside]
  elsewhere k apart := by
    have ne : addr.toNat ≠ k := by
      rw [List.length_singleton] at apart
      omega
    exact Array.getElem?_setIfInBounds_ne ne

theorem hasPlaced_put16 (holds : m.Holds addr 2) (value : UInt16) :
    m.HasPlaced addr.toNat (Word.toBytes value) (m.put16 addr value) where
  size := size_put16 ..
  shows := shows_put16 holds value
  elsewhere k apart := by
    rw [Word.length_toBytes] at apart
    exact getElem?_put16_of_ne value (by omega) (by omega)

/-! ## Changes -/

namespace Change

/-- What a change makes of a sequence of bytes. -/
def store (bytes : Bytes) : Change → Bytes
  | .write8 addr value => overwrite bytes addr.toNat [value]
  | .write16 addr value => overwrite bytes addr.toNat [Word.high value, Word.low value]
  | .load start program => overwrite bytes start.toNat program
  | .clear => List.replicate bytes.length 0

/-- The place behind the last byte that a change names. -/
def stop : Change → Nat
  | .write8 addr _ => addr.toNat + 1
  | .write16 addr _ => addr.toNat + 2
  | .load start program => start.toNat + program.length
  | .clear => 0

end Change

/-- The memory that a change makes, if it is neither refused nor aborted. -/
def result? (m : Memory) : Change → Option Memory
  | .write8 addr value => (m.write8 addr value).toOption
  | .write16 addr value => (m.write16 addr value).toOption
  | .load start program =>
    match m.load start program with
    | .placed n => some n
    | .refused _ | .aborted => none
  | .clear => some m.clear

/-- The memory that a change makes where there is room for it. -/
def changed (m : Memory) : Change → Memory
  | .write8 addr value => m.put8 addr value
  | .write16 addr value => m.put16 addr value
  | .load start program => m.put start.toNat program
  | .clear => m.clear

def applied (m : Memory) (changes : List Change) : Memory := changes.foldl apply m

theorem result?_eq (m : Memory) (c : Change) :
    m.result? c = if c.stop ≤ m.size then some (m.changed c) else none := by
  cases c with
  | write8 addr value =>
    change (m.write8 addr value).toOption = if m.Holds addr 1 then _ else _
    rw [write8]
    split <;> rfl
  | write16 addr value =>
    change (m.write16 addr value).toOption = if m.Holds addr 2 then _ else _
    rw [write16]
    split <;> rfl
  | load start program =>
    by_cases room : (Change.load start program).stop ≤ m.size
    · have placed : m.load start program = .placed (m.put start.toNat program) :=
        (load_eq ..).trans (if_pos room)
      rw [if_pos room]
      simp [result?, changed, placed]
    · have unplaced := (load_eq m start program).trans (if_neg room)
      rw [if_neg room]
      simp only [result?, unplaced]
      by_cases empty : program = [] <;> simp [empty]
  | clear => exact (if_pos (Nat.zero_le _)).symm

theorem apply_eq_getD (m : Memory) (c : Change) : m.apply c = (m.result? c).getD m := by
  cases c with
  | write8 addr value =>
    simp only [apply, result?]
    cases m.write8 addr value <;> rfl
  | write16 addr value =>
    simp only [apply, result?]
    cases m.write16 addr value <;> rfl
  | load start program =>
    simp only [apply, result?]
    cases m.load start program <;> rfl
  | clear => rfl

theorem toList_changed {c : Change} (room : c.stop ≤ m.size) :
    (m.changed c).bytes.toList = c.store m.bytes.toList := by
  cases c with
  | write8 addr value => exact (hasPlaced_put8 room value).toList_eq room
  | write16 addr value => exact (hasPlaced_put16 room value).toList_eq room
  | load start program => exact (hasPlaced_put room).toList_eq room
  | clear => simp [changed, clear, zeros, Change.store, size]

/-- A change that there is room for does to a memory what it does to its bytes, and no other change
does anything. -/
theorem toList_apply (m : Memory) (c : Change) :
    (m.apply c).bytes.toList =
      if c.stop ≤ m.size then c.store m.bytes.toList else m.bytes.toList := by
  rw [apply_eq_getD, result?_eq]
  split
  case isTrue room => exact toList_changed room
  case isFalse => rfl

theorem size_applied (m : Memory) (changes : List Change) : (m.applied changes).size = m.size := by
  induction changes generalizing m with
  | nil => rfl
  | cons c changes ih => exact (ih _).trans (size_apply m c)

/-- The changes that there is room for are the same from first to last. -/
theorem toList_applied (m : Memory) (changes : List Change) :
    (m.applied changes).bytes.toList =
      (changes.filter (·.stop ≤ m.size)).foldl Change.store m.bytes.toList := by
  induction changes generalizing m with
  | nil => rfl
  | cons c changes ih =>
    refine (ih (m.apply c)).trans ?_
    rw [toList_apply, size_apply]
    by_cases room : c.stop ≤ m.size <;> simp [room]

/-! ## Reads and faults -/

theorem read8_eq_ok_iff {value : UInt8} :
    m.read8 addr = .ok value ↔ m.bytes[addr.toNat]? = some value := by
  rw [read8]
  cases m.bytes[addr.toNat]? <;> simp

theorem read16_eq_ok_iff {value : UInt16} :
    m.read16 addr = .ok value ↔
      ∃ hi lo, m.bytes[addr.toNat]? = some hi ∧ m.bytes[addr.toNat + 1]? = some lo ∧
        value.toNat = 256 * hi.toNat + lo.toNat := by
  rw [read16]
  cases m.bytes[addr.toNat]? with
  | none => simp
  | some hi =>
    cases m.bytes[addr.toNat + 1]? with
    | none => simp
    | some lo => simp [← Word.toNat_ofBytes, UInt16.toNat_inj, eq_comm]

theorem ite_eq_error_iff {ε α : Type} {c : Prop} [Decidable c] {a : α} {e e' : ε} :
    (if c then .ok a else .error e : Except ε α) = .error e' ↔ ¬ c ∧ e' = e := by
  by_cases c <;> simp [*, eq_comm]

theorem read8_eq_error_iff {e : MemoryError} :
    m.read8 addr = .error e ↔ ¬ m.Holds addr 1 ∧ e = m.fault addr 1 := by
  by_cases holds : m.Holds addr 1
  · simp [read8_eq_ok holds, holds]
  · simp [read8_eq_error holds, holds, eq_comm]

/-- A load is never refused for its bounds. -/
theorem eq_of_load_refused {start : UInt16} {program : Bytes} {e : MemoryError}
    (h : m.load start program = .refused e) :
    e = .programTooLarge program.length (m.size - start.toNat) := by
  rw [load_eq] at h
  split_ifs at h
  cases h
  rfl

/-- After changes of any kind memory has the bytes that the changes with room for them make of the
first ones, one after the other, and a change is carried out exactly if there is room for it. A word
is read as the two bytes at its address and after it. Only a memory beyond the address space has a
word whose second byte has no address. Every fault of an access tells its address, its width and the
size of memory. -/
theorem accesses_view_bytes (m : Memory) (changes : List Change) :
    let n := m.applied changes
    n.size = m.size ∧
    n.bytes.toList = (changes.filter (·.stop ≤ m.size)).foldl Change.store m.bytes.toList ∧
    (∀ c, (n.result? c).isSome ↔ c.stop ≤ n.size) ∧
    (∀ c, n.result? c = none → n.apply c = n) ∧
    (∀ a v, n.read8 a = .ok v ↔ n.bytes[a.toNat]? = some v) ∧
    (∀ a w, n.read16 a = .ok w ↔ ∃ hi lo,
      n.bytes[a.toNat]? = some hi ∧ n.bytes[a.toNat + 1]? = some lo ∧
        w.toNat = 256 * hi.toNat + lo.toNat) ∧
    (∀ a next, next.toNat = a.toNat + 1 → ∀ w, n.read16 a = .ok w ↔ ∃ hi lo,
      n.read8 a = .ok hi ∧ n.read8 next = .ok lo ∧ w.toNat = 256 * hi.toNat + lo.toNat) ∧
    (∀ w, n.read16 65535 = .ok w → maxSize < n.size) ∧
    ∀ a,
      (∀ e, n.read8 a = .error e ↔ n.size < a.toNat + 1 ∧ e = .outOfBounds a 1 n.size) ∧
      (∀ v e, n.write8 a v = .error e ↔ n.size < a.toNat + 1 ∧ e = .outOfBounds a 1 n.size) ∧
      (∀ e, n.read16 a = .error e ↔ n.size < a.toNat + 2 ∧ e = .outOfBounds a 2 n.size) ∧
      (∀ v e, n.write16 a v = .error e ↔ n.size < a.toNat + 2 ∧ e = .outOfBounds a 2 n.size) ∧
      (∀ count e, n.window a count = .error e ↔
        n.size < a.toNat + count ∧ e = .outOfBounds a count n.size) ∧
      (∀ program e, n.load a program = .refused e →
        e = .programTooLarge program.length (n.size - a.toNat)) := by
  intro n
  have outside (a : UInt16) (width : Nat) : ¬ n.Holds a width ↔ n.size < a.toNat + width :=
    Nat.not_le
  refine ⟨size_applied m changes, toList_applied m changes, ?_, ?_, fun a v => read8_eq_ok_iff,
    fun a w => read16_eq_ok_iff, ?_, ?_, ?_⟩
  · intro c
    rw [result?_eq]
    split <;> simp [*]
  · intro c none
    rw [apply_eq_getD, none, Option.getD_none]
  · intro a next after w
    simp only [read16_eq_ok_iff, read8_eq_ok_iff, after]
  · intro w read
    obtain ⟨hi, lo, -, second, -⟩ := read16_eq_ok_iff.mp read
    exact (Array.getElem?_eq_some_iff.mp second).1
  · intro a
    simp only [← outside]
    refine ⟨fun e => read8_eq_error_iff, fun v e => ite_eq_error_iff, fun e => ?_,
      fun v e => ite_eq_error_iff, fun count e => ite_eq_error_iff, fun program e => eq_of_load_refused⟩
    rw [read16_eq]
    exact ite_eq_error_iff

/-- Words that overlap, at an even and an odd address, and one that is half outside. -/
theorem accesses_view_bytes_overlapping :
    let changes : List Change := [.write16 0 0x1234, .write16 1 0x5678, .write16 2 0x9ABC]
    let n := (zeros 3).applied changes
    n.bytes.toList = [0x12, 0x56, 0x78] ∧ n.read16 0 = .ok 0x1256 ∧
      n.write16 2 0x9ABC = .error (.outOfBounds 2 2 3) := by
  intro changes n
  obtain ⟨size, stored, -, -, -, words, -, -, faults⟩ := accesses_view_bytes (zeros 3) changes
  have bytes : n.bytes.toList = [0x12, 0x56, 0x78] := stored.trans (by decide)
  obtain ⟨-, -, -, refused, -⟩ := faults 2
  refine ⟨bytes, (words 0 0x1256).mpr ⟨0x12, 0x56, ?_, ?_, rfl⟩, (refused _ _).mpr ?_⟩
  · rw [← Array.getElem?_toList, bytes]
    rfl
  · rw [← Array.getElem?_toList, bytes]
    rfl
  · rw [size]
    decide

end WordMachine.Memory
