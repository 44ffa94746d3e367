import WordMachine.Proofs.Register.Name
import WordMachine.Register.Bank

/-!
# One map of registers

The registers are a map from twelve registers to words, whichever way they are looked up. A write by
register, by name or by index that selects a register gives it a value, a read in any of these ways
gives the value that was written last, and so do the list of all registers and the stored bytes. A
name or an index that selects no register is refused and leaves every byte as it is.
-/

namespace WordMachine.RegisterBank

/-- A write by register, by name or by index. -/
inductive Write where
  | set (r : Register) (value : UInt16)
  | byName (name : String) (value : UInt16)
  | byIndex (index : UInt8) (value : UInt16)
  deriving DecidableEq, Repr

namespace Write

def value : Write → UInt16
  | .set _ value | .byName _ value | .byIndex _ value => value

def Selects : Write → Register → Prop
  | .set s _, r => s = r
  | .byName name _, r => r.IsNamed name
  | .byIndex index _, r => r.index = index

instance (w : Write) (r : Register) : Decidable (w.Selects r) :=
  match w with
  | .set s _ => inferInstanceAs (Decidable (s = r))
  | .byName name _ => decidable_of_iff (Register.ofName name = .ok r) Register.ofName_eq_ok_iff
  | .byIndex index _ => inferInstanceAs (Decidable (r.index = index))

end Write

/-- The bank that a write makes, or why it makes none. -/
def result (b : RegisterBank) : Write → Except RegisterError RegisterBank
  | .set r value => .ok (b.set r value)
  | .byName name value => b.setByName name value
  | .byIndex index value => b.setByIndex index value

/-- The bank after a write, which is as it was if the write is refused. -/
def write (b : RegisterBank) (w : Write) : RegisterBank :=
  match b.result w with
  | .ok written => written
  | .error _ => b

def written (b : RegisterBank) (writes : List Write) : RegisterBank := writes.foldl write b

/-- The value of the last write that selects a register, and zero if there is none. -/
def lastWritten (writes : List Write) (r : Register) : UInt16 :=
  ((writes.filter (·.Selects r)).getLast?.map Write.value).getD 0

variable {b : RegisterBank} {w : Write} {r : Register}

/-! ## One write -/

theorem result_of_selects (b : RegisterBank) (h : w.Selects r) :
    b.result w = .ok (b.set r w.value) := by
  cases w with
  | set s value => rw [result, (show s = r from h), Write.value]
  | byName name value =>
    rw [result, setByName, Register.ofName_eq_ok_iff.mpr h]
    rfl
  | byIndex index value =>
    rw [result, setByIndex, Register.ofIndex_eq_ok_iff.mpr h]
    rfl

theorem result_of_selects_none (b : RegisterBank) (h : ∀ r, ¬ w.Selects r) :
    ∃ e, b.result w = .error e := by
  cases w with
  | set s value => exact absurd rfl (h s)
  | byName name value =>
    rw [result, setByName, Register.ofName_eq_error_iff.mpr ⟨h, rfl⟩]
    exact ⟨_, rfl⟩
  | byIndex index value =>
    rw [result, setByIndex]
    cases chosen : Register.ofIndex index with
    | ok s => exact absurd (Register.ofIndex_eq_ok_iff.mp chosen) (h s)
    | error e => exact ⟨e, rfl⟩

theorem isOk_result_iff (b : RegisterBank) (w : Write) :
    (b.result w).isOk ↔ ∃ r, w.Selects r := by
  by_cases h : ∃ r, w.Selects r
  · obtain ⟨r, selects⟩ := h
    rw [result_of_selects b selects]
    exact iff_of_true rfl ⟨r, selects⟩
  · obtain ⟨e, refused⟩ := result_of_selects_none b (not_exists.mp h)
    rw [refused]
    exact iff_of_false nofun h

theorem Write.Selects.unique {s : Register} (hr : w.Selects r) (hs : w.Selects s) : r = s := by
  cases w with
  | set => exact hr.symm.trans hs
  | byName => exact Register.IsNamed.unique hr hs
  | byIndex =>
    exact Except.ok.inj ((Register.ofIndex_eq_ok_iff.mpr hr).symm.trans
      (Register.ofIndex_eq_ok_iff.mpr hs))

/-- A write gives its value to the register that it selects and to no other. -/
theorem get_write (b : RegisterBank) (w : Write) (r : Register) :
    (b.write w).get r = if w.Selects r then w.value else b.get r := by
  by_cases h : ∃ s, w.Selects s
  · obtain ⟨s, selects⟩ := h
    rw [write, result_of_selects b selects]
    by_cases same : s = r
    · subst same
      rw [if_pos selects, get_set_self]
    · rw [if_neg fun other => same (selects.unique other)]
      exact get_set_of_ne b same _
  · obtain ⟨e, refused⟩ := result_of_selects_none b (not_exists.mp h)
    rw [write, refused, if_neg (not_exists.mp h r)]

/-! ## Many writes -/

theorem written_concat (b : RegisterBank) (writes : List Write) (w : Write) :
    b.written (writes ++ [w]) = (b.written writes).write w := List.foldl_append

theorem lastWritten_concat (writes : List Write) (w : Write) (r : Register) :
    lastWritten (writes ++ [w]) r = if w.Selects r then w.value else lastWritten writes r := by
  by_cases selects : w.Selects r <;> simp [lastWritten, selects]

theorem get_written (writes : List Write) (r : Register) :
    (zero.written writes).get r = lastWritten writes r := by
  induction writes using List.reverseRecOn with
  | nil => exact get_zero r
  | append_singleton writes w ih => rw [written_concat, get_write, lastWritten_concat, ih]

/-! ## Reads -/

theorem getByName_of_isNamed (b : RegisterBank) {name : String} (h : r.IsNamed name) :
    b.getByName name = .ok (b.get r) := by
  rw [getByName, Register.ofName_eq_ok_iff.mpr h]
  rfl

theorem getByIndex_index (b : RegisterBank) (r : Register) :
    b.getByIndex r.index = .ok (b.get r) := by
  rw [getByIndex, r.ofIndex_index]
  rfl

theorem getElem?_toList (b : RegisterBank) (r : Register) :
    b.toList[r.index.toNat]? = some (r, b.get r) := by
  have listed : Register.all[r.index.toNat]? = some r := by cases r <;> rfl
  rw [toList, List.getElem?_map, listed]
  rfl

/-- The value of a register is in its two bytes, the high one first. -/
theorem getElem?_bytes (b : RegisterBank) (r : Register) :
    b.bytes[2 * r.index.toNat]? = some (Word.high (b.get r)) ∧
      b.bytes[2 * r.index.toNat + 1]? = some (Word.low (b.get r)) := by
  have last : 2 * r.index.toNat + 1 < 2 * Register.count := r.offset_lt
  have first : 2 * r.index.toNat < 2 * Register.count := Nat.lt_of_succ_lt last
  simp [bytes, get, Register.offset, first, last]

/-- After writes of any kind every way to read a register gives the value of the last write that
selected it, and zero if there was none; the list of registers has that value at the register's
place and the stored bytes have it at twice that place, the high byte first. A write is carried out
exactly if it selects a register. A name selects the register whose name it is in either case and
between blanks. Every other name and every index from twelve on is refused as it was given, and not
one of the stored bytes changes. -/
theorem lookups_share_one_map (writes : List Write) :
    let b := zero.written writes
    (∀ r, let v := lastWritten writes r
      b.get r = v ∧ (∀ name, r.IsNamed name → b.getByName name = .ok v) ∧
      b.getByIndex r.index = .ok v ∧ b.toList[r.index.toNat]? = some (r, v) ∧
      b.bytes[2 * r.index.toNat]? = some (Word.high v) ∧
      b.bytes[2 * r.index.toNat + 1]? = some (Word.low v)) ∧
    b.toList.length = 12 ∧ b.bytes.length = 24 ∧
    (∀ w, (b.result w).isOk ↔ ∃ r, w.Selects r) ∧
    (∀ name r, Register.ofName name = .ok r ↔ r.IsNamed name) ∧
    (∀ name, (∀ r : Register, ¬ r.IsNamed name) →
      b.getByName name = .error (.unknownName name) ∧
      ∀ v, b.setByName name v = .error (.unknownName name) ∧
        (b.write (.byName name v)).bytes = b.bytes) ∧
    (∀ index, 12 ≤ index.toNat →
      b.getByIndex index = .error (.indexOutOfRange index 12) ∧
      ∀ v, b.setByIndex index v = .error (.indexOutOfRange index 12) ∧
        (b.write (.byIndex index v)).bytes = b.bytes) := by
  intro b
  refine ⟨fun r => ?_, rfl, Vector.length_toList, isOk_result_iff b,
    fun name r => Register.ofName_eq_ok_iff, fun name unnamed => ?_, fun index beyond => ?_⟩
  · rw [← get_written]
    exact ⟨rfl, fun name => b.getByName_of_isNamed, b.getByIndex_index r, b.getElem?_toList r,
      b.getElem?_bytes r⟩
  · have refused := Register.ofName_eq_error_iff.mpr ⟨unnamed, rfl⟩
    have unset (v : UInt16) : b.setByName name v = .error (.unknownName name) := by
      rw [setByName, refused]
      rfl
    refine ⟨by rw [getByName, refused]; rfl, fun v => ⟨unset v, ?_⟩⟩
    rw [write, result, unset]
  · have refused := Register.ofIndex_eq_error_iff.mpr ⟨beyond, rfl⟩
    have unset (v : UInt16) : b.setByIndex index v = .error (.indexOutOfRange index 12) := by
      rw [setByIndex, refused]
      rfl
    refine ⟨by rw [getByIndex, refused]; rfl, fun v => ⟨unset v, ?_⟩⟩
    rw [write, result, unset]

/-- The accumulator by name and by index, in between a name and an index of no register. -/
theorem lookups_share_one_map_acc :
    let writes : List Write :=
      [.byName "\tacc " 7, .byName "r9" 1, .byIndex 12 9, .byIndex 1 0xABCD, .byName "a cc" 2]
    let b := zero.written writes
    b.getByName "Acc" = .ok 0xABCD ∧ b.bytes[2]? = some 0xAB ∧ b.bytes[3]? = some 0xCD ∧
      b.getByName "R9 " = .error (.unknownName "R9 ") ∧
      b.setByIndex 12 9 = .error (.indexOutOfRange 12 12) := by
  intro writes b
  obtain ⟨each, -, -, -, -, unnamed, beyond⟩ := lookups_share_one_map writes
  have last : lastWritten writes .acc = 0xABCD := by decide +kernel
  have named : Register.IsNamed .acc "Acc" := Register.ofName_eq_ok_iff.mp (by decide +kernel)
  have refused : Register.ofName "R9 " = .error (.unknownName "R9 ") := by decide +kernel
  obtain ⟨-, byName, -, -, high, low⟩ := each .acc
  rw [last] at byName high low
  exact ⟨byName "Acc" named, high, low,
    (unnamed "R9 " (Register.ofName_eq_error_iff.mp refused).1).1, ((beyond 12 (by decide)).2 9).1⟩

end WordMachine.RegisterBank
