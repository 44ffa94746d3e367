import WordMachine.Proofs.Machine.Effect
import WordMachine.Proofs.Instruction.Encoding
import WordMachine.Readout

/-!
# Bounds of accesses

An access succeeds exactly if all its bytes lie inside memory, however wide it is: address and width
are added as numbers without bound. A readout is cut at the end of memory instead.

The address after an access is the exception. It is exact and refused where it should be as long as
the sum is a 64-bit number, but a width close to the largest one aborts the run.
-/

namespace WordMachine.Memory

variable {m : Memory} {addr next : UInt16} {count : Nat} {bytes : Bytes} {width : UInt64}
  {e : MemoryError}

/-! ## Bytes and words -/

theorem isOk_ite {ε α : Type} {c : Prop} [Decidable c] {a : α} {e : ε} :
    (if c then .ok a else .error e : Except ε α).isOk ↔ c := by
  split <;> simp [*, Except.isOk, Except.toBool]

theorem isOk_read8_iff : (m.read8 addr).isOk ↔ m.Holds addr 1 := by
  by_cases holds : m.Holds addr 1
  · simp [read8_eq_ok holds, holds, Except.isOk, Except.toBool]
  · simp [read8_eq_error holds, holds, Except.isOk, Except.toBool]

theorem isOk_read16_iff : (m.read16 addr).isOk ↔ m.Holds addr 2 := by
  rw [read16_eq, isOk_ite]

theorem isOk_write8_iff (value : UInt8) : (m.write8 addr value).isOk ↔ m.Holds addr 1 := by
  rw [write8, isOk_ite]

theorem isOk_write16_iff (value : UInt16) : (m.write16 addr value).isOk ↔ m.Holds addr 2 := by
  rw [write16, isOk_ite]

/-! ## Windows and readouts -/

theorem length_slice (holds : m.Holds addr count) : (m.slice addr.toNat count).length = count := by
  simp only [Holds, size] at holds
  simp only [slice, Array.length_toList, Array.size_extract]
  omega

/-- A slice inside memory is shown there. -/
theorem shows_slice (holds : m.Holds addr count) : m.Shows addr.toNat (m.slice addr.toNat count) :=
  slice_eq_iff_shows.mp (congrArg _ (length_slice holds))

theorem window_eq (m : Memory) (addr : UInt16) (count : Nat) :
    m.window addr count =
      if m.Holds addr count then .ok (m.slice addr.toNat count) else .error (m.fault addr count) :=
  rfl

/-- A window is as many bytes as were asked for, as they are in memory. -/
theorem window_eq_ok_iff :
    m.window addr count = .ok bytes ↔
      m.Holds addr count ∧ bytes.length = count ∧ m.Shows addr.toNat bytes := by
  rw [window_eq]
  split
  case isTrue holds =>
    rw [Except.ok.injEq]
    constructor
    · rintro rfl
      exact ⟨holds, length_slice holds, shows_slice holds⟩
    · rintro ⟨-, rfl, shown⟩
      exact slice_eq_iff_shows.mpr shown
  case isFalse outside => simp [outside]

/-- A line that shows an address and the bytes from there on. -/
def readoutLine (addr : UInt16) (bytes : Bytes) : String :=
  let cells := " | ".intercalate (bytes.map fun byte => s!"0x{Text.Hex.byte byte}")
  s!"0x{Text.Hex.word addr} ⇥ {cells} ⇤"

theorem readout_eq (m : Memory) (addr : UInt16) (count : Nat) :
    m.readout addr count =
      if addr.toNat < m.size then
        .ok (readoutLine addr (m.slice addr.toNat (min count (m.size - addr.toNat))))
      else .error (m.fault addr count) := by
  by_cases inside : addr.toNat < m.size
  · have some : m.size - addr.toNat ≠ 0 := by omega
    have holds : m.Holds addr (min count (m.size - addr.toNat)) := by
      simp only [Holds]
      omega
    simp [readout, readoutLine, window_eq, inside, some, holds, bind, Except.bind, pure,
      Except.pure]
  · have none : m.size - addr.toNat = 0 := by omega
    simp [readout, inside, none, bind, Except.bind, throw, throwThe, MonadExceptOf.throw]

/-! ## The address after an access -/

theorem addressAfter_eq_ok_iff :
    addressAfter addr count = .ok next ↔ next.toNat = addr.toNat + count := by
  have next_lt := next.toNat_lt
  by_cases low : addr.toNat + count ≤ 65535
  · rw [addressAfter, if_pos low, Except.ok.injEq, ← UInt16.toNat_inj,
      UInt16.toNat_ofNat_of_lt' (Nat.lt_succ_of_le low), eq_comm]
  · rw [addressAfter, if_neg low]
    exact iff_of_false (by simp) (by omega)

theorem addressAfter_eq_error_iff :
    addressAfter addr count = .error e ↔
      65535 < addr.toNat + count ∧ e = .addressOverflow addr count := by
  by_cases low : addr.toNat + count ≤ 65535
  · rw [addressAfter, if_pos low]
    exact iff_of_false (by simp) fun h => Nat.not_lt.mpr low h.1
  · rw [addressAfter, if_neg low, Except.error.injEq, eq_comm]
    exact (and_iff_right (Nat.not_le.mp low)).symm

/-- An address that is reached is the sum, which is then a 64-bit number anyway. -/
theorem nextAddress_eq_reached_iff :
    nextAddress addr width = .reached next ↔ next.toNat = addr.toNat + width.toNat := by
  have next_lt := next.toNat_lt
  rw [← addressAfter_eq_ok_iff, nextAddress]
  split
  case isTrue => cases addressAfter addr width.toNat <;> simp
  case isFalse carry =>
    have size : UInt64.size = 18446744073709551616 := rfl
    rw [addressAfter_eq_ok_iff]
    exact iff_of_false nofun (by omega)

theorem nextAddress_eq_refused_iff :
    nextAddress addr width = .refused e ↔
      (65535 < addr.toNat + width.toNat ∧ addr.toNat + width.toNat < UInt64.size) ∧
        e = .addressOverflow addr width.toNat := by
  rw [and_right_comm, ← addressAfter_eq_error_iff, nextAddress]
  split
  case isTrue fits => cases addressAfter addr width.toNat <;> simp [fits]
  case isFalse carry => simp [carry]

theorem nextAddress_eq_aborted_iff :
    nextAddress addr width = .aborted ↔ UInt64.size ≤ addr.toNat + width.toNat := by
  rw [nextAddress]
  split
  case isTrue fits =>
    cases addressAfter addr width.toNat <;> exact iff_of_false nofun (Nat.not_le.mpr fits)
  case isFalse carry => exact iff_of_true rfl (Nat.not_lt.mp carry)

/-- Accesses are refused exactly if integers say that they leave memory, and a window or a readout
shows the bytes that are there. The address after an access is the sum if that is an address at all,
and is refused otherwise, but for a sum that is no 64-bit number: there the run is aborted. -/
theorem accesses_exact (m : Memory) (addr : UInt16) :
    ((m.read8 addr).isOk ↔ addr.toNat + 1 ≤ m.size) ∧
    (∀ value, (m.write8 addr value).isOk ↔ addr.toNat + 1 ≤ m.size) ∧
    ((m.read16 addr).isOk ↔ addr.toNat + 2 ≤ m.size) ∧
    (∀ value, (m.write16 addr value).isOk ↔ addr.toNat + 2 ≤ m.size) ∧
    ∀ width : UInt64,
      let sum := addr.toNat + width.toNat
      let rest := m.size - addr.toNat
      ((m.window addr width.toNat).isOk ↔ sum ≤ m.size) ∧
      (∀ bytes, m.window addr width.toNat = .ok bytes ↔
        sum ≤ m.size ∧ bytes.length = width.toNat ∧ m.Shows addr.toNat bytes) ∧
      (∀ e, m.readout addr width.toNat = .error e ↔
        m.size ≤ addr.toNat ∧ e = m.fault addr width.toNat) ∧
      (addr.toNat < m.size → ∃ bytes, bytes.length = min width.toNat rest ∧
        m.Shows addr.toNat bytes ∧ m.readout addr width.toNat = .ok (readoutLine addr bytes)) ∧
      (∀ next, nextAddress addr width = .reached next ↔ next.toNat = sum) ∧
      (∀ e, nextAddress addr width = .refused e ↔
        (65535 < sum ∧ sum < UInt64.size) ∧ e = .addressOverflow addr width.toNat) ∧
      (nextAddress addr width = .aborted ↔ UInt64.size ≤ sum) := by
  refine ⟨isOk_read8_iff, isOk_write8_iff, isOk_read16_iff, isOk_write16_iff, ?_⟩
  intro width sum rest
  refine ⟨?_, fun bytes => window_eq_ok_iff, ?_, ?_, fun next => nextAddress_eq_reached_iff,
    fun e => nextAddress_eq_refused_iff, nextAddress_eq_aborted_iff⟩
  · rw [window_eq, isOk_ite]
    rfl
  · intro e
    rw [readout_eq]
    split
    case isTrue inside => simp [Nat.not_le.mpr inside]
    case isFalse outside => simp [Nat.not_lt.mp outside, eq_comm]
  · intro inside
    have holds : m.Holds addr (min width.toNat rest) := by
      simp only [Holds]
      omega
    refine ⟨m.slice addr.toNat (min width.toNat rest), length_slice holds, shows_slice holds, ?_⟩
    rw [readout_eq, if_pos inside]

/-- A window that ends with memory and a readout that is cut there, the last address and one too
high, and a sum one too high for 64 bits. -/
theorem accesses_exact_edge :
    let m : Memory := ⟨#[0x00, 0x03]⟩
    m.window 1 1 = .ok [0x03] ∧
      (∃ bytes, bytes.length = 1 ∧ m.Shows 1 bytes ∧
        m.readout 1 8 = .ok (readoutLine 1 bytes)) ∧
      nextAddress 1 65534 = .reached 65535 ∧
      nextAddress 1 65535 = .refused (.addressOverflow 1 65535) ∧
      nextAddress 1 18446744073709551615 = .aborted := by
  intro m
  obtain ⟨-, -, -, -, exact⟩ := accesses_exact m 1
  obtain ⟨-, window, -⟩ := exact 1
  obtain ⟨-, -, -, readout, -⟩ := exact 8
  obtain ⟨-, -, -, -, reached, -⟩ := exact 65534
  obtain ⟨-, -, -, -, -, refused, -⟩ := exact 65535
  obtain ⟨-, -, -, -, -, -, aborted⟩ := exact 18446744073709551615
  exact ⟨(window [0x03]).mpr ⟨by decide, rfl, by simp [m]⟩, readout (by decide),
    (reached 65535).mpr rfl, (refused _).mpr ⟨by decide, rfl⟩, aborted.mpr (by decide)⟩

/-- The widest access of all goes far beyond the last address, and is not refused for it. -/
theorem nextAddress_of_widest :
    (65535 : Nat) < (1 : UInt16).toNat + (18446744073709551615 : UInt64).toNat ∧
      nextAddress 1 18446744073709551615 = .aborted ∧
      ¬ ∃ e, nextAddress 1 18446744073709551615 = .refused e := by
  have aborted : nextAddress 1 18446744073709551615 = .aborted := by decide
  exact ⟨by decide, aborted, by rintro ⟨e, refused⟩; cases aborted ▸ refused⟩

end WordMachine.Memory
