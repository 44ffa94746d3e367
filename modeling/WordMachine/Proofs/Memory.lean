import WordMachine.Proofs.Instruction.Encoding
import WordMachine.Proofs.Machine.Effect

/-!
# Stored words

A stored word is shown where it was stored, and what memory shows apart from it stays.
-/

namespace WordMachine.Memory

variable {m : Memory} {addr : UInt16} {place : Nat}

/-- Storing a word changes no other place. -/
theorem getElem?_put16_of_ne (value : UInt16) (first : place ≠ addr.toNat)
    (second : place ≠ addr.toNat + 1) : (m.put16 addr value).bytes[place]? = m.bytes[place]? := by
  rw [put16, Array.getElem?_setIfInBounds_ne second.symm, Array.getElem?_setIfInBounds_ne first.symm]

theorem shows_put16 (holds : m.Holds addr 2) (value : UInt16) :
    (m.put16 addr value).Shows addr.toNat (Word.toBytes value) := by
  have last : addr.toNat + 1 < m.bytes.size := holds
  simp [shows_toBytes, put16, last, Nat.lt_of_succ_lt last]

theorem shows_iff_getElem? {bytes : Bytes} :
    m.Shows place bytes ↔ ∀ k (h : k < bytes.length), m.bytes[place + k]? = some bytes[k] := by
  rw [Shows, List.prefix_iff_getElem?]
  simp

/-- Bytes are shown by any memory that is the same there. -/
theorem Shows.congr {n : Memory} {bytes : Bytes} (h : m.Shows place bytes)
    (same : ∀ k < bytes.length, n.bytes[place + k]? = m.bytes[place + k]?) :
    n.Shows place bytes := by
  rw [shows_iff_getElem?] at h ⊢
  intro k hk
  rw [same k hk]
  exact h k hk

theorem Shows.put16 {bytes : Bytes} (h : m.Shows place bytes) (value : UInt16)
    (apart : addr.toNat + 2 ≤ place) : (m.put16 addr value).Shows place bytes :=
  h.congr fun k _ => getElem?_put16_of_ne value (by omega) (by omega)

/-- Words shown in a row are shown one by one. -/
theorem Shows.word {words : List UInt16} (h : m.Shows place (words.flatMap Word.toBytes)) {k : Nat}
    (hk : k < words.length) : m.Shows (place + 2 * k) (Word.toBytes words[k]) := by
  induction words generalizing place k with
  | nil => exact absurd hk (Nat.not_lt_zero k)
  | cons first rest ih =>
    rw [List.flatMap_cons, shows_append, Word.length_toBytes] at h
    cases k with
    | zero => exact h.1
    | succ k =>
      rw [Nat.mul_succ, Nat.add_comm _ 2, ← Nat.add_assoc]
      exact ih h.2 (Nat.lt_of_succ_lt_succ hk)

theorem read16_of_shows {value : UInt16} (h : m.Shows addr.toNat (Word.toBytes value)) :
    m.read16 addr = .ok value := by
  obtain ⟨first, second⟩ := shows_toBytes.mp h
  simp [read16, first, second]

theorem wordAt_of_shows {value : UInt16} (h : m.Shows addr.toNat (Word.toBytes value)) :
    m.wordAt addr = value := by
  obtain ⟨first, second⟩ := shows_toBytes.mp h
  simp [wordAt, Array.getD_eq_getD_getElem?, first, second]

end WordMachine.Memory
