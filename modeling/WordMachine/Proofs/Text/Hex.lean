import WordMachine.Proofs.Image.Grammar

/-!
# Written numbers

A number is written in hexadecimal digits and nothing else. No two numbers are written alike,
whether with leading zeros or without.
-/

namespace WordMachine.Text.Hex

/-! ## Digits that are written -/

theorem isDigit_digit {n : Nat} (h : n < 16) : IsDigit (digit n) n :=
  isDigit_of_value? (value?_digit h)

theorem isDigit_of_mem_significant {n : Nat} {c : Char} (h : c ∈ significant n) :
    ∃ k, IsDigit c k := by
  induction n using Nat.strongRecOn with
  | ind n ih =>
    rw [significant] at h
    split at h
    case isTrue => cases h
    case isFalse positive =>
      rcases List.mem_append.mp h with front | last
      · exact ih (n / 16) (by omega) front
      · obtain rfl := List.mem_singleton.mp last
        exact ⟨_, isDigit_digit (Nat.mod_lt n (by decide))⟩

theorem isDigit_of_mem_padded {width n : Nat} {c : Char} (h : c ∈ padded width n) :
    ∃ k, IsDigit c k := by
  induction width generalizing n with
  | zero => exact isDigit_of_mem_significant h
  | succ width ih =>
    rcases List.mem_append.mp h with front | last
    · exact ih front
    · obtain rfl := List.mem_singleton.mp last
      exact ⟨_, isDigit_digit (Nat.mod_lt n (by decide))⟩

/-! ## Numbers that are read off -/

/-- The last digit gives a remainder, and the digits before it are told apart from it. -/
theorem concat_digit_inj {front front' : List Char} {n k : Nat}
    (h : front ++ [digit (n % 16)] = front' ++ [digit (k % 16)]) :
    front = front' ∧ n % 16 = k % 16 := by
  obtain ⟨same, last⟩ := List.append_singleton_inj.mp h
  have values := congrArg value? last
  rw [value?_digit (Nat.mod_lt n (by decide)), value?_digit (Nat.mod_lt k (by decide))] at values
  exact ⟨same, Option.some.inj values⟩

theorem significant_of_pos {n : Nat} (pos : 0 < n) :
    significant n = significant (n / 16) ++ [digit (n % 16)] := by
  rw [significant, if_neg (Nat.ne_of_gt pos)]

theorem significant_eq_nil_iff {n : Nat} : significant n = [] ↔ n = 0 := by
  constructor
  · intro none
    by_contra pos
    simp [significant_of_pos (Nat.pos_of_ne_zero pos)] at none
  · rintro rfl
    rw [significant, if_pos rfl]

theorem significant_inj {n k : Nat} (h : significant n = significant k) : n = k := by
  induction n using Nat.strongRecOn generalizing k with
  | ind n ih =>
    rcases Nat.eq_zero_or_pos n with rfl | hn
    · exact (significant_eq_nil_iff.mp (h.symm.trans (significant_eq_nil_iff.mpr rfl))).symm
    · rcases Nat.eq_zero_or_pos k with rfl | hk
      · exact significant_eq_nil_iff.mp (h.trans (significant_eq_nil_iff.mpr rfl))
      · rw [significant_of_pos hn, significant_of_pos hk] at h
        obtain ⟨front, last⟩ := concat_digit_inj h
        have rest := ih (n / 16) (by omega) front
        omega

theorem padded_inj {width n k : Nat} (h : padded width n = padded width k) : n = k := by
  induction width generalizing n k with
  | zero => exact significant_inj h
  | succ width ih =>
    obtain ⟨front, last⟩ := concat_digit_inj h
    have rest := ih front
    omega

theorem byte_inj {b c : UInt8} (h : byte b = byte c) : b = c :=
  UInt8.toNat.inj (padded_inj (String.ofList_injective h))

theorem word_inj {v w : UInt16} (h : word v = word w) : v = w :=
  UInt16.toNat.inj (padded_inj (String.ofList_injective h))

end WordMachine.Text.Hex
