import Mathlib
import WordMachine.Exchange

/-!
# JSON values that are read back

Numbers are written with digits only and arrays item by item, so that each is read back as what was
written.
-/

namespace WordMachine.Json

theorem nat?_ofNat {n bound : Nat} (h : n < bound) : (ofNat n).nat? bound = some n := by
  have digits : (toString n).toList.all Char.isDigit := by
    rw [Nat.toString_eq_ofList_toDigits, String.toList_ofList, List.all_eq_true]
    exact fun c => Nat.isDigit_of_mem_toDigits (by decide) (Nat.le_refl 10)
  have value : (toString n).toNat? = some n := Nat.toNat?_repr n
  simp only [ofNat, nat?, if_pos digits, value, if_pos h]

theorem byte?_ofNat (b : UInt8) : (ofNat b.toNat).byte? = some b := by
  rw [byte?, nat?_ofNat b.toNat_lt, Option.map_some, UInt8.ofNat_toNat]

theorem list?_arr_map {α : Type} {read? : Json → Option α} {write : α → Json}
    (back : ∀ a, read? (write a) = some a) (as : List α) :
    (arr (as.map write)).list? read? = some as := by
  rw [list?]
  induction as with
  | nil => rfl
  | cons a as ih => simp [back, ih]

end WordMachine.Json
