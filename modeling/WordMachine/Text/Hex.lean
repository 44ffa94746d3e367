/-!
# Hexadecimal text

Numbers are written in upper-case digits with leading zeros up to a least width; a number that
needs more digits is written in full. Digits of either case are read.
-/

namespace WordMachine.Text.Hex

/-- The upper-case digit of a value below sixteen. -/
def digit (n : Nat) : Char := if n < 10 then Char.ofNat (48 + n) else Char.ofNat (55 + n)

/-- The digits of `n` without leading zeros, so none for zero. -/
def significant (n : Nat) : List Char :=
  if n = 0 then [] else significant (n / 16) ++ [digit (n % 16)]
termination_by n
decreasing_by omega

/-- The digits of `n`, at least `width` of them. -/
def padded : Nat → Nat → List Char
  | 0, n => significant n
  | width + 1, n => padded width (n / 16) ++ [digit (n % 16)]

/-- `n` in at least four digits. -/
def number (n : Nat) : String := String.ofList (padded 4 n)

def byte (b : UInt8) : String := String.ofList (padded 2 b.toNat)

def word (w : UInt16) : String := number w.toNat

/-- The value of a digit of either case. -/
def value? (c : Char) : Option Nat :=
  if '0' ≤ c ∧ c ≤ '9' then some (c.toNat - 48)
  else if 'A' ≤ c ∧ c ≤ 'F' then some (c.toNat - 55)
  else if 'a' ≤ c ∧ c ≤ 'f' then some (c.toNat - 87)
  else none

/-- The byte that a high and a low digit denote. -/
def pair? (hi lo : Char) : Option UInt8 :=
  match value? hi, value? lo with
  | some h, some l => some (UInt8.ofNat (16 * h + l))
  | _, _ => none

/-- Bytes as digit pairs with single spaces between them. -/
def spaced (bytes : List UInt8) : String := " ".intercalate (bytes.map byte)

@[simp] theorem value?_digit {n : Nat} (h : n < 16) : value? (digit n) = some n := by
  have all : ∀ n < 16, value? (digit n) = some n := by decide
  exact all n h

theorem toList_byte (b : UInt8) :
    (byte b).toList = [digit (b.toNat / 16), digit (b.toNat % 16)] := by
  have b_lt := b.toNat_lt
  have small : b.toNat / 16 / 16 = 0 := by omega
  have reduced : b.toNat / 16 % 16 = b.toNat / 16 := by omega
  simp [byte, padded, small, reduced, significant]

/-- The two digits that are written for a byte denote it. -/
theorem pair?_digits (b : UInt8) :
    pair? (digit (b.toNat / 16)) (digit (b.toNat % 16)) = some b := by
  have b_lt := b.toNat_lt
  have high : b.toNat / 16 < 16 := by omega
  have joined : 16 * (b.toNat / 16) + b.toNat % 16 = b.toNat := by omega
  simp [pair?, value?_digit high, value?_digit (Nat.mod_lt _ _), joined]

example : word 0x0A1F = "0A1F" ∧ byte 7 = "07" ∧ spaced [0xAB, 0] = "AB 00" := by decide +kernel

end WordMachine.Text.Hex
