/-!
# Words and their two bytes

A word has sixteen bits and is stored with its high byte first. Splitting a word and joining two
bytes are inverse to each other.
-/

namespace WordMachine

/-- A byte sequence: an image, an encoding or a stretch of memory. -/
abbrev Bytes := List UInt8

namespace Word

def high (w : UInt16) : UInt8 := UInt8.ofNat (w.toNat / 256)

def low (w : UInt16) : UInt8 := UInt8.ofNat w.toNat

/-- The word with high byte `hi` and low byte `lo`. -/
def ofBytes (hi lo : UInt8) : UInt16 := UInt16.ofNat (256 * hi.toNat + lo.toNat)

/-- The two bytes of a word in storage order. -/
def toBytes (w : UInt16) : Bytes := [high w, low w]

@[simp] theorem toNat_ofBytes (hi lo : UInt8) :
    (ofBytes hi lo).toNat = 256 * hi.toNat + lo.toNat := by
  have hi_lt := hi.toNat_lt
  have lo_lt := lo.toNat_lt
  simp only [ofBytes, UInt16.toNat_ofNat']
  omega

@[simp] theorem toNat_high (w : UInt16) : (high w).toNat = w.toNat / 256 := by
  have w_lt := w.toNat_lt
  simp only [high, UInt8.toNat_ofNat']
  omega

@[simp] theorem toNat_low (w : UInt16) : (low w).toNat = w.toNat % 256 := by
  simp [low]

@[simp] theorem ofBytes_high_low (w : UInt16) : ofBytes (high w) (low w) = w := by
  apply UInt16.toNat.inj
  simp only [toNat_ofBytes, toNat_high, toNat_low]
  omega

@[simp] theorem high_ofBytes (hi lo : UInt8) : high (ofBytes hi lo) = hi := by
  apply UInt8.toNat.inj
  have lo_lt := lo.toNat_lt
  simp only [toNat_ofBytes, toNat_high]
  omega

@[simp] theorem low_ofBytes (hi lo : UInt8) : low (ofBytes hi lo) = lo := by
  apply UInt8.toNat.inj
  have lo_lt := lo.toNat_lt
  simp only [toNat_ofBytes, toNat_low]
  omega

/-- A word is joined from its two bytes only. -/
theorem ofBytes_eq_iff {hi lo : UInt8} {w : UInt16} :
    ofBytes hi lo = w ↔ hi = high w ∧ lo = low w := by
  constructor
  · rintro rfl
    simp
  · rintro ⟨rfl, rfl⟩
    exact ofBytes_high_low w

@[simp] theorem length_toBytes (w : UInt16) : (toBytes w).length = 2 := rfl

end Word

end WordMachine
