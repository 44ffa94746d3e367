import Mathlib.Data.List.TakeWhile
import WordMachine.Proofs.Listing.Sweep

/-!
# Listings of images

The listing of an image shows the bytes of the image and no others. A memory has two bytes at least,
so an image of a single byte is listed with a zero behind it. Where that byte is the opcode of a
two-byte instruction, the zero is taken for its operand.
-/

namespace WordMachine

/-- The lines show exactly the image, and decode nothing else. -/
structure ShowsImage (image : Bytes) (lines : List Line) : Prop where
  bytes : lines.flatMap Line.bytes = image
  /-- The address of a line is the number of bytes before it. -/
  addr : ∀ k (hk : k < lines.length),
    lines[k].addr.toNat = ((lines.take k).flatMap Line.bytes).length
  decoded : ∀ line ∈ lines, ∀ i, line.instruction = some i → line.bytes = i.encode

namespace Memory

/-- The memory in which an image is read. -/
def ofImage (image : Bytes) : Memory := ⟨(image ++ List.replicate (2 - image.length) 0).toArray⟩

theorem size_ofImage (image : Bytes) : (ofImage image).size = max image.length 2 := by
  simp only [size, ofImage, List.size_toArray, List.length_append, List.length_replicate]
  omega

theorem put_zeros (image : Bytes) :
    (zeros (max image.length minSize)).put 0 image = ofImage image := by
  have rest : max image.length 2 - image.length = 2 - image.length := by omega
  simp [put, zeros, ofImage, minSize, rest]

theorem install_ofSize {image : Bytes} (fits : image.length ≤ 65536) :
    (do (← Memory.ofSize (max image.length minSize)).install image : Except MemoryError Memory) =
      .ok (ofImage image) := by
  have allowed : minSize ≤ max image.length minSize ∧ max image.length minSize ≤ maxSize := by
    simp only [minSize, maxSize]
    omega
  have room : ¬ image.length > (zeros (max image.length minSize)).size := by
    rw [size_zeros]
    omega
  rw [Memory.ofSize, if_pos allowed]
  simp only [bind, Except.bind, install, if_neg room, put_zeros]

end Memory

theorem programLines_eq {image : Bytes} (fits : image.length ≤ 65536) :
    programLines image =
      .ok (((Memory.ofImage image).sweep 0 image.length).takeWhile
        fun line => line.addr.toNat < image.length) := by
  have small : ¬ image.length > Memory.maxSize := Nat.not_lt.mpr fits
  rw [programLines]
  simp only [if_neg small, Memory.install_ofSize fits]
  rfl

theorem programLines_eq_error {image : Bytes} (long : 65536 < image.length) :
    programLines image = .error (.memoryFault (.programTooLarge image.length 65536)) := by
  have large : image.length > Memory.maxSize := long
  rw [programLines]
  simp only [if_pos large]
  rfl

theorem listing_eq {image : Bytes} {lines : List Line} (h : programLines image = .ok lines) :
    listing image = .ok (listingHeader ++ Text.unlines (lines.map Line.display)) := by
  rw [listing, h]
  rfl

/-! ## Images of two bytes or more -/

theorem showsImage_of_tiles {image : Bytes} {lines : List Line} (fits : image.length ≤ 65536)
    (h : Memory.Tiles ⟨image.toArray⟩ 0 lines image.length) : ShowsImage image lines where
  bytes := by
    have shown := h.shows fits
    have length := h.stop_eq
    rw [Nat.zero_add] at length
    exact shown.eq_of_length length.symm
  addr k hk := by simpa using h.addr_getElem fits hk
  decoded line listed i decodes := by
    obtain ⟨-, line_eq⟩ := h.eq_lineAt fits listed
    rw [line_eq, Memory.instruction_lineAt] at decodes
    cases found : Memory.instructionAt ⟨image.toArray⟩ line.addr with
    | error e => simp [found, Except.toOption] at decodes
    | ok j =>
      obtain rfl : j = i := by simpa [found, Except.toOption] using decodes
      rw [line_eq, Memory.lineAt_of_decoded found]

theorem showsImage_of_two_le {image : Bytes} (two : 2 ≤ image.length)
    (fits : image.length ≤ 65536) :
    ∃ lines, programLines image = .ok lines ∧ ShowsImage image lines := by
  have unpadded : Memory.ofImage image = ⟨image.toArray⟩ := by
    simp [Memory.ofImage, Nat.sub_eq_zero_of_le two]
  let memory : Memory := ⟨image.toArray⟩
  have tiles : memory.Tiles (0 : UInt16).toNat (memory.sweep 0 memory.size) memory.size :=
    Memory.sweep_all (m := memory) fits (Nat.zero_le _)
  have inside : ∀ line ∈ memory.sweep 0 image.length,
      decide (line.addr.toNat < image.length) = true :=
    fun line listed => decide_eq_true (tiles.eq_lineAt fits listed).1
  refine ⟨memory.sweep 0 image.length, ?_, showsImage_of_tiles fits tiles⟩
  rw [programLines_eq fits, unpadded, List.takeWhile_eq_self_iff.mpr inside]

/-! ## Images of one byte -/

theorem programLines_singleton (byte : UInt8) :
    programLines [byte] = .ok [(Memory.ofImage [byte]).lineAt 0] := by
  rw [programLines_eq (by simp)]
  simp [Memory.sweep, Memory.sweepFrom, Memory.size_ofImage]

/-- The zero behind a single byte is an operand for two of the opcodes. -/
theorem instructionAt_ofImage_singleton (byte : UInt8) :
    (∃ i, (Memory.ofImage [byte]).instructionAt 0 = .ok i) ↔
      byte = Opcode.pshReg.byte ∨ byte = Opcode.pop.byte := by
  constructor
  · rintro ⟨i, decoded⟩
    have shown : i.encode <+: [byte, 0] := (Memory.instructionAt_eq_ok_iff.mp decoded).1
    have first : i.opcode.byte = byte := (List.cons_prefix_cons.mp shown).1
    have short : i.size ≤ 2 := i.length_encode ▸ shown.length_le
    cases i with
    | pshReg reg => exact .inl first.symm
    | pop reg => exact .inr first.symm
    | _ => simp [Instruction.size, Instruction.opcode, Opcode.size] at short
  · rintro (rfl | rfl)
    · exact ⟨.pshReg .ip, rfl⟩
    · exact ⟨.pop .ip, rfl⟩

theorem showsImage_singleton_iff (byte : UInt8) :
    ShowsImage [byte] [(Memory.ofImage [byte]).lineAt 0] ↔
      byte ≠ Opcode.pshReg.byte ∧ byte ≠ Opcode.pop.byte := by
  rw [← not_or, ← instructionAt_ofImage_singleton]
  constructor
  · -- An instruction shows two bytes at least.
    rintro shows ⟨i, decoded⟩
    have bytes : i.encode = [byte] := by
      simpa [Memory.lineAt_of_decoded decoded] using shows.bytes
    have length := congrArg List.length bytes
    rw [i.length_encode, List.length_singleton] at length
    have two := i.two_le_size
    omega
  · intro undecoded
    cases found : (Memory.ofImage [byte]).instructionAt 0 with
    | ok i => exact absurd ⟨i, found⟩ undecoded
    | error e =>
      have line : (Memory.ofImage [byte]).lineAt 0 = ⟨0, [byte], none⟩ :=
        Memory.lineAt_of_undecoded found (Nat.zero_lt_two)
      rw [line]
      refine ⟨rfl, ?_, ?_⟩
      · intro k hk
        obtain rfl : k = 0 := by simpa using hk
        rfl
      · simp

/-- Every image has a listing, unless it is larger than the address space. The listing shows exactly
the image, but for an image that is a single opcode byte of a two-byte instruction. -/
theorem listing_shows_image (image : Bytes) :
    (image.length ≤ 65536 →
      ∃ lines, programLines image = .ok lines ∧
        listing image = .ok (listingHeader ++ Text.unlines (lines.map Line.display)) ∧
        (ShowsImage image lines ↔
          image ≠ [Opcode.pshReg.byte] ∧ image ≠ [Opcode.pop.byte])) ∧
    (65536 < image.length →
      listing image = .error (.memoryFault (.programTooLarge image.length 65536))) := by
  constructor
  · intro fits
    match image with
    | [] =>
      have empty : programLines [] = .ok [] := programLines_eq fits
      refine ⟨[], empty, listing_eq empty, iff_of_true ⟨rfl, ?_, ?_⟩ (by simp)⟩
      · intro k hk
        exact absurd hk (Nat.not_lt_zero k)
      · simp
    | [byte] =>
      have single := programLines_singleton byte
      refine ⟨_, single, listing_eq single, ?_⟩
      rw [showsImage_singleton_iff]
      simp
    | first :: second :: rest =>
      obtain ⟨lines, shown, shows⟩ := showsImage_of_two_le (by simp) fits
      exact ⟨lines, shown, listing_eq shown, iff_of_true shows (by simp)⟩
  · intro long
    rw [listing, programLines_eq_error long]
    rfl

/-- An instruction that the end of the image cuts off is data, and one byte more than the address
space is too much. -/
theorem listing_shows_image_cut :
    let cut : Bytes := [0x18, 0x0A, 0x10]
    let long : Bytes := List.replicate 65537 0
    cut.length ≤ 65536 ∧ (∃ lines, programLines cut = .ok lines ∧ ShowsImage cut lines) ∧
      65536 < long.length ∧
      listing long = .error (.memoryFault (.programTooLarge 65537 65536)) := by
  intro cut long
  have length : long.length = 65537 := List.length_replicate
  have larger : 65536 < long.length := by omega
  obtain ⟨lines, shown, -, exact⟩ := (listing_shows_image cut).1 (by decide)
  have refused := (listing_shows_image long).2 larger
  rw [length] at refused
  exact ⟨by decide, ⟨lines, shown, exact.mpr (by decide)⟩, larger, refused⟩

/-- The listing of a lone `POP` opcode shows a byte that the image does not have, as an operand. -/
theorem listing_of_lone_pop :
    programLines [0x1A] = .ok [⟨0, [0x1A, 0x00], some (.pop .ip)⟩] ∧
      ¬ ∃ lines, programLines [0x1A] = .ok lines ∧ ShowsImage [0x1A] lines := by
  have shown : programLines [0x1A] = .ok [⟨0, [0x1A, 0x00], some (.pop .ip)⟩] := by
    decide +kernel
  refine ⟨shown, ?_⟩
  rintro ⟨lines, shown', shows⟩
  rw [shown] at shown'
  cases shown'
  exact absurd shows.bytes (by decide)

end WordMachine
