import WordMachine.Assembly
import WordMachine.Proofs.Listing.Sweep
import WordMachine.Proofs.Memory.Load

/-!
# Assembled programs

No encoding begins another one, so an image tells which instructions it was assembled from. Where a
memory holds the image from address 0 on, a sweep reads the instructions back: each begins where
those before it end, which is where it was put.
-/

namespace WordMachine

/-- No two programs have the same image. -/
theorem Instruction.flatMap_encode_injective : Function.Injective (List.flatMap encode) := by
  intro code code' same
  induction code generalizing code' with
  | nil => cases code' <;> grind [encode]
  | cons i code ih =>
    cases code' with
    | nil => grind [encode]
    | cons j rest =>
      simp only [List.flatMap_cons] at same
      obtain rfl : i = j := encode_prefix_unique ⟨_, same⟩ ⟨_, rfl⟩
      rw [ih (List.append_cancel_left same)]

namespace Assembly

theorem size_eq (a : Assembly) : a.size = a.toBytes.length := Array.length_toList.symm

theorem size_ofList (code : List Instruction) :
    (ofList code).size = (code.flatMap Instruction.encode).length := by
  rw [size_eq, toBytes_ofList]

/-- A part of a program ends at an address if the program does. -/
theorem here?_take {code : List Instruction} (fits : (ofList code).size ≤ 65535) (k : Nat) :
    (ofList (code.take k)).here? = some (UInt16.ofNat (ofList (code.take k)).size) := by
  have whole : (ofList code).size = (ofList (code.take k)).size + (ofList (code.drop k)).size := by
    simp only [size_ofList, ← List.length_append, ← List.flatMap_append, List.take_append_drop]
  exact if_pos (by omega)

/-! ## The lines of a program -/

/-- The lines of a program whose first instruction is at `place`. -/
def lines (place : Nat) : List Instruction → List Line
  | [] => []
  | i :: rest => ⟨UInt16.ofNat place, i.encode, some i⟩ :: lines (place + i.size) rest

variable {m : Memory} {code : List Instruction} {place : Nat}

@[simp] theorem length_lines : (lines place code).length = code.length := by
  fun_induction lines place code <;> grind

@[simp] theorem map_instruction_lines :
    (lines place code).map Line.instruction = code.map some := by
  fun_induction lines place code <;> grind

@[simp] theorem map_bytes_lines :
    (lines place code).map Line.bytes = code.map Instruction.encode := by
  fun_induction lines place code <;> grind

/-- An instruction is where those before it end. -/
theorem addr_lines {k : Nat} (hk : k < (lines place code).length) :
    (lines place code)[k].addr = UInt16.ofNat (place + (ofList (code.take k)).size) := by
  fun_induction lines place code generalizing k with
  | case1 => exact absurd hk (Nat.not_lt_zero k)
  | case2 place i rest ih =>
    cases k with
    | zero => rfl
    | succ k => simp [ih, size_ofList, Instruction.length_encode, Nat.add_assoc]

/-- Where memory shows an image that ends at an address, its instructions are decoded. -/
theorem tiles_lines (shown : m.Shows place (code.flatMap Instruction.encode))
    (ends : place + (ofList code).size ≤ 65535) :
    m.Tiles place (lines place code) (place + (ofList code).size) := by
  rw [size_ofList] at ends ⊢
  induction code generalizing place with
  | nil => exact .nil place
  | cons i code ih =>
    simp only [List.flatMap_cons, List.length_append, i.length_encode] at shown ends ⊢
    obtain ⟨first, rest⟩ := Memory.shows_append.mp shown
    have positive := i.size_pos
    have inside := first.length_le (i.length_encode ▸ positive)
    have address : (UInt16.ofNat place).toNat = place :=
      UInt16.toNat_ofNat_of_lt' (by simp only [UInt16.size]; omega)
    have decoded : m.instructionAt (UInt16.ofNat place) = .ok i :=
      Memory.instructionAt_eq_ok_iff.mpr ⟨address.symm ▸ first, by omega⟩
    have line := Memory.lineAt_of_decoded decoded
    rw [i.length_encode] at inside rest
    rw [lines, ← line, ← Nat.add_assoc]
    refine .cons (by omega) ?_
    rw [line, i.length_encode]
    exact ih rest (by omega)

/-- The instructions of a program at address 0 are decoded where they begin. -/
theorem instructionAt_of_shows (shown : m.Shows 0 (code.flatMap Instruction.encode)) {k : Nat}
    (hk : k < code.length) (fits : (ofList (code.take k)).size + code[k].size ≤ 65535) :
    m.instructionAt (UInt16.ofNat (ofList (code.take k)).size) = .ok code[k] := by
  have address : (UInt16.ofNat (ofList (code.take k)).size).toNat = (ofList (code.take k)).size :=
    UInt16.toNat_ofNat_of_lt' (by simp only [UInt16.size]; omega)
  rw [← List.take_append_drop k code, List.drop_eq_getElem_cons hk, List.flatMap_append,
    List.flatMap_cons, Memory.shows_append, Memory.shows_append, Nat.zero_add,
    ← size_ofList] at shown
  exact Memory.instructionAt_eq_ok_iff.mpr ⟨address.symm ▸ shown.2.1, address.symm ▸ fits⟩

theorem sweep_eq_lines (small : m.size ≤ 65536) {start : UInt16}
    (shown : m.Shows start.toNat (code.flatMap Instruction.encode))
    (ends : start.toNat + (ofList code).size ≤ 65535) :
    m.sweep start code.length = lines start.toNat code := by
  have swept := Memory.sweepFrom_eq_take small (tiles_lines shown ends)
    (.inl (Nat.le_of_eq length_lines.symm)) #[]
  simpa [Memory.sweep, List.take_of_length_le] using swept

/-- The last line of a program ends with its image. -/
theorem end_of_getLast? (small : m.size ≤ 65536)
    (shown : m.Shows place (code.flatMap Instruction.encode))
    (ends : place + (ofList code).size ≤ 65535) {last : Line}
    (is : (lines place code).getLast? = some last) :
    last.addr.toNat + last.bytes.length = place + (ofList code).size := by
  rw [List.getLast?_eq_getElem?] at is
  obtain ⟨inside, rfl⟩ := List.getElem?_eq_some_iff.mp is
  have next := (tiles_lines shown ends).addr_next small inside
  rwa [Nat.sub_add_cancel (by omega), List.getElem?_eq_none (Nat.le_refl _)] at next

/-! ## Reading back -/

/-- Instructions that are assembled and loaded are listed as they were written, each at the address
that was free when it was appended, up to the end of the image. So nothing is lost on the way to
bytes, and even without a memory that could hold it an image has one program only. -/
theorem assembled_program_reads_back (code : List Instruction) :
    let a := ofList code
    (a.size ≤ 65535 → ∀ m : Memory, a.size ≤ m.size → m.size ≤ 65536 →
      ∃ n, m.load 0 a.toBytes = .placed n ∧ n.size = m.size ∧
        let listed := n.sweep 0 code.length
        listed.map Line.instruction = code.map some ∧
        listed.map Line.bytes = code.map Instruction.encode ∧
        listed.map (fun line => some line.addr) =
          (List.range code.length).map (fun k => (ofList (code.take k)).here?) ∧
        ∀ last, listed.getLast? = some last →
          last.addr.toNat + last.bytes.length = a.size) ∧
    ∀ code', (ofList code').toBytes = a.toBytes → code' = code := by
  intro a
  refine ⟨fun fits m room small => ?_, fun code' same => ?_⟩
  · have inside : (0 : UInt16).toNat + a.toBytes.length ≤ m.size := by simpa [size_eq] using room
    have loaded : m.load 0 a.toBytes = .placed (m.put 0 a.toBytes) := by
      rw [Memory.load_eq, if_pos inside]
      rfl
    have placed := Memory.hasPlaced_put inside
    have small' : (m.put 0 a.toBytes).size ≤ 65536 := placed.size.symm ▸ small
    have shown : (m.put 0 a.toBytes).Shows (0 : UInt16).toNat
        (code.flatMap Instruction.encode) := toBytes_ofList code ▸ placed.shows
    have ends : (0 : UInt16).toNat + (ofList code).size ≤ 65535 := by simpa using fits
    refine ⟨_, loaded, placed.size, ?_⟩
    rw [sweep_eq_lines small' shown ends]
    refine ⟨map_instruction_lines, map_bytes_lines, ?_, fun last is => ?_⟩
    · refine List.ext_getElem (by simp) fun k hk _ => ?_
      simp [addr_lines, here?_take fits]
    · simpa using end_of_getLast? small' shown ends is
  · apply Instruction.flatMap_encode_injective
    simpa [a] using same

/-- A jump and a pop in front of bytes that are no part of the program. -/
theorem assembled_program_reads_back_jump :
    let code : List Instruction := [.jmpNotEq 3 0, .pop .r1]
    let a := ofList code
    let m : Memory := ⟨Array.replicate 9 0x17⟩
    a.size ≤ 65535 ∧ a.size ≤ m.size ∧ m.size ≤ 65536 ∧
      (∃ n, m.load 0 a.toBytes = .placed n ∧
        (n.sweep 0 2).map Line.instruction = code.map some ∧
        (n.sweep 0 2).map (fun line => some line.addr) = [some 0, some 5]) ∧
      ∀ code', (ofList code').toBytes = [0x15, 0x00, 0x03, 0x00, 0x00, 0x1A, 0x02] →
        code' = code := by
  intro code a m
  obtain ⟨listed, unique⟩ := assembled_program_reads_back code
  obtain ⟨n, loaded, -, instructions, -, addresses, -⟩ :=
    listed (by decide) m (by decide) (by decide)
  exact ⟨by decide, by decide, by decide, ⟨n, loaded, instructions, addresses⟩, unique⟩

end Assembly

end WordMachine
