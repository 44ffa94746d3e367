import Mathlib.Data.List.Basic
import WordMachine.Instruction.Reader

/-!
# Reading is the inverse of encoding

A reader succeeds exactly where memory shows the encoding of its result, and then moves its cursor
to the end of it. The end must be an address itself, so nothing is read that ends at the very top
of the address space. Each reader has one `Reads` statement; instructions are read by composing
those of their operands.
-/

namespace WordMachine

theorem bind_of_ok {ε σ α β : Type} {first : EStateM ε σ α} {next : α → EStateM ε σ β} {s t : σ}
    {a : α} (h : first s = .ok a t) : (first >>= next) s = next a t := by
  simp only [bind, EStateM.bind, h]

theorem bind_of_error {ε σ α β : Type} {first : EStateM ε σ α} {next : α → EStateM ε σ β}
    {s t : σ} {e : ε} (h : first s = .error e t) : (first >>= next) s = .error e t := by
  simp only [bind, EStateM.bind, h]

namespace Memory

/-- The `count` bytes from `place` on, or fewer at the end of memory. -/
def slice (m : Memory) (place count : Nat) : Bytes :=
  (m.bytes.extract place (place + count)).toList

/-- The bytes of memory from `place` on begin with the given ones. -/
def Shows (m : Memory) (place : Nat) (bytes : Bytes) : Prop :=
  bytes <+: m.bytes.toList.drop place

theorem shows_append {m : Memory} {place : Nat} {first second : Bytes} :
    m.Shows place (first ++ second) ↔
      m.Shows place first ∧ m.Shows (place + first.length) second := by
  simp only [Shows, ← List.drop_drop]
  constructor
  · rintro ⟨rest, h⟩
    rw [← h]
    exact ⟨⟨second ++ rest, by simp⟩, ⟨rest, by simp⟩⟩
  · rintro ⟨⟨rest, h⟩, hs⟩
    rw [← h, List.drop_left] at hs
    rw [← h]
    exact (List.prefix_append_right_inj first).mpr hs

@[simp] theorem shows_singleton {m : Memory} {place : Nat} {byte : UInt8} :
    m.Shows place [byte] ↔ m.bytes[place]? = some byte := by
  simp [Shows, List.singleton_prefix_iff_head?_eq_some]

theorem shows_toBytes {m : Memory} {place : Nat} {word : UInt16} :
    m.Shows place (Word.toBytes word) ↔
      m.bytes[place]? = some (Word.high word) ∧ m.bytes[place + 1]? = some (Word.low word) := by
  rw [Word.toBytes, ← List.singleton_append, shows_append]
  simp

theorem slice_eq_iff_shows {m : Memory} {place : Nat} {bytes : Bytes} :
    m.slice place bytes.length = bytes ↔ m.Shows place bytes := by
  rw [Shows, List.prefix_iff_eq_take, slice, Array.toList_extract, List.extract_eq_take_drop]
  simp [eq_comm]

theorem Shows.length_le {m : Memory} {place : Nat} {bytes : Bytes} (h : m.Shows place bytes)
    (nonempty : 0 < bytes.length) : place + bytes.length ≤ m.size := by
  have le := List.IsPrefix.length_le h
  simp only [List.length_drop, Array.length_toList] at le
  simp only [size]
  omega

end Memory

namespace Cursor

variable {α β : Type}

/-- The cursor `n` bytes further. -/
def skip (c : Cursor) (n : Nat) : Cursor :=
  { c with position := UInt16.ofNat (c.position.toNat + n) }

/-- What can be read at a cursor: memory shows it, and the place after it is an address. -/
def Shows (c : Cursor) (bytes : Bytes) : Prop :=
  c.memory.Shows c.position.toNat bytes ∧ c.position.toNat + bytes.length ≤ 65535

/-- A reader that takes in what `encode` makes of its result. -/
def Reads (reader : Read α) (encode : α → Bytes) : Prop :=
  ∀ c a d, reader c = .ok a d ↔ c.Shows (encode a) ∧ d = c.skip (encode a).length

theorem Reads.memory {reader : Read α} {encode : α → Bytes} (h : Reads reader encode)
    {c d : Cursor} {a : α} (read : reader c = .ok a d) : d.memory = c.memory := by
  rw [((h c a d).mp read).2]
  rfl

theorem skip_skip (c : Cursor) (n k : Nat) : (c.skip n).skip k = c.skip (n + k) := by
  simp only [skip, Cursor.mk.injEq, true_and]
  apply UInt16.toNat.inj
  simp [Nat.add_assoc]

theorem shows_append {c : Cursor} {first second : Bytes} :
    c.Shows (first ++ second) ↔ c.Shows first ∧ (c.skip first.length).Shows second := by
  simp only [Shows, Memory.shows_append, List.length_append]
  by_cases fits : c.position.toNat + first.length ≤ 65535
  · have place : (c.skip first.length).position.toNat = c.position.toNat + first.length := by
      simp only [skip, UInt16.toNat_ofNat']
      omega
    have memory : (c.skip first.length).memory = c.memory := rfl
    rw [place, memory]
    constructor
    · rintro ⟨⟨hf, hs⟩, h⟩
      exact ⟨⟨hf, fits⟩, hs, by omega⟩
    · rintro ⟨⟨hf, -⟩, hs, h⟩
      exact ⟨⟨hf, hs⟩, by omega⟩
  · constructor
    · rintro ⟨-, h⟩
      omega
    · rintro ⟨⟨-, h⟩, -⟩
      exact absurd h fits

theorem bind_eq_ok_iff {reader : Read α} {next : α → Read β} {c d : Cursor} {b : β} :
    (reader >>= next) c = .ok b d ↔ ∃ a e, reader c = .ok a e ∧ next a e = .ok b d := by
  simp only [bind, EStateM.bind]
  cases reader c <;> simp

/-! ## Operands -/

theorem reads_nextByte : Reads nextByte fun byte => [byte] := by
  intro c byte d
  simp only [Shows, nextByte, Memory.read8, Memory.addressAfter, Memory.shows_singleton,
    List.length_singleton, skip]
  cases c.memory.bytes[c.position.toNat]? with
  | none => simp
  | some first =>
    by_cases fits : c.position.toNat + 1 ≤ 65535 <;> simp [fits, eq_comm]

theorem reads_nextWord : Reads nextWord Word.toBytes := by
  intro c word d
  simp only [Shows, nextWord, Memory.read16, Memory.addressAfter, Memory.shows_toBytes,
    Word.length_toBytes, skip]
  cases c.memory.bytes[c.position.toNat]? with
  | none => simp
  | some hi =>
    cases c.memory.bytes[c.position.toNat + 1]? with
    | none => simp
    | some lo =>
      by_cases fits : c.position.toNat + 2 ≤ 65535
      · simp [fits, Word.ofBytes_eq_iff, eq_comm (a := d)]
      · simp [fits]

theorem reads_nextRegister : Reads nextRegister fun reg => [reg.index] := by
  intro c reg d
  rw [nextRegister, bind_eq_ok_iff]
  constructor
  · rintro ⟨index, e, read, chosen⟩
    cases selected : Register.ofIndex index with
    | error =>
      simp only [selected] at chosen
      cases chosen
    | ok r =>
      simp only [selected] at chosen
      obtain ⟨rfl, rfl⟩ : r = reg ∧ e = d := by simpa [pure, EStateM.pure] using chosen
      obtain rfl := Register.index_of_ofIndex selected
      exact (reads_nextByte _ _ _).mp read
  · intro h
    exact ⟨reg.index, d, (reads_nextByte _ _ _).mpr h, by simp [pure, EStateM.pure]⟩

/-- A reader of two operands takes in the one and then the other. -/
theorem Reads.two {first : Read α} {second : Read β} {encode : α → Bytes} {encode' : β → Bytes}
    (hf : Reads first encode) (hs : Reads second encode') (make : α → β → Instruction)
    {c d : Cursor} {i : Instruction} :
    (do let a ← first; let b ← second; return make a b : Read Instruction) c = .ok i d ↔
      ∃ a b, i = make a b ∧ c.Shows (encode a ++ encode' b) ∧
        d = c.skip (encode a ++ encode' b).length := by
  constructor
  · intro h
    obtain ⟨a, e, ha, h⟩ := bind_eq_ok_iff.mp h
    obtain ⟨b, g, hb, h⟩ := bind_eq_ok_iff.mp h
    obtain ⟨shown, rfl⟩ := (hf _ _ _).mp ha
    obtain ⟨shown', rfl⟩ := (hs _ _ _).mp hb
    cases h
    exact ⟨a, b, rfl, shows_append.mpr ⟨shown, shown'⟩, by rw [skip_skip, List.length_append]⟩
  · rintro ⟨a, b, rfl, h, rfl⟩
    obtain ⟨ha, hb⟩ := shows_append.mp h
    rw [List.length_append, ← skip_skip]
    exact bind_eq_ok_iff.mpr ⟨a, _, (hf _ _ _).mpr ⟨ha, rfl⟩,
      bind_eq_ok_iff.mpr ⟨b, _, (hs _ _ _).mpr ⟨hb, rfl⟩, rfl⟩⟩

theorem Reads.one {reader : Read α} {encode : α → Bytes} (h : Reads reader encode)
    (make : α → Instruction) {c d : Cursor} {i : Instruction} :
    (do let a ← reader; return make a : Read Instruction) c = .ok i d ↔
      ∃ a, i = make a ∧ c.Shows (encode a) ∧ d = c.skip (encode a).length := by
  constructor
  · intro h'
    obtain ⟨a, e, ha, h'⟩ := bind_eq_ok_iff.mp h'
    obtain ⟨shown, rfl⟩ := (h _ _ _).mp ha
    cases h'
    exact ⟨a, rfl, shown, rfl⟩
  · rintro ⟨a, rfl, ha, rfl⟩
    exact bind_eq_ok_iff.mpr ⟨a, _, (h _ _ _).mpr ⟨ha, rfl⟩, rfl⟩

/-! ## Instructions -/

/-- Operands read after an opcode are those of an instruction with that opcode. -/
theorem read_eq_ok_iff (op : Opcode) {c d : Cursor} {i : Instruction} :
    (Instruction.read op : Read Instruction) c = .ok i d ↔
      i.opcode = op ∧ c.Shows i.operands ∧ d = c.skip i.operands.length := by
  cases op with
  | movLitReg =>
    refine (reads_nextWord.two reads_nextRegister .movLitReg).trans ?_
    cases i <;> simp [Instruction.opcode, Instruction.operands]
  | movRegReg =>
    refine (reads_nextRegister.two reads_nextRegister .movRegReg).trans ?_
    cases i <;> simp [Instruction.opcode, Instruction.operands]
  | movRegMem =>
    refine (reads_nextRegister.two reads_nextWord .movRegMem).trans ?_
    cases i <;> simp [Instruction.opcode, Instruction.operands]
  | movMemReg =>
    refine (reads_nextWord.two reads_nextRegister .movMemReg).trans ?_
    cases i <;> simp [Instruction.opcode, Instruction.operands]
  | addRegReg =>
    refine (reads_nextRegister.two reads_nextRegister .addRegReg).trans ?_
    cases i <;> simp [Instruction.opcode, Instruction.operands]
  | jmpNotEq =>
    refine (reads_nextWord.two reads_nextWord .jmpNotEq).trans ?_
    cases i <;> simp [Instruction.opcode, Instruction.operands]
  | pshLit =>
    refine (reads_nextWord.one .pshLit).trans ?_
    cases i <;> simp [Instruction.opcode, Instruction.operands]
  | pshReg =>
    refine (reads_nextRegister.one .pshReg).trans ?_
    cases i <;> simp [Instruction.opcode, Instruction.operands]
  | pop =>
    refine (reads_nextRegister.one .pop).trans ?_
    cases i <;> simp [Instruction.opcode, Instruction.operands]

theorem reads_nextInstruction : Reads nextInstruction Instruction.encode := by
  intro c i d
  have encode : i.encode = [i.opcode.byte] ++ i.operands := rfl
  rw [nextInstruction, bind_eq_ok_iff, encode, shows_append, List.length_append, ← skip_skip]
  constructor
  · rintro ⟨byte, e, first, rest⟩
    obtain ⟨shown, rfl⟩ := (reads_nextByte _ _ _).mp first
    cases found : Opcode.ofByte? byte with
    | none =>
      simp only [found] at rest
      cases rest
    | some op =>
      simp only [found] at rest
      obtain ⟨rfl, operands, rfl⟩ := (read_eq_ok_iff op).mp rest
      obtain rfl := Opcode.byte_of_ofByte? found
      exact ⟨⟨shown, operands⟩, rfl⟩
  · rintro ⟨⟨shown, operands⟩, rfl⟩
    refine ⟨i.opcode.byte, _, (reads_nextByte _ _ _).mpr ⟨shown, rfl⟩, ?_⟩
    simp only [Opcode.ofByte?_byte]
    exact (read_eq_ok_iff i.opcode).mpr ⟨rfl, operands, rfl⟩

end Cursor

/-- No encoding begins another: a byte sequence begins with at most one. -/
theorem Instruction.encode_prefix_unique {bytes : Bytes} {i j : Instruction}
    (hi : i.encode <+: bytes) (hj : j.encode <+: bytes) : i = j := by
  -- Both are what a cursor reads at the beginning of these bytes.
  let c : Cursor := ⟨⟨bytes.toArray⟩, 0⟩
  have readable : ∀ k : Instruction, k.encode <+: bytes → c.Shows k.encode := by
    intro k hk
    have size := k.length_encode ▸ k.size_le
    refine ⟨by simpa [Memory.Shows, c] using hk, ?_⟩
    simp only [c, UInt16.toNat_zero]
    omega
  have first := (Cursor.reads_nextInstruction c i _).mpr ⟨readable i hi, rfl⟩
  have second := (Cursor.reads_nextInstruction c j _).mpr ⟨readable j hj, rfl⟩
  rw [first] at second
  cases second
  rfl

namespace Memory

theorem instructionAt_eq_ok_iff {m : Memory} {addr : UInt16} {i : Instruction} :
    m.instructionAt addr = .ok i ↔
      m.Shows addr.toNat i.encode ∧ addr.toNat + i.size ≤ 65535 := by
  have reads := Cursor.reads_nextInstruction ⟨m, addr⟩ i
  rw [← i.length_encode]
  simp only [instructionAt]
  constructor
  · intro h
    cases outcome : Cursor.nextInstruction ⟨m, addr⟩ with
    | error => simp [outcome] at h
    | ok j d =>
      obtain rfl : j = i := by simpa [outcome] using h
      exact ((reads d).mp outcome).1
  · intro h
    rw [(reads _).mpr ⟨h, rfl⟩]

/-- An instruction is read at an address exactly if its encoding is there, in memory and below the
top of the address space; no two encodings are at one address. So the last byte of a full address
space belongs to no instruction that can be read. -/
theorem instructionAt_inverts_encode (m : Memory) (addr : UInt16) (i : Instruction) :
    (m.instructionAt addr = .ok i ↔
      addr.toNat + i.size ≤ min m.size 65535 ∧ m.slice addr.toNat i.size = i.encode) ∧
    i.encode.length = i.size ∧
    (∀ j : Instruction, m.slice addr.toNat i.size = i.encode →
      m.slice addr.toNat j.size = j.encode → i = j) ∧
    (m.size = 65536 → addr.toNat + i.size = 65536 → m.slice addr.toNat i.size = i.encode →
      ∀ j, m.instructionAt addr ≠ .ok j) := by
  have shown : ∀ j : Instruction,
      m.slice addr.toNat j.size = j.encode ↔ m.Shows addr.toNat j.encode := fun j => by
    rw [← j.length_encode, slice_eq_iff_shows]
  simp only [shown, ne_eq, instructionAt_eq_ok_iff]
  refine ⟨⟨?_, ?_⟩, i.length_encode, ?_, ?_⟩
  · rintro ⟨h, top⟩
    have inside := h.length_le (i.length_encode ▸ i.size_pos)
    rw [i.length_encode] at inside
    exact ⟨by omega, h⟩
  · rintro ⟨bounds, h⟩
    exact ⟨h, by omega⟩
  · intro j hi hj
    exact Instruction.encode_prefix_unique hi hj
  · -- What is read there would be this instruction, whose end is no address.
    rintro full last hi j ⟨hj, top⟩
    obtain rfl := Instruction.encode_prefix_unique hi hj
    omega

/-- The last two bytes of a full address space can hold an instruction that is never read. -/
theorem instructionAt_pop_at_top :
    let m : Memory := ⟨(List.replicate 65534 0 ++ (Instruction.pop .r1).encode).toArray⟩
    m.size = 65536 ∧ m.slice 65534 2 = (Instruction.pop .r1).encode ∧
      ∀ j, m.instructionAt 65534 ≠ .ok j := by
  intro m
  have two : (Instruction.pop .r1).encode.length = 2 := rfl
  have size : m.size = 65536 := by
    simp only [m, Memory.size, List.size_toArray, List.length_append, List.length_replicate, two]
  have shows : m.slice 65534 2 = (Instruction.pop .r1).encode := by
    have last : m.bytes.toList.drop 65534 = (Instruction.pop .r1).encode :=
      List.drop_left' List.length_replicate
    rw [← two, slice_eq_iff_shows]
    exact ⟨[], by rw [List.append_nil, last]⟩
  exact ⟨size, shows, (instructionAt_inverts_encode m 65534 (.pop .r1)).2.2.2 size rfl shows⟩

end Memory

end WordMachine
