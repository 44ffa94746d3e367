import WordMachine.Listing
import WordMachine.Proofs.Instruction.Encoding

/-!
# Sweeps

A sweep shows a stretch of memory line by line. Each line shows bytes that memory has at its
address, one at least, and the next line begins where it ends. A sweep that is given enough lines
ends with memory.
-/

namespace WordMachine.Memory

variable {m : Memory}

/-! ## Lines -/

theorem lineAt_of_decoded {addr : UInt16} {i : Instruction} (h : m.instructionAt addr = .ok i) :
    m.lineAt addr = ⟨addr, i.encode, some i⟩ := by
  have shown := (instructionAt_eq_ok_iff.mp h).1
  have inside : m.Holds addr i.size := by
    rw [← i.length_encode]
    exact shown.length_le (i.length_encode ▸ i.size_pos)
  have window : m.window addr i.size = .ok i.encode := by
    rw [Memory.window, if_pos inside]
    refine congrArg Except.ok ?_
    rw [← i.length_encode]
    exact slice_eq_iff_shows.mpr shown
  simp only [lineAt, h, window]
  rfl

theorem lineAt_of_undecoded {addr : UInt16} {e : DecodeError} (h : m.instructionAt addr = .error e)
    (inside : addr.toNat < m.bytes.size) :
    m.lineAt addr = ⟨addr, [m.bytes[addr.toNat]], none⟩ := by
  simp only [lineAt, h, read8_eq_ok inside]
  rfl

@[simp] theorem addr_lineAt (m : Memory) (addr : UInt16) : (m.lineAt addr).addr = addr := by
  unfold lineAt
  split <;> rfl

@[simp] theorem instruction_lineAt (m : Memory) (addr : UInt16) :
    (m.lineAt addr).instruction = (m.instructionAt addr).toOption := by
  unfold lineAt
  split <;> simp_all [Except.toOption]

/-- A line in memory shows at least one byte, and shows what is there. -/
theorem shows_lineAt {addr : UInt16} (inside : addr.toNat < m.bytes.size) :
    0 < (m.lineAt addr).bytes.length ∧ m.Shows addr.toNat (m.lineAt addr).bytes := by
  cases decoded : m.instructionAt addr with
  | ok i =>
    rw [lineAt_of_decoded decoded]
    exact ⟨i.length_encode ▸ i.size_pos, (instructionAt_eq_ok_iff.mp decoded).1⟩
  | error e =>
    rw [lineAt_of_undecoded decoded inside]
    exact ⟨Nat.one_pos, by simp⟩

/-! ## Lines in a row -/

/-- Lines that show memory from `place` to `stop`: each is the line where the one before it ends. -/
inductive Tiles (m : Memory) : (place : Nat) → List Line → (stop : Nat) → Prop
  | nil (place : Nat) : Tiles m place [] place
  | cons {place stop : Nat} {rest : List Line} (inside : place < m.size)
      (tail : Tiles m (place + (m.lineAt (UInt16.ofNat place)).bytes.length) rest stop) :
      Tiles m place (m.lineAt (UInt16.ofNat place) :: rest) stop

theorem toNat_ofNat_of_inside (small : m.size ≤ 65536) {place : Nat} (inside : place < m.size) :
    (UInt16.ofNat place).toNat = place :=
  UInt16.toNat_ofNat_of_lt' (Nat.lt_of_lt_of_le inside small)

/-- No line inside memory is empty. -/
theorem length_pos_of_inside (small : m.size ≤ 65536) {place : Nat} (inside : place < m.size) :
    0 < (m.lineAt (UInt16.ofNat place)).bytes.length :=
  (shows_lineAt ((toNat_ofNat_of_inside small inside).symm ▸ inside)).1

namespace Tiles

variable {place stop : Nat} {lines : List Line}

theorem shows (h : m.Tiles place lines stop) (small : m.size ≤ 65536) :
    m.Shows place (lines.flatMap Line.bytes) := by
  induction h with
  | nil => exact List.nil_prefix
  | cons inside tail ih =>
    have address := toNat_ofNat_of_inside small inside
    have line := (shows_lineAt (address.symm ▸ inside)).2
    rw [address] at line
    rw [List.flatMap_cons, shows_append]
    exact ⟨line, ih⟩

theorem stop_eq (h : m.Tiles place lines stop) :
    stop = place + (lines.flatMap Line.bytes).length := by
  induction h with
  | nil => rfl
  | cons inside tail ih =>
    rw [List.flatMap_cons, List.length_append]
    omega

theorem length_le (h : m.Tiles place lines stop) (small : m.size ≤ 65536) :
    place + lines.length ≤ stop := by
  induction h with
  | nil => exact Nat.le_refl _
  | cons inside tail ih =>
    have positive := length_pos_of_inside small inside
    rw [List.length_cons]
    omega

theorem stop_le (h : m.Tiles place lines stop) (small : m.size ≤ 65536) (inside : place ≤ m.size) :
    stop ≤ m.size := by
  have shown := h.shows small
  have ends := h.stop_eq
  by_cases empty : 0 < (lines.flatMap Line.bytes).length
  · exact ends ▸ shown.length_le empty
  · omega

/-- A line stands where the lines before it end. -/
theorem addr_getElem (h : m.Tiles place lines stop) (small : m.size ≤ 65536) {k : Nat}
    (hk : k < lines.length) :
    lines[k].addr.toNat = place + ((lines.take k).flatMap Line.bytes).length := by
  induction h generalizing k with
  | nil => exact absurd hk (Nat.not_lt_zero k)
  | cons inside tail ih =>
    cases k with
    | zero => simpa using toNat_ofNat_of_inside small inside
    | succ k =>
      rw [List.getElem_cons_succ, ih (Nat.lt_of_succ_lt_succ hk), List.take_succ_cons,
        List.flatMap_cons, List.length_append]
      omega

/-- The end of a line is the address of the next one, or the end of them all. -/
theorem addr_next (h : m.Tiles place lines stop) (small : m.size ≤ 65536) {k : Nat}
    (hk : k < lines.length) :
    lines[k].addr.toNat + lines[k].bytes.length =
      (lines[k + 1]?.map fun line => line.addr.toNat).getD stop := by
  have here := h.addr_getElem small hk
  have upTo : (lines.take (k + 1)).flatMap Line.bytes =
      (lines.take k).flatMap Line.bytes ++ lines[k].bytes := by
    rw [List.take_succ_eq_append_getElem hk, List.flatMap_append, List.flatMap_singleton]
  have length := congrArg List.length upTo
  rw [List.length_append] at length
  by_cases more : k + 1 < lines.length
  · have next := h.addr_getElem small more
    rw [List.getElem?_eq_getElem more, Option.map_some, Option.getD_some]
    omega
  · have ends := h.stop_eq
    rw [List.take_of_length_le (Nat.not_lt.mp more)] at length
    rw [List.getElem?_eq_none (Nat.not_lt.mp more), Option.map_none, Option.getD_none]
    omega

/-- Behind a line there is another one or the end of them all. -/
theorem exists_next (h : m.Tiles place lines stop) (small : m.size ≤ 65536) {line : Line}
    (listed : line ∈ lines) :
    (∃ next ∈ lines, line.addr.toNat + line.bytes.length = next.addr.toNat) ∨
      line.addr.toNat + line.bytes.length = stop := by
  obtain ⟨k, hk, rfl⟩ := List.getElem_of_mem listed
  rw [h.addr_next small hk]
  cases found : lines[k + 1]? with
  | none => exact .inr rfl
  | some next => exact .inl ⟨next, List.mem_of_getElem? found, rfl⟩

theorem le_addr (h : m.Tiles place lines stop) (small : m.size ≤ 65536) {line : Line}
    (listed : line ∈ lines) : place ≤ line.addr.toNat := by
  obtain ⟨k, hk, rfl⟩ := List.getElem_of_mem listed
  rw [h.addr_getElem small hk]
  exact Nat.le_add_right ..

/-- Lines stand in the order of their addresses. -/
theorem pairwise_addr (h : m.Tiles place lines stop) (small : m.size ≤ 65536) :
    lines.Pairwise fun first second => first.addr < second.addr := by
  induction h with
  | nil => exact .nil
  | cons inside tail ih =>
    refine List.pairwise_cons.mpr ⟨fun line listed => ?_, ih⟩
    have positive := length_pos_of_inside small inside
    have behind := tail.le_addr small listed
    rw [UInt16.lt_iff_toNat_lt, addr_lineAt, toNat_ofNat_of_inside small inside]
    omega

theorem nodup (h : m.Tiles place lines stop) (small : m.size ≤ 65536) : lines.Nodup := by
  refine (h.pairwise_addr small).imp ?_
  rintro first _ lt rfl
  exact UInt16.lt_irrefl _ lt

theorem eq_lineAt (h : m.Tiles place lines stop) (small : m.size ≤ 65536) {line : Line}
    (listed : line ∈ lines) : line.addr.toNat < m.size ∧ line = m.lineAt line.addr := by
  induction h with
  | nil => cases listed
  | cons inside tail ih =>
    rcases List.mem_cons.mp listed with rfl | later
    · rw [addr_lineAt, toNat_ofNat_of_inside small inside]
      exact ⟨inside, rfl⟩
    · exact ih later

end Tiles

/-! ## The sweep -/

theorem sweepFrom_tiles (small : m.size ≤ 65536) (count place : Nat) (before : Array Line) :
    ∃ lines stop, (m.sweepFrom count place before).toList = before.toList ++ lines ∧
      m.Tiles place lines stop ∧ (lines.length = count ∨ m.size ≤ stop) := by
  induction count generalizing place before with
  | zero => exact ⟨[], place, by simp [sweepFrom], .nil place, .inl rfl⟩
  | succ count ih =>
    rw [sweepFrom]
    split
    case isTrue inside =>
      have positive := length_pos_of_inside small inside
      obtain ⟨lines, stop, appended, tail, enough⟩ :=
        ih (place + max (m.lineAt (UInt16.ofNat place)).bytes.length 1)
          (before.push (m.lineAt (UInt16.ofNat place)))
      -- No line is empty, so the least advance of one byte is never needed.
      rw [Nat.max_eq_left positive] at tail appended
      refine ⟨m.lineAt (UInt16.ofNat place) :: lines, stop, ?_, .cons inside tail, ?_⟩
      · simp only [Nat.max_eq_left positive, appended, Array.toList_push, List.append_assoc,
          List.singleton_append]
      · rw [List.length_cons]
        exact enough.imp_left (congrArg Nat.succ)
    case isFalse outside =>
      exact ⟨[], place, by simp, .nil place, .inr (Nat.not_lt.mp outside)⟩

/-- A sweep stops short of the count only at the end of memory. -/
theorem sweep_tiles (small : m.size ≤ 65536) (start : UInt16) (count : Nat) :
    ∃ stop, m.Tiles start.toNat (m.sweep start count) stop ∧
      ((m.sweep start count).length = count ∨ m.size ≤ stop) := by
  obtain ⟨lines, stop, appended, tiles, enough⟩ := sweepFrom_tiles small count start.toNat #[]
  have shown : m.sweep start count = lines := appended
  rw [shown]
  exact ⟨stop, tiles, enough⟩

/-- Outside memory there is nothing to sweep. -/
theorem sweep_of_size_le {start : UInt16} (outside : m.size ≤ start.toNat) (count : Nat) :
    m.sweep start count = [] := by
  cases count with
  | zero => rfl
  | succ count => simp [sweep, sweepFrom, Nat.not_lt.mpr outside]

/-- With a line for every byte a sweep ends with memory. -/
theorem sweep_all (small : m.size ≤ 65536) {start : UInt16} (inside : start.toNat ≤ m.size) :
    m.Tiles start.toNat (m.sweep start m.size) m.size := by
  obtain ⟨stop, tiles, enough⟩ := sweep_tiles small start m.size
  have longer := tiles.length_le small
  have within := tiles.stop_le small inside
  obtain rfl : stop = m.size := by omega
  exact tiles

/-- A sweep takes the first of the lines that there are, unless it is asked for more of them and
there is more of memory. -/
theorem sweepFrom_eq_take (small : m.size ≤ 65536) {place stop : Nat} {lines : List Line}
    (h : m.Tiles place lines stop) {count : Nat} (enough : count ≤ lines.length ∨ m.size ≤ stop)
    (before : Array Line) :
    (m.sweepFrom count place before).toList = before.toList ++ lines.take count := by
  induction h generalizing count before with
  | nil place =>
    cases count with
    | zero => simp [sweepFrom]
    | succ count =>
      have ends : m.size ≤ place := enough.resolve_left (Nat.not_succ_le_zero count)
      simp [sweepFrom, Nat.not_lt.mpr ends]
  | cons inside tail ih =>
    cases count with
    | zero => simp [sweepFrom]
    | succ count =>
      have positive := length_pos_of_inside small inside
      have rest := enough.imp_left Nat.le_of_succ_le_succ
      rw [sweepFrom, if_pos inside]
      simp only [Nat.max_eq_left positive, ih rest, Array.toList_push, List.append_assoc,
        List.singleton_append, List.take_succ_cons]

/-- A sweep shows the first lines of all that there are. -/
theorem sweep_eq_take (small : m.size ≤ 65536) {start : UInt16} (inside : start.toNat ≤ m.size)
    (count : Nat) : m.sweep start count = (m.sweep start m.size).take count :=
  sweepFrom_eq_take small (sweep_all small inside) (.inr (Nat.le_refl _)) #[]

/-! ## What a sweep shows -/

/-- The line shows what memory has at its address: an instruction where one can be decoded, and a
byte elsewhere. -/
structure Renders (m : Memory) (line : Line) : Prop where
  shows : m.Shows line.addr.toNat line.bytes
  length_pos : 1 ≤ line.bytes.length
  length_le : line.bytes.length ≤ 5
  instruction : ∀ i, line.instruction = some i ↔ m.instructionAt line.addr = .ok i
  encoded : ∀ i, line.instruction = some i → line.bytes = i.encode
  data : line.instruction = none → line.bytes.length = 1

theorem renders_lineAt {addr : UInt16} (inside : addr.toNat < m.bytes.size) :
    m.Renders (m.lineAt addr) := by
  have shown := shows_lineAt inside
  cases decoded : m.instructionAt addr with
  | ok i =>
    rw [lineAt_of_decoded decoded] at shown ⊢
    refine ⟨shown.2, shown.1, i.length_encode ▸ i.size_le, ?_, ?_, nofun⟩
    · intro j
      simp [decoded]
    · intro j same
      cases same
      rfl
  | error e =>
    rw [lineAt_of_undecoded decoded inside] at shown ⊢
    refine ⟨shown.2, shown.1, Nat.succ_le_succ (Nat.zero_le 4), ?_, nofun, fun _ => rfl⟩
    intro j
    simp [decoded]

/-- A sweep divides the stretch of memory that it shows into lines, without gap, overlap or overrun:
it begins at its start, each line begins where the one before it ends, and unless it has as many
lines as it was asked for it ends with memory. As no line is empty, it has no more lines than there
are bytes. -/
theorem sweep_partitions_memory (m : Memory) (small : m.size ≤ 65536) (start : UInt16)
    (count : Nat) :
    let lines := m.sweep start count
    let shown := lines.flatMap Line.bytes
    (m.size ≤ start.toNat → lines = []) ∧
    (start.toNat < m.size →
      (∀ first, lines.head? = some first → first.addr = start) ∧
      (∀ k (hk : k + 1 < lines.length),
        lines[k + 1].addr.toNat = lines[k].addr.toNat + lines[k].bytes.length) ∧
      (∀ line ∈ lines, m.Renders line) ∧
      (lines.length = count ∨ lines.length < count ∧ start.toNat + shown.length = m.size) ∧
      shown = m.slice start.toNat shown.length ∧
      start.toNat + shown.length ≤ m.size ∧
      lines.length ≤ m.size - start.toNat) := by
  intro lines shown
  refine ⟨fun outside => sweep_of_size_le outside count, fun inside => ?_⟩
  obtain ⟨stop, tiles, enough⟩ := sweep_tiles small start count
  have ends : stop = start.toNat + shown.length := tiles.stop_eq
  have within := tiles.stop_le small (Nat.le_of_lt inside)
  have room : start.toNat + lines.length ≤ stop := tiles.length_le small
  have taken : lines = (m.sweep start m.size).take count :=
    sweep_eq_take small (Nat.le_of_lt inside) count
  have asked : lines.length ≤ count := taken ▸ List.length_take_le ..
  refine ⟨?_, ?_, ?_, ?_, (slice_eq_iff_shows.mpr (tiles.shows small)).symm, ends ▸ within,
    by omega⟩
  · intro first atHead
    obtain ⟨nonempty, rfl⟩ := List.getElem?_eq_some_iff.mp (List.head?_eq_getElem? ▸ atHead)
    exact UInt16.toNat.inj (tiles.addr_getElem small nonempty)
  · intro k hk
    have next := tiles.addr_next small (Nat.lt_of_succ_lt hk)
    rw [List.getElem?_eq_getElem hk] at next
    exact next.symm
  · intro line listed
    obtain ⟨here, line_eq⟩ := tiles.eq_lineAt small listed
    exact line_eq ▸ renders_lineAt here
  · rcases enough with all | full
    · exact .inl all
    · omega

/-- An instruction, and an opcode whose operands the end of memory cuts off. -/
theorem sweep_partitions_memory_cut :
    let m : Memory := ⟨#[0xFF, 0x14, 0x02, 0x03, 0x15, 0x00]⟩
    let lines := m.sweep 1 9
    m.size ≤ 65536 ∧ (1 : UInt16).toNat < m.size ∧
      lines = [⟨1, [0x14, 0x02, 0x03], some (.addRegReg .r1 .r2)⟩, ⟨4, [0x15], none⟩,
        ⟨5, [0x00], none⟩] ∧
      (∀ line ∈ lines, m.Renders line) ∧
      1 + (lines.flatMap Line.bytes).length = m.size := by
  intro m lines
  have listed : lines = [⟨1, [0x14, 0x02, 0x03], some (.addRegReg .r1 .r2)⟩, ⟨4, [0x15], none⟩,
      ⟨5, [0x00], none⟩] := by decide +kernel
  have small : m.size ≤ 65536 := by decide
  have inside : (1 : UInt16).toNat < m.size := by decide
  obtain ⟨-, -, renders, short, -⟩ := (sweep_partitions_memory m small 1 9).2 inside
  rcases short with nine | ⟨-, ends⟩
  · exact absurd nine (by decide +kernel)
  · exact ⟨small, inside, listed, renders, ends⟩

end WordMachine.Memory
