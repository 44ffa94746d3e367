import Mathlib.Data.List.Nodup
import WordMachine.Debugger.Basic
import WordMachine.Proofs.Listing.Execution

/-!
# The listing in the debugger

The debugger sweeps memory from address 0, as a listing of the whole memory does, but stops some
lines behind the instruction pointer. The lines that it shows are those of the whole listing all the
same. Where one of them begins at the instruction pointer it is shown, it alone is marked, and it is
what the machine runs next. But the pointer can also be inside a line, as after a jump to an
operand: then no line is marked.
-/

namespace WordMachine.Debugger

open Memory

variable {m : Memory} {ip : UInt16}

/-! ## Stopping early -/

/-- From the instruction pointer on the lines are those of a sweep. -/
theorem linesPast_eq_sweepFrom {position : Nat} (past : ip.toNat ≤ position) (seen more : Nat)
    (lines : Array Line) :
    linesPast m ip (seen + more) position seen lines = m.sweepFrom more position lines := by
  induction more generalizing position seen lines with
  | zero =>
    rw [linesPast, if_neg (by omega)]
    rfl
  | succ more ih =>
    rw [linesPast, sweepFrom]
    by_cases inside : position < m.size
    · have later (next : Nat) (past : ip.toNat ≤ next) (lines : Array Line) :
          linesPast m ip (seen + 1 + more) next (seen + 1) lines = m.sweepFrom more next lines :=
        ih past (seen + 1) lines
      rw [if_pos ⟨inside, by omega⟩, if_pos inside]
      simp only [if_pos past]
      rw [← later _ (by omega), Nat.add_right_comm, Nat.add_assoc]
    · rw [if_neg fun go => inside go.1, if_neg inside]

/-- The lines end `count` lines behind the first one that begins at the instruction pointer or
after it. -/
theorem toList_linesPast (small : m.size ≤ 65536) {place stop count : Nat} {lines : List Line}
    (h : m.Tiles place lines stop) (ends : m.size ≤ stop) (positive : 0 < count)
    (before : Array Line) :
    (linesPast m ip count place 0 before).toList =
      before.toList ++ lines.take (lines.findIdx (fun line => ip ≤ line.addr) + count) := by
  induction h generalizing before with
  | nil place =>
    rw [linesPast, if_neg (by omega)]
    simp
  | @cons place stop rest inside tail ih =>
    have address := toNat_ofNat_of_inside small inside
    have nonempty := length_pos_of_inside small inside
    have reached : ip ≤ UInt16.ofNat place ↔ ip.toNat ≤ place := by
      rw [UInt16.le_iff_toNat_le, address]
    rw [List.findIdx_cons, addr_lineAt, decide_eq_decide.mpr reached]
    by_cases past : ip.toNat ≤ place
    · have swept := linesPast_eq_sweepFrom (m := m) past 0 count before
      rw [Nat.zero_add] at swept
      rw [swept, sweepFrom_eq_take small (.cons inside tail) (.inr ends), decide_eq_true past,
        cond_true, Nat.zero_add]
    · rw [linesPast, if_pos ⟨inside, positive⟩, decide_eq_false past, cond_false,
        Nat.add_right_comm, List.take_succ_cons]
      simp only [if_neg past, Nat.max_eq_left nonempty, ih ends, Array.toList_push,
        List.append_assoc, List.singleton_append]

/-! ## The lines around the instruction pointer -/

/-- The lines of the whole memory. -/
def allLines (d : Debugger) : List Line := d.machine.memory.sweep 0 d.machine.memory.size

variable {d : Debugger}

theorem tiles_allLines (small : d.machine.memory.size ≤ 65536) :
    d.machine.memory.Tiles 0 d.allLines d.machine.memory.size :=
  have inside : (0 : UInt16).toNat ≤ d.machine.memory.size := Nat.zero_le _
  sweep_all small inside

theorem linesAround_eq (small : d.machine.memory.size ≤ 65536) {count : Nat}
    (positive : 0 < count) :
    let lines := d.allLines.take (d.allLines.findIdx (fun line => d.ip ≤ line.addr) + count)
    let current := (lines.findIdx? fun line => line.addr == d.ip).getD lines.length
    d.linesAround count = (lines.drop (current - count / 2)).take count := by
  intro lines current
  have swept : (linesPast d.machine.memory d.ip count 0 0 #[]).toList = lines :=
    toList_linesPast small (tiles_allLines small) (Nat.le_refl _) positive #[]
  have stopped : linesPast d.machine.memory d.ip count 0 0 #[] = lines.toArray := by
    rw [← swept, Array.toArray_toList]
  simp only [linesAround, stopped, List.findIdx?_toArray, List.size_toArray, Array.toList_extract,
    List.extract_eq_take_drop, Nat.add_sub_cancel_left]
  rfl

theorem linesAround_zero (d : Debugger) : d.linesAround 0 = [] := by
  simp [linesAround]

/-- Nothing is shown that is no line of the whole listing. -/
theorem linesAround_sublist (small : d.machine.memory.size ≤ 65536) (count : Nat) :
    (d.linesAround count).Sublist d.allLines := by
  rcases Nat.eq_zero_or_pos count with rfl | positive
  · rw [linesAround_zero]
    exact List.nil_sublist _
  · rw [linesAround_eq small positive]
    exact ((List.take_sublist ..).trans (List.drop_sublist ..)).trans (List.take_sublist ..)

/-- Where a line begins at the instruction pointer, the lines shown are those around it. That the
debugger stops early leaves out nothing of them. -/
theorem linesAround_of_addr (small : d.machine.memory.size ≤ 65536) {c : Nat}
    (hc : c < d.allLines.length) (here : d.allLines[c].addr = d.ip) (count : Nat) :
    d.linesAround count = (d.allLines.drop (c - count / 2)).take count := by
  rcases Nat.eq_zero_or_pos count with rfl | positive
  · rw [linesAround_zero, List.take_zero]
  have before : ∀ j (hj : j < c), d.allLines[j].addr < d.ip := fun j hj =>
    here ▸ List.pairwise_iff_getElem.mp ((tiles_allLines small).pairwise_addr small) j c _ hc hj
  have first : d.allLines.findIdx (fun line => d.ip ≤ line.addr) = c := by
    rw [List.findIdx_eq hc]
    exact ⟨decide_eq_true (here ▸ UInt16.le_refl _),
      fun j hj => decide_eq_false (UInt16.not_le.mpr (before j hj))⟩
  have current :
      (d.allLines.take (c + count)).findIdx? (fun line => line.addr == d.ip) = some c := by
    rw [List.findIdx?_eq_some_iff_getElem]
    refine ⟨by rw [List.length_take]; omega, by simp [here], fun j hj => ?_⟩
    rw [List.getElem_take, beq_iff_eq]
    exact UInt16.ne_of_lt (before j hj)
  rw [linesAround_eq small positive]
  simp only [first, current, Option.getD_some]
  rw [List.drop_take, List.take_take, Nat.min_eq_left (by omega)]

/-! ## Marks -/

/-- The line in the middle is among the lines around it. -/
theorem getElem_mem_linesAround (small : d.machine.memory.size ≤ 65536) {c : Nat}
    (hc : c < d.allLines.length) (here : d.allLines[c].addr = d.ip) {count : Nat}
    (positive : 0 < count) : d.allLines[c] ∈ d.linesAround count := by
  have start_le : c - count / 2 ≤ c := Nat.sub_le ..
  rw [linesAround_of_addr small hc here]
  refine List.mem_take_iff_getElem.mpr ⟨c - (c - count / 2), ?_, ?_⟩
  · rw [List.length_drop]
    omega
  · simp only [List.getElem_drop, Nat.add_sub_of_le start_le]

theorem isCurrent_iff (small : d.machine.memory.size ≤ 65536) {line : Line}
    (listed : line ∈ d.allLines) : d.isCurrent line ↔ line = d.machine.memory.lineAt d.ip := by
  rw [isCurrent, beq_iff_eq]
  constructor
  · intro here
    obtain ⟨-, line_eq⟩ := (tiles_allLines small).eq_lineAt small listed
    rwa [here] at line_eq
  · rintro rfl
    exact addr_lineAt ..

/-- The debugger marks where the machine is exactly if a line of the whole listing begins there. The
mark is then on one line, and if the next step succeeds it runs this line. If the instruction
pointer is inside a line of the listing nothing is marked. -/
theorem linesAround_marks_ip (d : Debugger) (small : d.machine.memory.size ≤ 65536) {count : Nat}
    (positive : 0 < count) :
    let here := d.machine.memory.lineAt d.ip
    (d.linesAround count).filter d.isCurrent =
      (if d.ip ∈ d.allLines.map Line.addr then [here] else []) ∧
    here.addr = d.ip ∧
    ∀ outcome, d.machine.step.outcome = .ok outcome → outcome = here.instruction := by
  intro here
  have listed := (linesAround_sublist (d := d) small count).subset
  refine ⟨?_, addr_lineAt .., fun outcome succeeds => ?_⟩
  · split
    case isTrue atLine =>
      obtain ⟨line, member, begins⟩ := List.mem_map.mp atLine
      obtain ⟨c, hc, rfl⟩ := List.getElem_of_mem member
      have shown : here ∈ d.linesAround count := by
        have is : d.allLines[c] = here := (isCurrent_iff small member).mp (beq_iff_eq.mpr begins)
        exact is ▸ getElem_mem_linesAround small hc begins positive
      have distinct : (d.linesAround count).Nodup :=
        ((tiles_allLines small).nodup small).sublist (linesAround_sublist small count)
      have marked : ∀ line ∈ d.linesAround count, d.isCurrent line = (line == here) :=
        fun line member => Bool.eq_iff_iff.mpr ((isCurrent_iff small (listed member)).trans
          beq_iff_eq.symm)
      rw [List.filter_congr marked, List.filter_beq, List.count_eq_one_of_mem distinct shown,
        List.replicate_one]
    case isFalse between =>
      rw [List.filter_eq_nil_iff]
      intro line member current
      exact between (List.mem_map.mpr ⟨line, listed member, beq_iff_eq.mp current⟩)
  · exact (Machine.step_meets_line rfl (Machine.lt_size_of_step_ok succeeds) succeeds).1

/-- The second of two instructions, and of two lines around it. -/
theorem linesAround_marks_ip_second :
    let d := (ofMemory ⟨#[0x17, 0x00, 0x01, 0x18, 0x02, 0x00, 0x00]⟩ {}).step
    d.machine.memory.size ≤ 65536 ∧ 0 < 2 ∧
      (d.linesAround 2).filter d.isCurrent = [⟨3, [0x18, 0x02], some (.pshReg .r1)⟩] := by
  intro d
  have small : d.machine.memory.size ≤ 65536 := by decide +kernel
  have atLine : d.ip ∈ d.allLines.map Line.addr := by decide +kernel
  have marks := (linesAround_marks_ip d small Nat.two_pos).1
  rw [if_pos atLine] at marks
  exact ⟨small, Nat.two_pos, marks.trans (by decide +kernel)⟩

/-- A jump to its own first operand, where a push can be read and is run. The listing has one line
for the jump and its operands, so that the debugger does not show where the machine is. -/
theorem linesAround_of_jump_into_line :
    let d := (ofMemory ⟨#[0x15, 0x18, 0x02, 0x00, 0x01, 0x00]⟩ {}).step
    d.ip.toNat = 1 ∧ d.machine.memory.size = 6 ∧
      d.machine.step.outcome = .ok (some (.pshReg .r1)) ∧
      d.machine.memory.lineAt d.ip = ⟨1, [0x18, 0x02], some (.pshReg .r1)⟩ ∧
      d.linesAround 1 = [] ∧ ∀ count, (d.linesAround count).filter d.isCurrent = [] := by
  intro d
  have between : d.ip ∉ d.allLines.map Line.addr := by decide +kernel
  have small : d.machine.memory.size ≤ 65536 := by decide +kernel
  refine ⟨by decide +kernel, by decide +kernel, by decide +kernel, by decide +kernel, ?_, ?_⟩
  · decide +kernel
  · intro count
    rw [List.filter_eq_nil_iff]
    intro line member current
    exact between (List.mem_map.mpr
      ⟨line, (linesAround_sublist small count).subset member, beq_iff_eq.mp current⟩)

/-! ## The window -/

/-- Of the whole listing only the line at the instruction pointer is current. -/
theorem isCurrent_getElem (small : d.machine.memory.size ≤ 65536) {c : Nat}
    (hc : c < d.allLines.length) (here : d.allLines[c].addr = d.ip) {k : Nat}
    (hk : k < d.allLines.length) : d.isCurrent d.allLines[k] = (k == c) := by
  have current : d.allLines[c] = d.machine.memory.lineAt d.ip :=
    (isCurrent_iff small (List.getElem_mem hc)).mp (beq_iff_eq.mpr here)
  have distinct := (tiles_allLines small).nodup small
  rw [Bool.eq_iff_iff, isCurrent_iff small (List.getElem_mem hk), ← current,
    distinct.getElem_inj_iff, beq_iff_eq]

/-- Where line number `c` of the whole listing begins at the instruction pointer, the debugger shows
a slice of that listing which has half of the lines before it, or as many as there are. Each is
shown with its address and text, and line number `c` alone is marked. -/
theorem linesAround_is_slice (d : Debugger) (small : d.machine.memory.size ≤ 65536) {c : Nat}
    (hc : c < d.allLines.length) (here : d.allLines[c].addr = d.ip) (count : Nat) :
    let first := c - count / 2
    let stop := min d.allLines.length (first + count)
    d.linesAround count = d.allLines.extract first stop ∧
    (d.linesAround count).map (fun line => (line.addr, line.text, d.isCurrent line)) =
      (d.allLines.zipIdx.extract first stop).map
        (fun (line, k) => (line.addr, line.text, k == c)) ∧
    (count = 0 → d.linesAround count = []) := by
  intro first stop
  have slice : d.linesAround count = d.allLines.extract first stop := by
    rw [linesAround_of_addr small hc here, List.extract_eq_take_drop, List.take_eq_take_iff,
      List.length_drop]
    omega
  have marked : d.allLines.map (fun line => (line.addr, line.text, d.isCurrent line)) =
      d.allLines.zipIdx.map (fun (line, k) => (line.addr, line.text, k == c)) := by
    refine List.ext_getElem (by simp) fun k hk _ => ?_
    simp [isCurrent_getElem small hc here (List.length_map _ ▸ hk)]
  refine ⟨slice, ?_, fun none => none ▸ linesAround_zero d⟩
  rw [slice]
  simp only [List.extract_eq_take_drop, List.map_take, List.map_drop, marked]

/-- Three lines around the second one of four. -/
theorem linesAround_is_slice_three :
    let d := (ofMemory ⟨#[0x17, 0x00, 0x01, 0x18, 0x02, 0x00, 0x00]⟩ {}).step
    d.machine.memory.size ≤ 65536 ∧ (∃ hc : 1 < d.allLines.length, d.allLines[1].addr = d.ip) ∧
      d.linesAround 3 = d.allLines.extract 0 3 ∧
      (d.linesAround 3).map (fun line => (line.addr, line.text, d.isCurrent line)) =
        [(0, (Instruction.pshLit 1).text, false), (3, (Instruction.pshReg .r1).text, true),
          (5, s!"DB ${Text.Hex.byte 0}", false)] := by
  intro d
  have listed : d.allLines = [⟨0, [0x17, 0x00, 0x01], some (.pshLit 1)⟩,
      ⟨3, [0x18, 0x02], some (.pshReg .r1)⟩, ⟨5, [0x00], none⟩, ⟨6, [0x01], none⟩] := by
    decide +kernel
  have ip : d.ip = 3 := by decide +kernel
  have small : d.machine.memory.size ≤ 65536 := by decide +kernel
  have hc : 1 < d.allLines.length := by simp [listed]
  have here : d.allLines[1].addr = d.ip := by simp [listed, ip]
  obtain ⟨slice, shown, -⟩ := linesAround_is_slice d small hc here 3
  rw [listed] at slice shown
  exact ⟨small, ⟨hc, here⟩, listed ▸ slice, shown⟩

end WordMachine.Debugger
