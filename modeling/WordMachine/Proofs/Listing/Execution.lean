import WordMachine.Proofs.Listing.Sweep
import WordMachine.Proofs.Machine.Frame

/-!
# Listings and runs

A machine at the address of a line runs the instruction of the line, or skips its byte, and goes on
to the next line unless it is told to go elsewhere. A run that is only ever told to go to lines, and
that finds them as they were listed, runs nothing but the listing.
-/

namespace WordMachine

namespace Memory

/-- The bytes from `addr` on that an instruction can have are the same in two memories. -/
def SameAt (m n : Memory) (addr : UInt16) : Prop := m.slice addr.toNat 5 = n.slice addr.toNat 5

theorem shows_iff_slice {m : Memory} {place count : Nat} {bytes : Bytes}
    (short : bytes.length ≤ count) : m.Shows place bytes ↔ bytes <+: m.slice place count := by
  rw [slice, Array.toList_extract, List.extract_eq_take_drop, Nat.add_sub_cancel_left,
    List.prefix_take_iff]
  exact (and_iff_left short).symm

/-- What is decoded depends on no more than five bytes. -/
theorem instructionAt_congr {m n : Memory} {addr : UInt16} (same : m.SameAt n addr)
    {i : Instruction} : m.instructionAt addr = .ok i ↔ n.instructionAt addr = .ok i := by
  have short : i.encode.length ≤ 5 := i.length_encode ▸ i.size_le
  rw [instructionAt_eq_ok_iff, instructionAt_eq_ok_iff, shows_iff_slice short,
    shows_iff_slice short, same]

theorem shows_of_invalidOpcode {m : Memory} {addr : UInt16} {byte : UInt8}
    (h : m.instructionAt addr = .error (.invalidOpcode byte)) :
    m.Shows addr.toNat [byte] ∧ addr.toNat + 1 ≤ 65535 := by
  simp only [instructionAt] at h
  cases read : Cursor.nextInstruction ⟨m, addr⟩ with
  | ok i c => simp [read] at h
  | error e c =>
    obtain rfl : e = .invalidOpcode byte := by simpa [read] using h
    exact ((Cursor.reads_nextByte _ _ _).mp (Machine.nextInstruction_invalidOpcode read)).1

end Memory

namespace Machine

/-! ## One step -/

theorem running_of_step_ok {m : Machine} {outcome : Option Instruction}
    (h : m.step.outcome = .ok outcome) : m.state = .running := by
  cases state : m.state with
  | running => rfl
  | faulted =>
    rw [step_of_faulted state] at h
    cases h

/-- Nothing is run or skipped outside memory. -/
theorem lt_size_of_step_ok {m : Machine} {outcome : Option Instruction}
    (h : m.step.outcome = .ok outcome) : (m.get .ip).toNat < m.memory.size := by
  rcases step_cases (running_of_step_ok h) with
    ⟨i, decoded, -, -⟩ | ⟨byte, undecoded, -, -⟩ | ⟨fault, steps⟩
  · have shown := (Memory.instructionAt_eq_ok_iff.mp decoded).1
    have positive := i.size_pos
    have inside := shown.length_le (i.length_encode ▸ positive)
    rw [i.length_encode] at inside
    omega
  · exact (Memory.shows_of_invalidOpcode undecoded).1.length_le Nat.one_pos
  · rw [steps] at h
    cases h

/-- The line at the instruction pointer tells what a step that does not fault runs, and where it
ends. -/
theorem step_meets_line {m : Machine} {listed : Memory} {outcome : Option Instruction}
    (same : m.memory.SameAt listed (m.get .ip)) (inside : (m.get .ip).toNat < listed.size)
    (succeeds : m.step.outcome = .ok outcome) :
    outcome = (listed.lineAt (m.get .ip)).instruction ∧
      (outcome = none → m.settings.opcodePolicy = .permissive) ∧
      ((∀ i, outcome = some i → ¬ i.Redirects m) →
        (m.step.machine.get .ip).toNat =
          (m.get .ip).toNat + (listed.lineAt (m.get .ip)).bytes.length) := by
  rcases step_cases (running_of_step_ok succeeds) with
    ⟨i, decoded, -, steps⟩ | ⟨byte, undecoded, permissive, steps⟩ | ⟨fault, steps⟩
  · rw [steps] at succeeds ⊢
    obtain rfl : some i = outcome := Except.ok.inj succeeds
    have ends := (Memory.instructionAt_eq_ok_iff.mp decoded).2
    rw [Memory.lineAt_of_decoded ((Memory.instructionAt_congr same).mp decoded)]
    refine ⟨rfl, nofun, ?_⟩
    intro straight
    have stays := get_ip_effect (mt (redirects_past i.size).mp (straight i rfl))
    have moved : (m.finish i).machine.get .ip = UInt16.ofNat ((m.get .ip).toNat + i.size) :=
      stays.trans (get_set_self ..)
    rw [moved, i.length_encode]
    exact UInt16.toNat_ofNat_of_lt' (Nat.lt_succ_of_le ends)
  · rw [steps] at succeeds ⊢
    obtain rfl : none = outcome := Except.ok.inj succeeds
    have ends := (Memory.shows_of_invalidOpcode undecoded).2
    cases found : listed.instructionAt (m.get .ip) with
    | ok i =>
      rw [(Memory.instructionAt_congr same).mpr found] at undecoded
      cases undecoded
    | error e =>
      -- Whatever the error, the line is the one byte, and one byte is what a step skips.
      rw [Memory.lineAt_of_undecoded found inside]
      refine ⟨rfl, fun _ => permissive, ?_⟩
      intro _
      have moved : (m.skip byte).machine.get .ip = UInt16.ofNat ((m.get .ip).toNat + 1) :=
        get_set_self ..
      rw [moved]
      exact UInt16.toNat_ofNat_of_lt' (Nat.lt_succ_of_le ends)
  · rw [steps] at succeeds
    cases succeeds

/-- The same at a line of a sweep. -/
theorem step_meets_listed {m : Machine} {listed : Memory} {place stop : Nat} {lines : List Line}
    (tiles : listed.Tiles place lines stop) (small : listed.size ≤ 65536) {line : Line}
    (member : line ∈ lines) (here : m.get .ip = line.addr)
    (same : m.memory.SameAt listed line.addr) {outcome : Option Instruction}
    (succeeds : m.step.outcome = .ok outcome) :
    outcome = line.instruction ∧
      (outcome = none → m.settings.opcodePolicy = .permissive) ∧
      ((∀ i, outcome = some i → ¬ i.Redirects m) →
        (m.step.machine.get .ip).toNat = line.addr.toNat + line.bytes.length) := by
  obtain ⟨inside, line_eq⟩ := tiles.eq_lineAt small member
  rw [← here] at inside same line_eq
  rw [line_eq, Memory.addr_lineAt]
  exact step_meets_line same inside succeeds

theorem get_ip_of_step_error {m : Machine} {fault : Fault} (h : m.step.outcome = .error fault) :
    m.step.machine.get .ip = m.get .ip := by
  cases state : m.state with
  | faulted => rw [step_of_faulted state]
  | running =>
    rw [step_eq_stop state h]
    rfl

end Machine

/-! ## Runs -/

/-- A run of `n` steps that keeps to the lines of a listed memory: it begins at a line, the
instruction pointer is only ever set to lines, and what it runs is at that moment as it was listed.
-/
structure KeepsTo (listed : Memory) (lines : List Line) (m : Machine) (n : Nat) : Prop where
  size : m.memory.size = listed.size
  begins : ∃ line ∈ lines, m.get .ip = line.addr
  redirected : ∀ k < n, ∀ i, (m.afterSteps k).step.outcome = .ok (some i) →
    i.Redirects (m.afterSteps k) → ∃ line ∈ lines, (m.afterSteps (k + 1)).get .ip = line.addr
  intact : ∀ k < n, ∀ outcome, (m.afterSteps k).step.outcome = .ok outcome →
    ∀ line ∈ lines, (m.afterSteps k).get .ip = line.addr →
      (m.afterSteps k).memory.SameAt listed line.addr

namespace KeepsTo

open Machine

variable {listed : Memory} {lines : List Line} {m : Machine} {n place : Nat}

theorem inside_of_step_ok (h : KeepsTo listed lines m n) {k : Nat} {outcome : Option Instruction}
    (succeeds : (m.afterSteps k).step.outcome = .ok outcome) :
    ((m.afterSteps k).get .ip).toNat < listed.size := by
  rw [← h.size, ← (sameFrame_afterSteps m k).size]
  exact lt_size_of_step_ok succeeds

/-- A step from a line leads to a line or to the end of memory. -/
theorem at_line_step (h : KeepsTo listed lines m n)
    (tiles : listed.Tiles place lines listed.size) (small : listed.size ≤ 65536) {k : Nat}
    (hk : k < n) {outcome : Option Instruction}
    (succeeds : (m.afterSteps k).step.outcome = .ok outcome) {line : Line} (member : line ∈ lines)
    (here : (m.afterSteps k).get .ip = line.addr) :
    (∃ next ∈ lines, (m.afterSteps (k + 1)).get .ip = next.addr) ∨
      ((m.afterSteps (k + 1)).get .ip).toNat = listed.size := by
  have same := h.intact k hk outcome succeeds line member here
  obtain ⟨-, -, goes⟩ := step_meets_listed tiles small member here same succeeds
  by_cases redirected : ∃ i, outcome = some i ∧ i.Redirects (m.afterSteps k)
  · obtain ⟨i, rfl, redirects⟩ := redirected
    exact .inl (h.redirected k hk i succeeds redirects)
  · -- What is not redirected ends where the line ends.
    have moved := goes fun i ran redirects => redirected ⟨i, ran, redirects⟩
    rw [← afterSteps_succ] at moved
    rw [moved]
    refine (tiles.exists_next small member).imp_left ?_
    rintro ⟨next, listedNext, ends⟩
    exact ⟨next, listedNext, UInt16.toNat.inj (moved.trans ends)⟩

/-- A run that keeps to a listing is at a line or at the end of memory. -/
theorem at_line (h : KeepsTo listed lines m n) (tiles : listed.Tiles place lines listed.size)
    (small : listed.size ≤ 65536) {k : Nat} (hk : k ≤ n) :
    (∃ line ∈ lines, (m.afterSteps k).get .ip = line.addr) ∨
      ((m.afterSteps k).get .ip).toNat = listed.size := by
  induction k with
  | zero => exact .inl h.begins
  | succ k ih =>
    have before := ih (Nat.le_of_succ_le hk)
    cases outcome : (m.afterSteps k).step.outcome with
    | error fault =>
      rw [afterSteps_succ, get_ip_of_step_error outcome]
      exact before
    | ok result =>
      rcases before with ⟨line, member, here⟩ | outside
      · exact h.at_line_step tiles small hk outcome member here
      · exact absurd outside (Nat.ne_of_lt (h.inside_of_step_ok outcome))

theorem step_listed (h : KeepsTo listed lines m n) (tiles : listed.Tiles place lines listed.size)
    (small : listed.size ≤ 65536) {k : Nat} (hk : k < n) {outcome : Option Instruction}
    (succeeds : (m.afterSteps k).step.outcome = .ok outcome) :
    ∃ line ∈ lines, line.addr = (m.afterSteps k).get .ip ∧ line.instruction = outcome := by
  rcases h.at_line tiles small (Nat.le_of_lt hk) with ⟨line, member, here⟩ | outside
  · have same := h.intact k hk outcome succeeds line member here
    obtain ⟨runs, -, -⟩ := step_meets_listed tiles small member here same succeeds
    exact ⟨line, member, here.symm, runs.symm⟩
  · exact absurd outside (Nat.ne_of_lt (h.inside_of_step_ok succeeds))

end KeepsTo

/-- A sweep of a whole memory foretells what a machine over that memory does. At a line it can only
run the instruction of the line, or skip its byte where that is permitted, and unless it is
redirected it goes on to the next line or to the end of memory. So a run that keeps to the lines
runs nothing else, at no other address. -/
theorem sweep_predicts_execution (listed : Memory) (small : listed.size ≤ 65536) (start : UInt16) :
    (∀ m : Machine, m.memory = listed →
      ∀ k (hk : k < (listed.sweep start listed.size).length),
        m.get .ip = (listed.sweep start listed.size)[k].addr →
        ∀ outcome, m.step.outcome = .ok outcome →
          outcome = (listed.sweep start listed.size)[k].instruction ∧
          (outcome = none → m.settings.opcodePolicy = .permissive) ∧
          ((∀ i, outcome = some i → ¬ i.Redirects m) →
            (m.step.machine.get .ip).toNat =
              ((listed.sweep start listed.size)[k + 1]?.map fun line => line.addr.toNat).getD
                listed.size)) ∧
    (∀ m n, KeepsTo listed (listed.sweep start listed.size) m n →
      ∀ k < n, ∀ outcome, (m.afterSteps k).step.outcome = .ok outcome →
        ∃ line ∈ listed.sweep start listed.size,
          line.addr = (m.afterSteps k).get .ip ∧ line.instruction = outcome) := by
  by_cases inside : start.toNat ≤ listed.size
  case neg =>
    -- There is no line to be at or to begin with.
    have empty := Memory.sweep_of_size_le (Nat.le_of_not_le inside) listed.size
    rw [empty]
    refine ⟨fun m _ k hk => absurd hk (Nat.not_lt_zero k), ?_⟩
    intro m n keeps
    obtain ⟨line, member, -⟩ := keeps.begins
    cases member
  case pos =>
    have tiles := Memory.sweep_all small inside
    constructor
    · intro m whole k hk here outcome succeeds
      have same : m.memory.SameAt listed (listed.sweep start listed.size)[k].addr := by
        rw [whole]
        rfl
      rw [← tiles.addr_next small hk]
      exact Machine.step_meets_listed tiles small (List.getElem_mem hk) here same succeeds
    · intro m n keeps k hk outcome succeeds
      exact keeps.step_listed tiles small hk succeeds

/-- A skipped byte, an addition and a jump back to it. -/
theorem sweep_predicts_execution_loop :
    let listed : Memory := ⟨#[0xFF, 0x14, 0x02, 0x03, 0x15, 0x00, 0x03, 0x00, 0x01, 0x00]⟩
    let lines := listed.sweep 0 listed.size
    let m : Machine := .ofMemory listed { opcodePolicy := .permissive }
    listed.size ≤ 65536 ∧ KeepsTo listed lines m 3 ∧
      (∃ line ∈ lines, line.addr = (m.afterSteps 2).get .ip ∧
        line.instruction = some (.jmpNotEq 3 1)) ∧
      m.step.outcome = .ok none ∧ (m.step.machine.get .ip).toNat = 1 := by
  intro listed lines m
  have moments : ∀ k < 3, (m.afterSteps k).memory = listed ∧
      ∃ line ∈ lines, (m.afterSteps (k + 1)).get .ip = line.addr := by decide +kernel
  have keeps : KeepsTo listed lines m 3 := by
    refine ⟨rfl, ⟨⟨0, [0xFF], none⟩, by decide +kernel, rfl⟩, ?_, ?_⟩
    · intro k hk i _ _
      exact (moments k hk).2
    · intro k hk outcome _ line _ _
      rw [(moments k hk).1]
      rfl
  obtain ⟨step, run⟩ := sweep_predicts_execution listed (by decide) 0
  have jumps : (m.afterSteps 2).step.outcome = .ok (some (.jmpNotEq 3 1)) := by decide +kernel
  have skips : m.step.outcome = .ok none := by decide +kernel
  have next := (step m rfl 0 (by decide +kernel) (by decide +kernel) none skips).2.2 nofun
  exact ⟨by decide, keeps, run m 3 keeps 2 (by decide) _ jumps, skips,
    next.trans (by decide +kernel)⟩

end WordMachine
