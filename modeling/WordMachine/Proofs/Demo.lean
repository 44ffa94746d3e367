import WordMachine.Demo
import WordMachine.Proofs.Assembly
import WordMachine.Proofs.Machine.Trajectory
import WordMachine.Proofs.Memory

/-!
# The counting loop

One pass of the loop adds one to the word that it counts, and goes back to its beginning unless the
word is then 3. Words wrap, so the loop ends from every start: a word above 2 is first counted round
to 0. The passes are counted by how far the word is below 2, and a pass touches nothing but the word
and the registers that the loop uses.
-/

namespace WordMachine

namespace Demo

open Machine

/-! ## One instruction -/

/-- The machine runs and has the counting loop at address 0 and room for the word that it counts. -/
structure Counting (m : Machine) : Prop where
  running : m.state = .running
  room : m.memory.Holds counter 2
  shows : m.memory.Shows 0 countingLoop.program

/-- What the counting loop leaves as it is. -/
structure Kept (m t : Machine) : Prop where
  state : t.state = m.state
  size : t.memory.size = m.memory.size
  bytes : ∀ place, place ≠ counter.toNat → place ≠ counter.toNat + 1 →
    t.memory.bytes[place]? = m.memory.bytes[place]?
  registers : ∀ r, r ∉ [Register.ip, .acc, .r1, .r2] → t.get r = m.get r

variable {m t u : Machine}

theorem Kept.trans (h : Kept m t) (g : Kept t u) : Kept m u where
  state := g.state.trans h.state
  size := g.size.trans h.size
  bytes place first second := (g.bytes place first second).trans (h.bytes place first second)
  registers r other := (g.registers r other).trans (h.registers r other)

/-- The loop does not write to its own program. -/
theorem Counting.of_kept (h : Counting m) (kept : Kept m t) : Counting t where
  running := kept.state.trans h.running
  room := by rw [Memory.Holds, kept.size]; exact h.room
  shows := h.shows.congr fun k hk => by
    have below : k < 20 := hk
    have high : counter.toNat = 256 := rfl
    exact kept.bytes _ (by omega) (by omega)

theorem Counting.read16_eq (h : Counting m) :
    m.memory.read16 counter = .ok (m.memory.wordAt counter) := by
  rw [Memory.read16_eq, if_pos h.room]

/-- Of the loop's instructions the fourth stores the word, and the last may jump. -/
theorem kept_finish {i : Instruction} (listed : i ∈ countingLoop.code) (m : Machine) :
    Kept m (m.finish i).machine := by
  simp only [countingLoop, List.mem_cons, List.not_mem_nil, or_false] at listed
  refine ⟨by rw [finish, effect_frame]; rfl, size_effect .., ?_, ?_⟩
  · intro place first second
    rcases listed with rfl | rfl | rfl | rfl | rfl
    · rfl
    · rfl
    · rfl
    · exact Memory.getElem?_put16_of_ne _ first second
    · simp only [memory_finish, effect]
      split <;> rfl
  · intro r other
    simp only [List.mem_cons, List.not_mem_nil, or_false, not_or] at other
    rcases listed with rfl | rfl | rfl | rfl | rfl <;>
      simp [get_finish, effect, past, get_set, other, apply_ite (get · r)]

/-- Where the instructions of the loop begin. -/
def offset (k : Nat) : UInt16 := UInt16.ofNat (Assembly.ofList (countingLoop.code.take k)).size

theorem offset_lt : ∀ k < countingLoop.code.length, (offset k).toNat < 20 := by decide

/-- No instruction of the loop faults. -/
theorem Counting.runs {i : Instruction} (h : Counting m) (listed : i ∈ countingLoop.code) :
    (m.past i.size).faultOn? i = none := by
  have held (n : Nat) : (m.past n).accessFault? counter = none :=
    accessFault?_eq_none_iff.mpr h.room
  simp only [countingLoop, List.mem_cons, List.not_mem_nil, or_false] at listed
  rcases listed with rfl | rfl | rfl | rfl | rfl <;> simp only [faultOn?, held]

/-- An instruction of the loop runs where it begins. -/
theorem Counting.step_eq (h : Counting m) {k : Nat} (hk : k < countingLoop.code.length)
    (here : m.get .ip = offset k) : m.step = m.finish countingLoop.code[k] := by
  have fits : ∀ k (hk : k < countingLoop.code.length),
      (Assembly.ofList (countingLoop.code.take k)).size + countingLoop.code[k].size ≤ 65535 := by
    decide
  have decoded : m.memory.instructionAt (m.get .ip) = .ok countingLoop.code[k] := by
    rw [here]
    exact Assembly.instructionAt_of_shows (Assembly.toBytes_ofList _ ▸ h.shows) hk (fits k hk)
  rw [step_of_decoded h.running decoded, h.runs (List.getElem_mem hk)]

/-- The instruction pointer is behind the loop. -/
def Beyond (m : Machine) : Prop := 20 ≤ (m.get .ip).toNat

/-- `n` steps of the loop lead from one machine to another. -/
structure Leads (m : Machine) (n : Nat) (t : Machine) : Prop where
  kept : Kept m t
  cycles : t.cycles = m.cycles + UInt64.ofNat n
  /-- A run from the second machine is one from the first that takes `n` steps more. -/
  ends {budget k : Nat} {end? : Option Fault} {u : Machine}
    (rest : EndsIn Beyond budget t k end? u) : EndsIn Beyond (budget + n) m (k + n) end? u

theorem Leads.refl (m : Machine) : Leads m 0 m where
  kept := ⟨rfl, rfl, fun _ _ _ => rfl, fun _ _ => rfl⟩
  cycles := (UInt64.add_zero _).symm
  ends rest := rest

theorem Leads.trans {n k : Nat} (h : Leads m n t) (g : Leads t k u) : Leads m (n + k) u where
  kept := h.kept.trans g.kept
  cycles := by rw [g.cycles, h.cycles, UInt64.ofNat_add, UInt64.add_assoc]
  ends rest := by
    have whole := h.ends (g.ends rest)
    rwa [Nat.add_assoc, Nat.add_assoc, Nat.add_comm k n] at whole

theorem Counting.leads (h : Counting m) {k : Nat} (hk : k < countingLoop.code.length)
    (here : m.get .ip = offset k) : Leads m 1 (m.finish countingLoop.code[k]).machine where
  kept := kept_finish (List.getElem_mem hk) m
  cycles := rfl
  ends rest := by
    have inside : ¬ Beyond m := by
      rw [Beyond, here]
      exact Nat.not_le.mpr (offset_lt k hk)
    have steps := h.step_eq hk here
    rw [← steps] at rest
    exact rest.next inside (congrArg Step.outcome steps)

/-! ## One pass -/

/-- The first `k` instructions of a pass lead from one machine to another. -/
structure Passes (m : Machine) (k : Nat) (t : Machine) : Prop where
  leads : Leads m k t
  here : t.get .ip = offset k

theorem Passes.next {k : Nat} (h : Passes m k t) (counting : Counting m)
    (hk : k < countingLoop.code.length) (straight : ¬ countingLoop.code[k].Redirects t) :
    Passes m (k + 1) (t.finish countingLoop.code[k]).machine where
  leads := h.leads.trans ((counting.of_kept h.leads.kept).leads hk h.here)
  here := by
    have next : ∀ k (hk : k < countingLoop.code.length),
        UInt16.ofNat ((offset k).toNat + countingLoop.code[k].size) = offset (k + 1) := by decide
    rw [get_finish, get_ip_effect (mt (redirects_past _).mp straight), past, get_set_self, h.here,
      next k hk]

theorem load_finish (m : Machine) :
    (m.finish (.movMemReg counter .r1)).machine.get .r1 = m.memory.wordAt counter :=
  get_set_self ..

theorem one_finish (m : Machine) :
    let t := (m.finish (.movLitReg 1 .r2)).machine
    t.get .r1 = m.get .r1 ∧ t.get .r2 = 1 := by
  simp [get_finish, effect, past, get_set]

theorem add_finish (m : Machine) :
    (m.finish (.addRegReg .r1 .r2)).machine.get .acc = m.get .r1 + m.get .r2 := by
  simp [get_finish, effect, past, get_set]

theorem store_finish (held : m.memory.Holds counter 2) :
    let t := (m.finish (.movRegMem .acc counter)).machine
    t.memory.wordAt counter = m.get .acc ∧ t.get .acc = m.get .acc := by
  have acc (n : Nat) : (m.past n).get .acc = m.get .acc := get_past_of_ne m n (by decide)
  simp only [get_finish, memory_finish, effect, acc, get_stored, and_true]
  exact Memory.wordAt_of_shows (Memory.shows_put16 held _)

/-- The jump changes nothing but the instruction pointer. -/
theorem jump_finish (here : m.get .ip = offset 4) :
    let t := (m.finish (.jmpNotEq 3 0)).machine
    t.memory = m.memory ∧ t.get .acc = m.get .acc ∧
      t.get .ip = if m.get .acc = 3 then 20 else 0 := by
  have acc (n : Nat) : (m.past n).get .acc = m.get .acc := get_past_of_ne m n (by decide)
  simp only [get_finish, memory_finish, effect, acc]
  by_cases last : m.get .acc = 3
  · rw [if_pos last.symm, if_pos last]
    refine ⟨rfl, acc _, ?_⟩
    rw [past, get_set_self, here]
    rfl
  · rw [if_neg (Ne.symm last), if_neg last]
    exact ⟨rfl, (get_set_of_ne _ (by decide) _).trans (acc _), get_set_self ..⟩

/-- A pass adds one to the word, and it is the last one if the word is then 3. -/
theorem Counting.pass (h : Counting m) (start : m.get .ip = 0) :
    let sum := m.memory.wordAt counter + 1
    ∃ t, Leads m 5 t ∧ t.memory.wordAt counter = sum ∧ t.get .acc = sum ∧
      t.get .ip = if sum = 3 then 20 else 0 := by
  intro sum
  let m₁ := (m.finish (.movMemReg counter .r1)).machine
  let m₂ := (m₁.finish (.movLitReg 1 .r2)).machine
  let m₃ := (m₂.finish (.addRegReg .r1 .r2)).machine
  let m₄ := (m₃.finish (.movRegMem .acc counter)).machine
  have first : Passes m 1 m₁ := Passes.next (k := 0) ⟨.refl m, start⟩ h (by decide) nofun
  have second : Passes m 2 m₂ := first.next h (by decide) nofun
  have third : Passes m 3 m₃ := second.next h (by decide) nofun
  have fourth : Passes m 4 m₄ := third.next h (by decide) nofun
  have fifth : Leads m 5 (m₄.finish (.jmpNotEq 3 0)).machine := fourth.leads.trans
    ((h.of_kept fourth.leads.kept).leads (k := 4) (by decide) fourth.here)
  obtain ⟨r1, r2⟩ := one_finish m₁
  have added : m₃.get .acc = sum := by
    rw [add_finish, r1, r2, load_finish]
  obtain ⟨word, acc⟩ := store_finish (h.of_kept third.leads.kept).room
  obtain ⟨memory, same, ip⟩ := jump_finish fourth.here
  rw [← memory, added] at word
  rw [acc, added] at same ip
  exact ⟨_, fifth, word, same, ip⟩

/-! ## All passes -/

/-- How far a word is below 2, where words wrap. -/
def belowTwo (w : UInt16) : Nat := ((2 - (w.toNat : Int)) % 65536).toNat

theorem belowTwo_eq_zero_iff {w : UInt16} : belowTwo w = 0 ↔ w + 1 = 3 := by
  have bound := w.toNat_lt
  have next : (w + 1).toNat = (w.toNat + 1) % 65536 := UInt16.toNat_add ..
  have three : (3 : UInt16).toNat = 3 := rfl
  rw [← UInt16.toNat_inj, next, three, belowTwo]
  omega

theorem belowTwo_add_one {w : UInt16} (h : belowTwo w ≠ 0) : belowTwo (w + 1) + 1 = belowTwo w := by
  have bound := w.toNat_lt
  have next : (w + 1).toNat = (w.toNat + 1) % 65536 := UInt16.toNat_add ..
  simp only [belowTwo, next] at h ⊢
  omega

/-- There are as many passes as the word is below 2, and the last one. -/
theorem Counting.passes (h : Counting m) (start : m.get .ip = 0) {left : Nat}
    (below : belowTwo (m.memory.wordAt counter) = left) :
    ∃ t, Leads m (5 * (left + 1)) t ∧ t.memory.wordAt counter = 3 ∧ t.get .acc = 3 ∧
      t.get .ip = 20 := by
  induction left generalizing m with
  | zero =>
    obtain ⟨t, leads, word, acc, ip⟩ := h.pass start
    have last := belowTwo_eq_zero_iff.mp below
    rw [if_pos last] at ip
    rw [last] at word acc
    exact ⟨t, leads, word, acc, ip⟩
  | succ left ih =>
    -- The first pass jumps back, and the others are those of the word that is one further.
    obtain ⟨s, leads, word, -, ip⟩ := h.pass start
    have more : belowTwo (m.memory.wordAt counter) ≠ 0 := by omega
    have nearer : belowTwo (s.memory.wordAt counter) = left := by
      rw [word]
      exact Nat.succ.inj ((belowTwo_add_one more).trans below)
    rw [if_neg (mt belowTwo_eq_zero_iff.mpr more)] at ip
    obtain ⟨t, rest, done⟩ := ih (h.of_kept leads.kept) ip nearer
    have whole := leads.trans rest
    rw [Nat.add_comm 5, ← Nat.mul_succ] at whole
    exact ⟨t, whole, done⟩

/-- From every start the counting loop ends behind its last instruction with 3 in the word and in
the accumulator. It takes five steps for each pass, all of them without a fault, and what it does not
use is as before. -/
theorem countingLoop_counts_to_three {m : Machine} (running : m.state = .running)
    (start : m.get .ip = 0) (room : 0x0102 ≤ m.memory.size)
    (loaded : m.memory.slice 0 countingLoop.program.length = countingLoop.program) :
    ∃ w, m.memory.read16 0x0100 = .ok w ∧
      let k := ((2 - (w.toNat : Int)) % 65536).toNat + 1
      let t := m.afterSteps (5 * k)
      m.RunsFor (5 * k) ∧ m.runFor (5 * k) = (.ok (), t) ∧
      (∀ j < 5 * k, ((m.afterSteps j).get .ip).toNat < 20) ∧
      t.get .ip = 20 ∧ t.memory.read16 0x0100 = .ok 3 ∧ t.get .acc = 3 ∧
      t.cycles = m.cycles + UInt64.ofNat (5 * k) ∧ t.memory.size = m.memory.size ∧
      (∀ place, place ≠ 0x0100 → place ≠ 0x0101 →
        t.memory.bytes[place]? = m.memory.bytes[place]?) ∧
      ∀ r ∈ [Register.sp, .fp, .r3, .r4, .r5, .r6, .r7, .r8], t.get r = m.get r := by
  have counting : Counting m := ⟨running, room, Memory.slice_eq_iff_shows.mp loaded⟩
  obtain ⟨t, leads, word, acc, ip⟩ := counting.passes start rfl
  have beyond : Beyond t := by rw [Beyond, ip]; decide
  have ends := leads.ends (.of_halt beyond 0)
  have read := (counting.of_kept leads.kept).read16_eq
  rw [word] at read
  simp only [Nat.zero_add] at ends
  refine ⟨_, counting.read16_eq, ?_⟩
  intro k
  have size : 5 * (belowTwo (m.memory.wordAt counter) + 1) = 5 * k := rfl
  rw [size] at ends leads
  cases ends with
  | halted _ runs before =>
    have others : ∀ r ∈ [Register.sp, .fp, .r3, .r4, .r5, .r6, .r7, .r8],
        r ∉ [Register.ip, .acc, .r1, .r2] := by decide
    exact ⟨runs, runs.runFor_eq, fun j lt => Nat.not_le.mp (before j lt), ip, read, acc,
      leads.cycles, leads.kept.size, leads.kept.bytes,
      fun r listed => leads.kept.registers r (others r listed)⟩

/-- A loop that begins at 3 takes all 65536 passes. -/
theorem countingLoop_counts_to_three_round :
    let memory : Memory := ⟨(countingLoop.program ++ List.replicate 236 0 ++ [0, 3]).toArray⟩
    let m : Machine := .ofMemory memory {}
    m.state = .running ∧ m.get .ip = 0 ∧ 0x0102 ≤ m.memory.size ∧
      m.memory.slice 0 countingLoop.program.length = countingLoop.program ∧
      ∃ t, m.runFor 327680 = (.ok (), t) ∧ t.get .ip = 20 ∧ t.get .acc = 3 ∧
        t.cycles = 327680 := by
  intro memory m
  have room : 0x0102 ≤ m.memory.size := by decide +kernel
  have loaded : m.memory.slice 0 countingLoop.program.length = countingLoop.program := by
    decide +kernel
  obtain ⟨w, read, -, ran, -, ip, -, acc, cycles, -⟩ :=
    countingLoop_counts_to_three (m := m) rfl rfl room loaded
  have three : m.memory.read16 0x0100 = .ok 3 := by decide +kernel
  obtain rfl : w = 3 := Except.ok.inj (read.symm.trans three)
  have steps : 5 * (((2 - ((3 : UInt16).toNat : Int)) % 65536).toNat + 1) = 327680 := by decide
  rw [steps] at ran ip acc cycles
  have counted : m.cycles + UInt64.ofNat 327680 = 327680 := by decide +kernel
  exact ⟨rfl, rfl, room, loaded, _, ran, ip, acc, cycles.trans counted⟩

end Demo

end WordMachine
