import WordMachine.Proofs.Machine.Fetch

/-!
# Steps by what is decoded

A step of a running machine has one of three ends, and what is decoded at the instruction pointer
tells which: the instruction is executed, a byte that is no opcode is skipped, or the machine
stops with a fault and is otherwise as it was.
-/

namespace WordMachine.Machine

/-- The machine with its instruction pointer `n` bytes further. -/
def past (m : Machine) (n : Nat) : Machine := m.set .ip (UInt16.ofNat ((m.get .ip).toNat + n))

/-- The step of a machine that executes an instruction. -/
def finish (m : Machine) (i : Instruction) : Step where
  outcome := .ok (some i)
  event := some (.executed (m.get .ip) i (m.cycles + 1))
  machine := { (m.past i.size).effect i with cycles := m.cycles + 1, last := some i }

theorem get_finish (m : Machine) (i : Instruction) (r : Register) :
    (m.finish i).machine.get r = ((m.past i.size).effect i).get r := rfl

theorem memory_finish (m : Machine) (i : Instruction) :
    (m.finish i).machine.memory = ((m.past i.size).effect i).memory := rfl

/-- The step of a machine that skips a byte. -/
def skip (m : Machine) (byte : UInt8) : Step where
  outcome := .ok none
  event := some (.ignored (m.get .ip) byte)
  machine := m.past 1

/-- The step of a machine that faults. -/
def stop (m : Machine) (fault : Fault) : Step where
  outcome := .error fault
  event := some (.faulted (m.get .ip) fault)
  machine := { m with state := .faulted }

/-- A byte that is no opcode is the first byte read, and the last. -/
theorem nextInstruction_invalidOpcode {c d : Cursor} {byte : UInt8}
    (h : Cursor.nextInstruction c = .error (.invalidOpcode byte) d) :
    Cursor.nextByte c = .ok byte d := by
  simp only [Cursor.nextInstruction, bind, EStateM.bind] at h
  cases first : Cursor.nextByte c with
  | error e d' =>
    simp only [first] at h
    cases h
    exact absurd first (Fetches.nextByte.operand _ _ _)
  | ok byte' d' =>
    simp only [first] at h
    cases found : Opcode.ofByte? byte' with
    | some op =>
      simp only [found] at h
      exact absurd h ((Fetches.read op).operand _ _ _)
    | none =>
      simp only [found] at h
      cases h
      rfl

/-- An attempt at a step, by what a cursor at the instruction pointer reads. -/
theorem advance_eq (m : Machine) :
    advance m = match Cursor.nextInstruction m.cursor with
      | .ok i c =>
        match (m.set .ip c.position).faultOn? i with
        | none => .ok (.executed i) ((m.set .ip c.position).effect i)
        | some fault => .error fault (m.set .ip c.position)
      | .error e c =>
        match e, m.settings.opcodePolicy with
        | .invalidOpcode byte, .permissive => .ok (.ignored byte) (m.set .ip c.position)
        | e, _ => .error (.ofDecode e) (m.set .ip c.position) := by
  have fetched := Fetches.nextByte.follows m
  -- An opcode error comes from the byte itself: neither the first read nor the operands have one.
  cases first : Cursor.nextByte m.cursor with
  | error e c =>
    rw [first] at fetched
    rw [advance, bind_of_error fetched, Cursor.nextInstruction, bind_of_error first]
    cases e with
    | invalidOpcode byte => exact absurd first (Fetches.nextByte.operand _ _ byte)
    | _ => rfl
  | ok byte c =>
    rw [first] at fetched
    rw [advance, bind_of_ok fetched, Cursor.nextInstruction, bind_of_ok first]
    cases Opcode.ofByte? byte with
    | none =>
      let fetchedTo := m.set .ip c.position
      have read : (getThe Machine : Action Machine) fetchedTo = .ok fetchedTo fetchedTo := rfl
      have policy : fetchedTo.settings = m.settings := rfl
      refine (bind_of_ok read).trans ?_
      cases h : m.settings.opcodePolicy <;> simp only [policy, h] <;> rfl
    | some op =>
      have operands := (Fetches.read op).follows (m.set .ip c.position)
      rw [cursor_set (Fetches.nextByte.memory _ _ _ first), follow_set] at operands
      cases read : (Instruction.read op : Cursor.Read Instruction) c with
      | error e d =>
        rw [read] at operands
        simp only [bind_of_error operands, read]
        cases e with
        | invalidOpcode byte => exact absurd read ((Fetches.read op).operand _ _ byte)
        | _ => rfl
      | ok i d =>
        rw [read] at operands
        simp only [bind_of_ok operands, read]
        simp only [bind, EStateM.bind, execute_eq]
        cases (m.set .ip d.position).faultOn? i <;> rfl

theorem step_of_faulted {m : Machine} (faulted : m.state = .faulted) :
    m.step = ⟨.error (.notRunning .faulted), none, m⟩ := by
  simp only [step, faulted]

/-- Putting the instruction pointer back makes up for all that fetching did. -/
theorem stop_after_fetch (m : Machine) (addr : UInt16) (fault : Fault) :
    (⟨.error fault, some (.faulted (m.get .ip) fault),
      { (m.set .ip addr).set .ip (m.get .ip) with state := .faulted }⟩ : Step) = m.stop fault := by
  rw [set_set, set_get_self]
  rfl

theorem step_of_decoded {m : Machine} {i : Instruction} (running : m.state = .running)
    (decoded : m.memory.instructionAt (m.get .ip) = .ok i) :
    m.step = match (m.past i.size).faultOn? i with
      | none => m.finish i
      | some fault => m.stop fault := by
  have shown := Memory.instructionAt_eq_ok_iff.mp decoded
  rw [← i.length_encode] at shown
  have read := (Cursor.reads_nextInstruction m.cursor i _).mpr ⟨shown, rfl⟩
  have pointer : m.set .ip (m.cursor.skip i.encode.length).position = m.past i.size := by
    rw [i.length_encode]; rfl
  simp only [step, running, advance_eq, read, pointer]
  cases (m.past i.size).faultOn? i with
  | none => simp only [cycles_effect]; rfl
  | some fault => exact stop_after_fetch m _ fault

theorem nextInstruction_of_undecoded {m : Machine} {e : DecodeError}
    (undecoded : m.memory.instructionAt (m.get .ip) = .error e) :
    ∃ c, Cursor.nextInstruction m.cursor = .error e c := by
  simp only [Memory.instructionAt] at undecoded
  cases read : Cursor.nextInstruction ⟨m.memory, m.get .ip⟩ with
  | ok i c => simp [read] at undecoded
  | error e' c =>
    obtain rfl : e' = e := by simpa [read] using undecoded
    exact ⟨c, read⟩

/-- Nothing is skipped that is not permitted to be, and no operand ever. -/
theorem step_of_undecoded {m : Machine} {e : DecodeError} (running : m.state = .running)
    (undecoded : m.memory.instructionAt (m.get .ip) = .error e)
    (refused : m.settings.opcodePolicy = .strict ∨ ∀ byte, e ≠ .invalidOpcode byte) :
    m.step = m.stop (.ofDecode e) := by
  obtain ⟨c, read⟩ := nextInstruction_of_undecoded undecoded
  simp only [step, running, advance_eq, read]
  cases e with
  | invalidOpcode byte =>
    have strict : m.settings.opcodePolicy = .strict :=
      refused.resolve_right fun operand => operand byte rfl
    rw [strict]
    exact stop_after_fetch m _ _
  | _ => exact stop_after_fetch m _ _

theorem step_of_skipped {m : Machine} {byte : UInt8} (running : m.state = .running)
    (undecoded : m.memory.instructionAt (m.get .ip) = .error (.invalidOpcode byte))
    (permissive : m.settings.opcodePolicy = .permissive) :
    m.step = m.skip byte ∧ (m.get .ip).toNat + 1 ≤ 65535 := by
  obtain ⟨c, read⟩ := nextInstruction_of_undecoded undecoded
  obtain ⟨⟨-, inside⟩, rfl⟩ :=
    (Cursor.reads_nextByte _ _ _).mp (nextInstruction_invalidOpcode read)
  simp only [step, running, advance_eq, read, permissive]
  exact ⟨rfl, inside⟩

/-- The ends that a step of a running machine can have. -/
theorem step_cases {m : Machine} (running : m.state = .running) :
    (∃ i, m.memory.instructionAt (m.get .ip) = .ok i ∧ (m.past i.size).faultOn? i = none ∧
      m.step = m.finish i) ∨
    (∃ byte, m.memory.instructionAt (m.get .ip) = .error (.invalidOpcode byte) ∧
      m.settings.opcodePolicy = .permissive ∧ m.step = m.skip byte) ∨
    ∃ fault, m.step = m.stop fault := by
  cases decoded : m.memory.instructionAt (m.get .ip) with
  | ok i =>
    have steps := step_of_decoded running decoded
    cases runs : (m.past i.size).faultOn? i with
    | none => exact .inl ⟨i, rfl, runs, by rw [steps, runs]⟩
    | some fault => exact .inr (.inr ⟨fault, by rw [steps, runs]⟩)
  | error e =>
    cases policy : m.settings.opcodePolicy with
    | strict => exact .inr (.inr ⟨_, step_of_undecoded running decoded (.inl policy)⟩)
    | permissive =>
      cases e with
      | invalidOpcode byte =>
        exact .inr (.inl ⟨byte, rfl, rfl, (step_of_skipped running decoded policy).1⟩)
      | _ => exact .inr (.inr ⟨_, step_of_undecoded running decoded (.inr nofun)⟩)

/-- A step that ends in a fault does nothing else. -/
theorem step_eq_stop {m : Machine} {fault : Fault} (running : m.state = .running)
    (h : m.step.outcome = .error fault) : m.step = m.stop fault := by
  rcases step_cases running with ⟨i, -, -, steps⟩ | ⟨byte, -, -, steps⟩ | ⟨fault', steps⟩
  · rw [steps] at h; cases h
  · rw [steps] at h; cases h
  · rw [steps] at h; cases h
    exact steps

/-- A step of a running machine reports one event, at the address where the step began. -/
theorem event_of_running {m : Machine} (running : m.state = .running) :
    ∃ e, m.step.event = some e ∧ e.ip = m.get .ip := by
  rcases step_cases running with ⟨i, -, -, steps⟩ | ⟨byte, -, -, steps⟩ | ⟨fault, steps⟩ <;>
    exact ⟨_, congrArg Step.event steps, rfl⟩

theorem ip_of_event {m : Machine} {e : Event} (h : m.step.event = some e) : e.ip = m.get .ip := by
  cases state : m.state with
  | running =>
    obtain ⟨reported, is, ip⟩ := event_of_running state
    obtain rfl : reported = e := Option.some.inj (is.symm.trans h)
    exact ip
  | faulted => simp [step_of_faulted state] at h

/-- The machine decodes as a cursor does: it reads the same operands, fails alike and moves its
instruction pointer as far. So what can be decoded at the instruction pointer is executed or stops
the machine by its execution, and what cannot stops it, but for skipped bytes. -/
theorem step_agrees_with_cursor (m : Machine) :
    (∀ op : Opcode, (Instruction.read op : Action Instruction) m =
      m.follow ((Instruction.read op : Cursor.Read Instruction) ⟨m.memory, m.get .ip⟩)) ∧
    (m.state = .running →
      (∀ i, m.memory.instructionAt (m.get .ip) = .ok i →
        m.step.outcome = .ok (some i) ∨
          ∃ fault, execute i (m.past i.size) = .error fault (m.past i.size) ∧
            m.step = m.stop fault) ∧
      (∀ e, m.memory.instructionAt (m.get .ip) = .error e →
        (m.settings.opcodePolicy = .strict ∨ ∀ byte, e ≠ .invalidOpcode byte) →
          m.step = m.stop (.ofDecode e)) ∧
      (∀ byte, m.memory.instructionAt (m.get .ip) = .error (.invalidOpcode byte) →
        m.settings.opcodePolicy = .permissive →
          m.step.outcome = .ok none ∧ m.step.machine = m.set .ip (m.get .ip + 1) ∧
            (m.step.machine.get .ip).toNat = (m.get .ip).toNat + 1)) := by
  refine ⟨fun op => (Fetches.read op).follows m, ?_⟩
  intro running
  refine ⟨?_, ?_, ?_⟩
  · intro i decoded
    rw [step_of_decoded running decoded, execute_eq]
    cases (m.past i.size).faultOn? i with
    | none => exact .inl rfl
    | some fault => exact .inr ⟨fault, rfl, rfl⟩
  · intro e undecoded refused
    exact step_of_undecoded running undecoded refused
  · intro byte undecoded permissive
    obtain ⟨steps, inside⟩ := step_of_skipped running undecoded permissive
    have next : UInt16.ofNat ((m.get .ip).toNat + 1) = m.get .ip + 1 := by
      apply UInt16.toNat.inj
      simp
    rw [steps]
    refine ⟨rfl, by simp only [skip, past, next], ?_⟩
    simp only [skip, past, get_set_self, UInt16.toNat_ofNat']
    omega

/-- One byte that is no opcode under both policies, and a push that memory has no room for. -/
theorem step_agrees_with_cursor_small :
    let strict : Machine := .ofMemory ⟨#[0xEE, 0x00]⟩ {}
    let permissive : Machine := .ofMemory ⟨#[0xEE, 0x00]⟩ { opcodePolicy := .permissive }
    let full : Machine := .ofMemory ⟨#[0x18, 0x0A]⟩ {}
    strict.step = strict.stop (.invalidOpcode 0xEE) ∧
      permissive.step.machine = permissive.set .ip (permissive.get .ip + 1) ∧
      (full.step.outcome = .ok (some (.pshReg .sp)) ∨
        ∃ fault, execute (.pshReg .sp) (full.past 2) = .error fault (full.past 2) ∧
          full.step = full.stop fault) := by
  intro strict permissive full
  exact ⟨((step_agrees_with_cursor strict).2 rfl).2.1 (.invalidOpcode 0xEE) rfl (.inl rfl),
    (((step_agrees_with_cursor permissive).2 rfl).2.2 0xEE rfl rfl).2.1,
    ((step_agrees_with_cursor full).2 rfl).1 (.pshReg .sp) rfl⟩

end WordMachine.Machine
