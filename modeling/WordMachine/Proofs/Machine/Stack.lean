import WordMachine.Proofs.Machine.Frame
import WordMachine.Proofs.Memory

/-!
# The stack

A machine pushes and pops as a list of bounded length does whose last word stands first. The stack
begins at the last word of memory, and its floor is the lowest place that a push may write to. What
lies between the two is inside memory, so the stack refuses a call only if it is full or empty.
-/

namespace WordMachine

/-! ## Lists of bounded length -/

inductive StackCall where
  | push (value : UInt16)
  | pop
  deriving DecidableEq, Repr

/-- Why a list of bounded length refuses a call. -/
inductive StackRefusal where
  | full
  | empty
  deriving DecidableEq, Repr

/-- A list of at most `capacity` words, the last one pushed first. -/
structure BoundedStack where
  capacity : Nat
  words : List UInt16
  deriving DecidableEq, Repr

namespace BoundedStack

def empty (capacity : Nat) : BoundedStack := ⟨capacity, []⟩

/-- A pop answers the word that it takes. A call that is refused changes nothing. -/
def call (s : BoundedStack) : StackCall → Except StackRefusal (Option UInt16) × BoundedStack
  | .push value =>
    if s.words.length < s.capacity then (.ok none, { s with words := value :: s.words })
    else (.error .full, s)
  | .pop =>
    match s.words with
    | [] => (.error .empty, s)
    | value :: rest => (.ok (some value), { s with words := rest })

def afterCalls (s : BoundedStack) (calls : List StackCall) : BoundedStack :=
  calls.foldl (fun s call => (s.call call).2) s

theorem capacity_call (s : BoundedStack) (call : StackCall) :
    (s.call call).2.capacity = s.capacity := by
  unfold BoundedStack.call
  split
  · split <;> rfl
  · split <;> rfl

theorem capacity_afterCalls (s : BoundedStack) (calls : List StackCall) :
    (s.afterCalls calls).capacity = s.capacity := by
  induction calls generalizing s with
  | nil => rfl
  | cons call calls ih => exact (ih _).trans (s.capacity_call call)

end BoundedStack

namespace Word

theorem toNat_sub_two {w : UInt16} (h : 2 ≤ w.toNat) : (w - 2).toNat = w.toNat - 2 :=
  UInt16.toNat_sub_of_le _ _ (UInt16.le_iff_toNat_le.mpr h)

theorem toNat_add_two {w : UInt16} (h : w.toNat + 2 < 65536) : (w + 2).toNat = w.toNat + 2 := by
  rw [UInt16.toNat_add]
  exact Nat.mod_eq_of_lt h

end Word

namespace Machine

/-! ## The bounds of the stack -/

/-- The lowest place to which a push may write. -/
def stackFloor (m : Machine) : Nat := max m.settings.stackLimit.toNat 2

/-- The number of words from `top` down to `floor`. -/
def stackCapacity (top floor : Nat) : Nat := if top < floor then 0 else (top - floor) / 2 + 1

theorem lt_stackCapacity_iff {top floor depth : Nat} :
    depth < stackCapacity top floor ↔ floor + 2 * depth ≤ top := by
  unfold stackCapacity
  split <;> omega

/-- The stack begins at the last word of memory. -/
def Rooted (m : Machine) : Prop := m.stackTop.toNat + 2 = m.memory.size

theorem rooted_of_topOfStack {m : Machine} (least : 2 ≤ m.memory.size)
    (most : m.memory.size ≤ 65536) (top : m.stackTop = topOfStack m.memory.size) : m.Rooted := by
  rw [Rooted, top, toNat_topOfStack most]
  omega

theorem SameFrame.rooted {start m : Machine} (h : SameFrame start m) (root : start.Rooted) :
    m.Rooted := by
  rw [Rooted, h.stackTop, h.size]
  exact root

theorem SameFrame.stackFloor {start m : Machine} (h : SameFrame start m) :
    m.stackFloor = start.stackFloor := by
  rw [Machine.stackFloor, h.settings]
  rfl

/-- At or below the top of the stack there is a word to write. -/
theorem pushFault?_of_rooted {m : Machine} (rooted : m.Rooted)
    (inside : (m.get .sp).toNat ≤ m.stackTop.toNat) :
    m.pushFault? =
      if (m.get .sp).toNat < m.stackFloor then
        some (.stackOverflow (m.get .sp) m.settings.stackLimit)
      else none := by
  have word : m.accessFault? (m.get .sp) = none := by
    rw [accessFault?_eq_none_iff, ← rooted]
    omega
  rw [pushFault?_eq, word]
  rfl

theorem popFault?_of_rooted {m : Machine} (rooted : m.Rooted) :
    m.popFault? =
      if m.stackTop.toNat < (m.get .sp).toNat + 2 then
        some (.stackUnderflow (m.get .sp) m.stackTop)
      else none := by
  have size : 2 ≤ m.memory.size := by rw [← rooted]; omega
  have top : m.stackTop.toNat = m.memory.size - 2 := by rw [← rooted]; omega
  split
  case isTrue above => rw [popFault?_eq, if_pos above]
  case isFalse within => exact (popFault?_eq_none_iff size top).mpr (Nat.not_lt.mp within)

/-! ## Calls -/

/-- A push or pop from outside; a pop answers the word that it takes. -/
def callStack (m : Machine) : StackCall → Except Fault (Option UInt16) × Machine
  | .push value =>
    match push value m with
    | .ok _ m => (.ok none, m)
    | .error fault m => (.error fault, m)
  | .pop =>
    match pop m with
    | .ok value m => (.ok (some value), m)
    | .error fault m => (.error fault, m)

def afterCalls (m : Machine) (calls : List StackCall) : Machine :=
  calls.foldl (fun m call => (m.callStack call).2) m

/-- The fault that reports a refusal. -/
def refusal (m : Machine) : StackRefusal → Fault
  | .full => .stackOverflow (m.get .sp) m.settings.stackLimit
  | .empty => .stackUnderflow (m.get .sp) m.stackTop

theorem callStack_push (m : Machine) (value : UInt16) :
    m.callStack (.push value) = match m.pushFault? with
      | none => (.ok none, m.pushed value)
      | some fault => (.error fault, m) := by
  simp only [callStack, push_eq]
  cases m.pushFault? <;> rfl

theorem callStack_pop (m : Machine) :
    m.callStack .pop = match m.popFault? with
      | none => (.ok (some m.popValue), m.popped)
      | some fault => (.error fault, m) := by
  simp only [callStack, pop_eq]
  cases m.popFault? <;> rfl

theorem callStack_of_error {m : Machine} {call : StackCall} {fault : Fault}
    (h : (m.callStack call).1 = .error fault) : (m.callStack call).2 = m := by
  cases call with
  | push value =>
    rw [callStack_push] at h ⊢
    cases refused : m.pushFault? with
    | none => simp [refused] at h
    | some => rfl
  | pop =>
    rw [callStack_pop] at h ⊢
    cases refused : m.popFault? with
    | none => simp [refused] at h
    | some => rfl

/-! ## The stack as a list -/

/-- A machine whose stack holds the words of a list, where calls to the stack are all that has
happened to it since `start`. -/
structure HoldsStack (start m : Machine) (s : BoundedStack) : Prop where
  pointer : (m.get .sp).toNat + 2 * s.words.length = start.stackTop.toNat
  /-- Upwards from the stack pointer stand the words, the last one pushed first, so that the first
  one is at the top of the stack. -/
  words : m.memory.Shows ((m.get .sp).toNat + 2) (s.words.flatMap Word.toBytes)
  size : m.memory.size = start.memory.size
  below : ∀ place < start.stackFloor, m.memory.bytes[place]? = start.memory.bytes[place]?
  others : ∀ r, r ≠ .sp → m.get r = start.get r
  rest : m = { start with memory := m.memory, registers := m.registers }

namespace HoldsStack

variable {start m : Machine} {s : BoundedStack}

theorem frame (h : HoldsStack start m s) : SameFrame start m :=
  ⟨by rw [h.rest], by rw [h.rest], h.size⟩

theorem pushed (h : HoldsStack start m s) (root : start.Rooted)
    (room : start.stackFloor ≤ (m.get .sp).toNat) (value : UInt16) :
    HoldsStack start (m.pushed value) { s with words := value :: s.words } := by
  have pointer := h.pointer
  have two : 2 ≤ (m.get .sp).toNat := Nat.le_trans (Nat.le_max_right ..) room
  have inside : m.memory.Holds (m.get .sp) 2 := by
    rw [Memory.Holds, ← h.frame.rooted root, h.frame.stackTop]
    omega
  have moved : ((m.pushed value).get .sp).toNat = (m.get .sp).toNat - 2 := by
    rw [Machine.pushed, get_set_self, Word.toNat_sub_two two]
  refine ⟨?_, ?_, ?_, ?_, ?_, ?_⟩
  · rw [moved, List.length_cons]
    omega
  · -- The word goes to where the pointer was, right below the others.
    rw [moved, Nat.sub_add_cancel two, List.flatMap_cons, Memory.shows_append]
    exact ⟨Memory.shows_put16 inside value, h.words.put16 value (Nat.le_refl _)⟩
  · exact (Memory.size_put16 ..).trans h.size
  · intro place low
    exact (Memory.getElem?_put16_of_ne value (by omega) (by omega)).trans (h.below place low)
  · intro r other
    exact (get_set_of_ne _ other.symm _).trans (h.others r other)
  · rw [Machine.pushed, stored, set, h.rest]

theorem popped {value : UInt16} {rest : List UInt16} (h : HoldsStack start m s)
    (held : s.words = value :: rest) :
    m.popValue = value ∧ HoldsStack start m.popped { s with words := rest } := by
  have pointer := h.pointer
  have words := h.words
  rw [held, List.length_cons] at pointer
  rw [held, List.flatMap_cons, Memory.shows_append, Word.length_toBytes] at words
  have bound := start.stackTop.toNat_lt
  have next : (m.get .sp + 2).toNat = (m.get .sp).toNat + 2 := Word.toNat_add_two (by omega)
  have moved : (m.popped.get .sp).toNat = (m.get .sp).toNat + 2 := by
    rw [Machine.popped, get_set_self, next]
  refine ⟨Memory.wordAt_of_shows (next ▸ words.1), ?_, ?_, h.size, h.below, ?_, ?_⟩
  · rw [moved, ← pointer]
    dsimp only
    omega
  · rw [moved]
    exact words.2
  · intro r other
    exact (get_set_of_ne _ other.symm _).trans (h.others r other)
  · rw [Machine.popped, set, h.rest]

/-- Machine and list answer a call alike, and the one still holds the other after it. -/
theorem call (h : HoldsStack start m s) (root : start.Rooted)
    (capacity : s.capacity = stackCapacity start.stackTop.toNat start.stackFloor)
    (call : StackCall) :
    (m.callStack call).1 = (s.call call).1.mapError m.refusal ∧
      HoldsStack start (m.callStack call).2 (s.call call).2 := by
  have pointer := h.pointer
  have top := congrArg UInt16.toNat h.frame.stackTop
  cases call with
  | push value =>
    have room : s.words.length < s.capacity ↔ start.stackFloor ≤ (m.get .sp).toNat := by
      rw [capacity, lt_stackCapacity_iff]
      omega
    rw [callStack_push, pushFault?_of_rooted (h.frame.rooted root) (by omega),
      h.frame.stackFloor]
    by_cases space : s.words.length < s.capacity
    · rw [if_neg (Nat.not_lt.mpr (room.mp space)), BoundedStack.call, if_pos space]
      exact ⟨rfl, h.pushed root (room.mp space) value⟩
    · rw [if_pos (Nat.not_le.mp (mt room.mpr space)), BoundedStack.call, if_neg space]
      exact ⟨rfl, h⟩
  | pop =>
    rw [callStack_pop, popFault?_of_rooted (h.frame.rooted root)]
    cases held : s.words with
    | nil =>
      rw [held, List.length_nil] at pointer
      rw [if_pos (by omega)]
      simp only [BoundedStack.call, held]
      exact ⟨rfl, h⟩
    | cons value rest =>
      obtain ⟨taken, holds⟩ := h.popped held
      rw [held, List.length_cons] at pointer
      rw [if_neg (by omega)]
      simp only [BoundedStack.call, held, taken]
      exact ⟨rfl, holds⟩

theorem afterCalls (h : HoldsStack start m s) (root : start.Rooted)
    (capacity : s.capacity = stackCapacity start.stackTop.toNat start.stackFloor)
    (calls : List StackCall) : HoldsStack start (m.afterCalls calls) (s.afterCalls calls) := by
  induction calls generalizing m s with
  | nil => exact h
  | cons call calls ih =>
    exact ih (h.call root capacity call).2 ((s.capacity_call call).trans capacity)

/-- The words stand in the order of their pushes from the top of the stack downwards. -/
theorem read16 (h : HoldsStack start m s) {k : Nat} (held : k < s.words.length) :
    (m.memory.read16 (UInt16.ofNat (start.stackTop.toNat - 2 * k))).toOption =
      s.words.reverse[k]? := by
  have pointer := h.pointer
  have bound := start.stackTop.toNat_lt
  have place : (UInt16.ofNat (start.stackTop.toNat - 2 * k)).toNat =
      (m.get .sp).toNat + 2 + 2 * (s.words.length - 1 - k) := by
    rw [UInt16.toNat_ofNat_of_lt' (by simp only [UInt16.size]; omega)]
    omega
  have shown := h.words.word (k := s.words.length - 1 - k) (by omega)
  rw [← place] at shown
  rw [Memory.read16_of_shows shown, List.getElem?_reverse held, List.getElem?_eq_getElem]
  rfl

end HoldsStack

theorem holdsStack_ofMemory (memory : Memory) (settings : Settings) (capacity : Nat) :
    HoldsStack (ofMemory memory settings) (ofMemory memory settings) (.empty capacity) where
  pointer := by simp [BoundedStack.empty, ofMemory, freshRegisters, get, RegisterBank.get_set_of_ne]
  words := List.nil_prefix
  size := rfl
  below _ _ := rfl
  others _ _ := rfl
  rest := rfl

/-- Each call of a sequence ends as it does on a list that holds as many words as fit between the
top of the stack and its floor. The words held are in memory, and nothing but them and the stack
pointer has changed. -/
theorem stack_is_bounded_list (memory : Memory) (settings : Settings)
    (least : 2 ≤ memory.size) (most : memory.size ≤ 65536) (calls : List StackCall) :
    let top := memory.size - 2
    let floor := max settings.stackLimit.toNat 2
    let start := ofMemory memory settings
    let m := start.afterCalls calls
    let s := (BoundedStack.empty (stackCapacity top floor)).afterCalls calls
    (∀ call, (m.callStack call).1 = (s.call call).1.mapError m.refusal ∧
      ∀ fault, (m.callStack call).1 = .error fault → (m.callStack call).2 = m) ∧
    (m.get .sp).toNat + 2 * s.words.length = top ∧
    (∀ k < s.words.length,
      (m.memory.read16 (UInt16.ofNat (top - 2 * k))).toOption = s.words.reverse[k]?) ∧
    (∀ place < floor, m.memory.bytes[place]? = memory.bytes[place]?) ∧
    (∀ r, r ≠ .sp → m.get r = start.get r) ∧
    m = { start with memory := m.memory, registers := m.registers } := by
  intro top floor start m s
  have root : start.Rooted := rooted_of_topOfStack least most rfl
  have bottom : start.stackTop.toNat = top := toNat_topOfStack most
  have capacity : s.capacity = stackCapacity start.stackTop.toNat start.stackFloor := by
    rw [bottom]
    exact BoundedStack.capacity_afterCalls ..
  have holds : HoldsStack start m s :=
    (holdsStack_ofMemory memory settings _).afterCalls root (by rw [bottom]; rfl) calls
  refine ⟨?_, bottom ▸ holds.pointer, ?_, holds.below, holds.others, holds.rest⟩
  · intro call
    exact ⟨(holds.call root capacity call).1, fun fault => callStack_of_error⟩
  · intro k held
    rw [← bottom]
    exact holds.read16 held

/-- Seven bytes hold two words, at odd places. -/
theorem stack_is_bounded_list_seven :
    let memory := Memory.zeros 7
    let calls : List StackCall := [.push 0x1234, .push 0xABCD]
    let m := (ofMemory memory {}).afterCalls calls
    2 ≤ memory.size ∧ memory.size ≤ 65536 ∧
      (m.callStack (.push 7)).1 = .error (.stackOverflow 1 0) ∧
      (m.callStack (.push 7)).2 = m ∧
      (m.callStack .pop).1 = .ok (some 0xABCD) ∧
      (m.memory.read16 5).toOption = some 0x1234 := by
  intro memory calls m
  obtain ⟨answers, -, held, -⟩ :=
    stack_is_bounded_list memory {} (by decide) (by decide) calls
  have full : (m.callStack (.push 7)).1 = .error (.stackOverflow 1 0) :=
    (answers (.push 7)).1.trans (by decide)
  exact ⟨by decide, by decide, full, (answers (.push 7)).2 _ full,
    (answers .pop).1.trans (by decide), (held 0 (by decide)).trans (by decide)⟩

end Machine

end WordMachine
