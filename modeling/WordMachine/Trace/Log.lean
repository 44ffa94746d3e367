import WordMachine.Trace.Event

/-!
# The event log

A log keeps the most recent events, up to its capacity. Recording into a full log drops the oldest
event first. Room for the whole capacity is taken at once when a log is made, and where there is not
so much the run is aborted.
-/

namespace WordMachine

/-- No object takes so many bytes, however much memory there is. -/
def Allocator.limit : Nat := 0x8000000000000000

/-- An allocator, as far as a log can tell: the numbers of events for which it finds room at once.
Every event takes at least a byte. -/
structure Allocator where
  grants : Nat → Bool
  lt_of_grants : ∀ n, grants n → n < Allocator.limit

/-- The allocator that finds room for up to `most` events. -/
def Allocator.upTo (most : Nat) (small : most < Allocator.limit) : Allocator where
  grants n := n ≤ most
  lt_of_grants _ granted := Nat.lt_of_le_of_lt (of_decide_eq_true granted) small

structure EventLog where
  /-- The events kept, oldest first. -/
  events : Array Event
  capacity : Nat
  deriving DecidableEq

namespace EventLog

/-- An empty log in room for `capacity` events. -/
def ofRoom (capacity : Nat) : EventLog := ⟨#[], capacity⟩

/-- An empty log for `capacity` events, and for one at least. Where the allocator finds no room for
them there is no log, and the run is aborted. -/
def empty? (allocator : Allocator) (capacity : UInt64) : Option EventLog :=
  let capacity := max capacity.toNat 1
  if allocator.grants capacity then some (ofRoom capacity) else none

/-- The capacity of a log for which none is asked. -/
def defaultCapacity : UInt64 := 256

def record (log : EventLog) (e : Event) : EventLog :=
  if log.events.size = log.capacity then
    { log with events := (log.events.eraseIdxIfInBounds 0).push e }
  else { log with events := log.events.push e }

def clear (log : EventLog) : EventLog := { log with events := #[] }

def size (log : EventLog) : Nat := log.events.size

/-- The newest event. -/
def latest? (log : EventLog) : Option Event := log.events.back?

def toList (log : EventLog) : List Event := log.events.toList

/-- What holds of every log that begins empty. -/
structure WellFormed (log : EventLog) : Prop where
  capacity_pos : 0 < log.capacity
  size_le : log.size ≤ log.capacity

@[simp] theorem toList_ofRoom (capacity : Nat) : (ofRoom capacity).toList = [] := rfl

@[simp] theorem toList_clear (log : EventLog) : log.clear.toList = [] := rfl

@[simp] theorem capacity_record (log : EventLog) (e : Event) :
    (log.record e).capacity = log.capacity := by
  unfold record; split <;> rfl

theorem wellFormed_ofRoom {capacity : Nat} (pos : 0 < capacity) : (ofRoom capacity).WellFormed :=
  ⟨pos, Nat.zero_le _⟩

theorem wellFormed_clear {log : EventLog} (h : log.WellFormed) : log.clear.WellFormed :=
  ⟨h.capacity_pos, Nat.zero_le _⟩

/-- Recording appends an event and drops the oldest one if they are too many. -/
theorem toList_record {log : EventLog} (h : log.WellFormed) (e : Event) :
    (log.record e).toList = (log.toList ++ [e]).drop (log.size + 1 - log.capacity) := by
  obtain ⟨capacity_pos, size_le⟩ := h
  obtain ⟨⟨events⟩, capacity⟩ := log
  simp only [size, List.size_toArray] at capacity_pos size_le ⊢
  unfold record
  split
  case isTrue full =>
    obtain rfl : events.length = capacity := full
    cases events with
    | nil => exact absurd capacity_pos (Nat.lt_irrefl 0)
    | cons first rest => simp [toList]
  case isFalse space =>
    have fits : events.length + 1 - capacity = 0 := by
      simp only [List.size_toArray] at space
      omega
    simp [toList, fits]

theorem wellFormed_record {log : EventLog} (h : log.WellFormed) (e : Event) :
    (log.record e).WellFormed := by
  refine ⟨capacity_record log e ▸ h.capacity_pos, ?_⟩
  have length := congrArg List.length (toList_record h e)
  have pos := h.capacity_pos
  have bound := h.size_le
  simp only [toList, List.length_drop, List.length_append, List.length_singleton,
    Array.length_toList] at length
  rw [capacity_record]
  simp only [size] at bound length ⊢
  omega

end EventLog

end WordMachine
