import Mathlib.Data.List.DropRight
import WordMachine.Trace.Log

/-!
# What a log keeps

A log that begins empty keeps the events that it was last told, as many of them as its capacity
allows, oldest first. A clear makes it forget them all, and the log goes on like a new one. Which
events were told is read off the calls alone.

Whether there is a log at all is up to the allocator, from which the whole capacity is asked for
before there is any event. No allocator has room for the largest capacities.
-/

namespace WordMachine.EventLog

inductive Call where
  | record (e : Event)
  | clear
  deriving DecidableEq, Repr

def Call.event? : Call → Option Event
  | .record e => some e
  | .clear => none

def call (log : EventLog) : Call → EventLog
  | .record e => log.record e
  | .clear => log.clear

def called (log : EventLog) (calls : List Call) : EventLog := calls.foldl call log

/-- The events told since the last clear, oldest first. -/
def told (calls : List Call) : List Event :=
  (calls.rtakeWhile (· ≠ .clear)).filterMap Call.event?

variable {log : EventLog} {events : List Event}

theorem called_concat (log : EventLog) (calls : List Call) (c : Call) :
    log.called (calls ++ [c]) = (log.called calls).call c := List.foldl_append

@[simp] theorem told_record (calls : List Call) (e : Event) :
    told (calls ++ [.record e]) = told calls ++ [e] := by
  rw [told, List.rtakeWhile_concat_pos _ _ _ (by simp), List.filterMap_append]
  rfl

@[simp] theorem told_clear (calls : List Call) : told (calls ++ [.clear]) = [] := by
  rw [told, List.rtakeWhile_concat_neg _ _ _ (by simp)]
  rfl

/-! ## One call -/

/-- The log is what is left of some events when it has dropped the oldest ones. -/
structure Holds (log : EventLog) (events : List Event) : Prop extends log.WellFormed where
  recent : log.toList = events.rtake log.capacity

theorem holds_ofRoom {capacity : Nat} (pos : 0 < capacity) : (ofRoom capacity).Holds [] where
  toWellFormed := wellFormed_ofRoom pos
  recent := (List.rtake_nil _).symm

namespace Holds

theorem size_eq (h : log.Holds events) : log.size = min events.length log.capacity := by
  have length := congrArg List.length h.recent
  rw [List.rtake, List.length_drop] at length
  change log.size = _ at length
  omega

theorem clear (h : log.Holds events) : log.clear.Holds [] where
  toWellFormed := wellFormed_clear h.toWellFormed
  recent := (List.rtake_nil _).symm

theorem record (h : log.Holds events) (e : Event) : (log.record e).Holds (events ++ [e]) where
  toWellFormed := wellFormed_record h.toWellFormed e
  recent := by
    have size := h.size_eq
    have front : events.length - log.capacity ≤ events.length := Nat.sub_le ..
    -- What falls out now follows what has fallen out before.
    have dropped : events.length - log.capacity + (log.size + 1 - log.capacity) =
        (events ++ [e]).length - log.capacity := by
      rw [List.length_append, List.length_singleton]
      omega
    rw [toList_record h.toWellFormed, capacity_record, h.recent, List.rtake,
      ← List.drop_append_of_le_length front, List.drop_drop, dropped, List.rtake]

end Holds

/-! ## Many calls -/

@[simp] theorem capacity_called (log : EventLog) (calls : List Call) :
    (log.called calls).capacity = log.capacity := by
  induction calls using List.reverseRecOn with
  | nil => rfl
  | append_singleton calls c ih =>
    rw [called_concat]
    cases c with
    | record e => exact (capacity_record _ e).trans ih
    | clear => exact ih

theorem holds_called (empty : log.Holds []) (calls : List Call) :
    (log.called calls).Holds (told calls) := by
  induction calls using List.reverseRecOn with
  | nil => exact empty
  | append_singleton calls c ih =>
    rw [called_concat]
    cases c with
    | record e =>
      rw [told_record]
      exact ih.record e
    | clear =>
      rw [told_clear]
      exact ih.clear

/-- What is told last is what is newest in the log. -/
theorem Holds.latest?_eq (h : log.Holds events) : log.latest? = events.getLast? := by
  have pos := h.capacity_pos
  have last : log.latest? = log.toList.getLast? := (Array.getLast?_toList _).symm
  rw [last, h.recent, List.rtake, List.getLast?_drop]
  split
  case isTrue none =>
    -- Nothing is left only of nothing.
    have nothing : events = [] := by
      rw [← List.length_eq_zero_iff]
      omega
    rw [nothing]
    rfl
  case isFalse => rfl

/-! ## New logs -/

variable {allocator : Allocator} {capacity : UInt64}

theorem empty?_eq_none_iff :
    empty? allocator capacity = none ↔ ¬ allocator.grants (max capacity.toNat 1) := by
  simp [empty?]

theorem empty?_eq_some_iff :
    empty? allocator capacity = some log ↔
      allocator.grants (max capacity.toNat 1) ∧ log = ofRoom (max capacity.toNat 1) := by
  simp only [empty?]
  split
  case isTrue granted => rw [Option.some.injEq, and_iff_right granted, eq_comm]
  case isFalse refused => exact iff_of_false nofun fun h => refused h.1

/-- Whatever is recorded in a log and however often it is cleared, it has the last events told since
the last clear: as many as were told, up to the capacity asked for, which counts as one if it is
none. The newest of them is the newest event told. There is such a log exactly if the allocator
finds room for all the events that it may keep, which no allocator does beyond a limit. -/
theorem called_keeps_latest (allocator : Allocator) (capacity : UInt64) (calls : List Call) :
    let most := max capacity.toNat 1
    let events := told calls
    let kept := min events.length most
    (empty? allocator capacity = none ↔ ¬ allocator.grants most) ∧
    (Allocator.limit ≤ most → empty? allocator capacity = none) ∧
    ∀ log, empty? allocator capacity = some log →
      let after := log.called calls
      after.toList = events.rtake kept ∧ after.size = kept ∧ after.size ≤ most ∧
        after.latest? = events.getLast? ∧ after.latest? = after.toList.getLast? := by
  intro most events kept
  refine ⟨empty?_eq_none_iff, fun large => ?_, ?_⟩
  · rw [empty?_eq_none_iff]
    exact fun granted => Nat.not_lt.mpr large (allocator.lt_of_grants _ granted)
  · intro log made after
    obtain ⟨-, rfl⟩ := empty?_eq_some_iff.mp made
    have holds : after.Holds events := holds_called (holds_ofRoom (Nat.le_max_right ..)) calls
    have room : after.capacity = most := capacity_called ..
    have size_eq : after.size = kept := by rw [holds.size_eq, room]
    refine ⟨?_, size_eq, size_eq ▸ Nat.min_le_right .., holds.latest?_eq,
      (Array.getLast?_toList _).symm⟩
    rw [holds.recent, room, List.rtake, List.rtake]
    congr 1
    omega

/-- Three events after a clear in a log for two, and two capacities for which there is no room. -/
theorem called_keeps_latest_two :
    let allocator := Allocator.upTo 2 (by decide)
    let e (ip : UInt16) : Event := .ignored ip 0xFF
    let calls : List Call := [.record (e 0), .clear, .record (e 1), .record (e 2), .record (e 3)]
    (∃ log, empty? allocator 2 = some log ∧ (log.called calls).toList = [e 2, e 3] ∧
      (log.called calls).latest? = some (e 3)) ∧
      empty? allocator 3 = none ∧ empty? allocator 18446744073709551615 = none := by
  intro allocator e calls
  obtain ⟨-, -, keeps⟩ := called_keeps_latest allocator 2 calls
  obtain ⟨refused, -⟩ := called_keeps_latest allocator 3 calls
  obtain ⟨-, beyond, -⟩ := called_keeps_latest allocator 18446744073709551615 calls
  have made : empty? allocator 2 = some (ofRoom 2) := by decide
  obtain ⟨list, -, -, latest, -⟩ := keeps _ made
  exact ⟨⟨_, made, list, latest⟩, refused.mpr (by decide), beyond (by decide)⟩

/-- A log of the largest capacity would keep its one event, but there is no such log. -/
theorem no_log_of_widest :
    let e : Event := .ignored 0 0xFF
    told [.record e] = [e] ∧
      ¬ ∃ (allocator : Allocator) (log : EventLog),
        empty? allocator 18446744073709551615 = some log := by
  refine ⟨rfl, ?_⟩
  rintro ⟨allocator, log, made⟩
  obtain ⟨granted, -⟩ := empty?_eq_some_iff.mp made
  exact absurd (allocator.lt_of_grants _ granted) (by decide)

end WordMachine.EventLog
