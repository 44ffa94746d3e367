import WordMachine.Machine.Run
import WordMachine.Readout

/-!
# Running a program to its end

There is no instruction that halts. A program has ended when the instruction pointer is outside
its image; a run stops there, at a fault, or when its budget of steps is spent.
-/

namespace WordMachine

namespace Watched

variable {ω : Type}

/-- Takes up to `budget` steps while the instruction pointer is below `length`. Answers the number
of steps that did not fault, `steps` included, and the fault, if there was one. -/
def runWithin (note : ω → Event → ω) (length : Nat) :
    (budget steps : Nat) → Watched ω → Nat × Option Fault × Watched ω
  | 0, steps, w => (steps, none, w)
  | budget + 1, steps, w =>
    if (w.machine.get .ip).toNat < length then
      match step note w with
      | (.ok _, w) => runWithin note length budget (steps + 1) w
      | (.error fault, w) => (steps, some fault, w)
    else (steps, none, w)

end Watched

namespace Shell

/-- How a run ended. -/
structure RunEnd where
  steps : Nat
  fault : Option Fault
  machine : Machine
  /-- The events of the run. -/
  events : Array Event

/-- Runs a machine whose program has `length` bytes. -/
def runProgram (length budget : Nat) (m : Machine) : RunEnd :=
  let (steps, fault, w) := Watched.runWithin Array.push length budget 0 ⟨m, #[]⟩
  { steps, fault, machine := w.machine, events := w.seen }

namespace RunEnd

/-- Whether the budget is reported as spent. -/
def reachedBudget (e : RunEnd) (budget : Nat) : Bool := e.steps ≥ budget

/-- The lines that report a run without a fault. -/
def report (e : RunEnd) (budget : Nat) : List String :=
  let m := e.machine
  let stack := match m.memory.readout (m.get .sp) Memory.readoutWidth with
    | .ok view => [s!"Stack: {view}"]
    | .error _ => []
  let warning :=
    if e.reachedBudget budget then
      ["", s!"⚠️  Reached step budget ({budget}). Use --max-steps to increase."]
    else []
  ["", "━━━ Result ━━━", s!"Steps: {e.steps}", s!"Cycles: {m.cycles}", m.registers.readout]
    ++ stack ++ warning

/-- The line that reports the fault of a run. -/
def faultReport (e : RunEnd) (fault : Fault) : String :=
  s!"❌ CPU fault at IP={Text.Hex.word (e.machine.get .ip)}: {fault.message}"

end RunEnd

end Shell

end WordMachine
