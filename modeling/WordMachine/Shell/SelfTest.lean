import WordMachine.Demo
import WordMachine.Machine.Run

/-!
# The self-test

Four checks of the machine, each with a label.
-/

namespace WordMachine.Shell

/-- The machine of a demo before and after its steps. -/
def runDemo (d : Demo) : Except MemoryError (Machine × Machine) := do
  let m := Machine.ofMemory (← d.memory) {}
  return (m, (m.runFor d.steps).2)

/-- Whether a demo can be run and the machines before and after it pass the test. -/
def demoPasses (d : Demo) (test : Machine → Machine → Bool) : Bool :=
  match runDemo d with
  | .ok (before, after) => test before after
  | .error _ => false

/-- Whether a byte that is no opcode faults on a strict machine. -/
def unknownOpcodeFaults : Bool :=
  match (Memory.ofSize 16).bind (·.write8 0 0xFF) with
  | .ok memory =>
    match (Machine.ofMemory memory {}).step.outcome with
    | .error fault => fault == .invalidOpcode 0xFF
    | .ok _ => false
  | .error _ => false

/-- The checks, each with its result. -/
def selfTest : List (String × Bool) :=
  [("ADD wraps to 0xBE01", demoPasses .add fun _ m => m.get .acc == 0xBE01),
   ("Loop counts to 3", demoPasses .countingLoop fun _ m =>
      (m.memory.read16 Demo.counter).toOption == some 3 &&
        (m.get .ip).toNat == Demo.countingLoop.program.length),
   ("Stack is LIFO", demoPasses .stack fun before m =>
      m.get .r1 == 0x4242 && m.get .r2 == 0x5151 && m.get .sp == before.get .sp),
   ("Unknown opcode faults", unknownOpcodeFaults)]

/-- The lines that report the checks. -/
def selfTestReport (checks : List (String × Bool)) : List String :=
  let passed := checks.countP fun (_, ok) => ok
  let failed := checks.length - passed
  let verdict := if failed = 0 then ["✓ All tests passed!"] else []
  ["━━━ vm16 Self-Test ━━━", ""]
    ++ checks.map (fun (label, ok) => s!"{label}... " ++ if ok then "✓" else "✗")
    ++ ["", "━━━━━━━━━━━━━━━━━━━━━━━━━━━━━━", s!"Results: {passed} passed, {failed} failed"]
    ++ verdict

end WordMachine.Shell
