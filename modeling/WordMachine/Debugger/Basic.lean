import WordMachine.Listing
import WordMachine.Machine.Run
import WordMachine.Trace.Log

/-!
# The debugger

A debugger holds a watched machine, the memory it was loaded with and a set of breakpoints. It
steps the machine, or runs it tick by tick until a breakpoint or a fault; after each action a
notice says what happened. A memory view and a listing around the instruction pointer show where
the machine is.
-/

namespace WordMachine

/-- What the last action of a debugger did. -/
inductive Notice where
  | ready
  /-- A step was asked of a machine that takes none. -/
  | stopped (state : RunState)
  | executed (ip : UInt16) (instruction : Instruction)
  | skipped (ip : UInt16)
  | fault (fault : Fault)
  | running
  | stoppedAfter (cycles : UInt64)
  | breakpoint (ip : UInt16)
  | breakpointSet (ip : UInt16)
  | breakpointRemoved (ip : UInt16)
  | paused
  | resumed
  | reset
  deriving DecidableEq, Repr

def Notice.text : Notice → String
  | .ready => "Ready. Press 's' to step, 'r' to run, 'q' to quit."
  | .stopped state => s!"CPU stopped: {state.name}. Press 'c' to resume or 'x' to reset."
  | .executed ip i => s!"IP={Text.Hex.word ip}: {i.text}"
  | .skipped ip => s!"IP={Text.Hex.word ip}: unknown opcode skipped"
  | .fault e => s!"Fault: {e.message}"
  | .running => "Running..."
  | .stoppedAfter cycles => s!"Stopped after {cycles} cycles"
  | .breakpoint ip => s!"Breakpoint at IP={Text.Hex.word ip}"
  | .breakpointSet ip => s!"Set breakpoint at IP={Text.Hex.word ip}"
  | .breakpointRemoved ip => s!"Removed breakpoint at IP={Text.Hex.word ip}"
  | .paused => "Paused."
  | .resumed => "Resumed."
  | .reset => "Reset. Ready."

structure Debugger where
  watched : Watched EventLog
  /-- The memory as it was loaded. -/
  loaded : Memory
  /-- The addresses of the breakpoints, ascending. -/
  breakpoints : List UInt16
  /-- Whether ticks run the machine. -/
  running : Bool
  quit : Bool
  notice : Notice
  /-- The first row of the memory view. -/
  scroll : Nat

namespace Debugger

/-- The number of bytes in a row of the memory view. -/
def rowBytes : Nat := 8

/-- The number of events that a debugger keeps. -/
def logCapacity : Nat := 64

/-- A fresh machine with an empty log. Room for so few events is taken to be there. -/
def fresh (memory : Memory) (settings : Settings) : Watched EventLog :=
  ⟨.ofMemory memory settings, .ofRoom logCapacity⟩

def ofMemory (memory : Memory) (settings : Settings) : Debugger where
  watched := fresh memory settings
  loaded := memory
  breakpoints := []
  running := false
  quit := false
  notice := .ready
  scroll := 0

def machine (d : Debugger) : Machine := d.watched.machine

def ip (d : Debugger) : UInt16 := d.machine.get .ip

/-- Changes the watched machine. -/
def mapWatched {α : Type} (f : Watched EventLog → α × Watched EventLog) :
    Debugger → α × Debugger
  | ⟨watched, loaded, breakpoints, running, quit, notice, scroll⟩ =>
    let (a, watched) := f watched
    (a, ⟨watched, loaded, breakpoints, running, quit, notice, scroll⟩)

/-- Changes the machine alone, as a user does who sets registers or memory. -/
def mapMachine {α : Type} (f : Machine → α × Machine) : Debugger → α × Debugger :=
  mapWatched (Watched.mapMachine f)

/-! ## Running -/

/-- Takes one step. -/
def step (d : Debugger) : Debugger :=
  match d.machine.state with
  | .faulted => { d with notice := .stopped .faulted, running := false }
  | .running =>
    let ip := d.ip
    match d.mapWatched (Watched.step EventLog.record) with
    | (.ok (some i), d) => { d with notice := .executed ip i }
    | (.ok none, d) => { d with notice := .skipped ip }
    | (.error fault, d) => { d with notice := .fault fault, running := false }

/-- Begins to run. -/
def run (d : Debugger) : Debugger := { d with running := true, notice := .running }

/-- Takes a step if the debugger runs, unless a breakpoint or a fault stops it first. -/
def tick (d : Debugger) : Debugger :=
  if !d.running then d
  else
    match d.machine.state with
    | .faulted => { d with running := false, notice := .stoppedAfter d.machine.cycles }
    | .running =>
      if d.ip ∈ d.breakpoints then { d with running := false, notice := .breakpoint d.ip }
      else d.step

/-- `n` ticks. -/
def ticks : Nat → Debugger → Debugger
  | 0, d => d
  | n + 1, d => ticks n d.tick

def pause (d : Debugger) : Debugger := { d with running := false, notice := .paused }

/-- Leaves the faulted state; the next step begins at the opcode that faulted. -/
def resume (d : Debugger) : Debugger :=
  { (d.mapMachine fun m => ((), m.resume)).2 with notice := .resumed }

/-- Restores the loaded memory and a fresh machine. Breakpoints and the memory view stay. -/
def reset (d : Debugger) : Debugger :=
  { d with
    watched := fresh d.loaded d.machine.settings
    running := false
    notice := .reset }

/-! ## Breakpoints -/

/-- Puts an address into an ascending list, once. -/
def insertAddress (addr : UInt16) : List UInt16 → List UInt16
  | [] => [addr]
  | first :: rest =>
    if addr < first then addr :: first :: rest
    else if addr = first then first :: rest
    else first :: insertAddress addr rest

def addBreakpoint (addr : UInt16) (d : Debugger) : Debugger :=
  { d with breakpoints := insertAddress addr d.breakpoints }

/-- Sets or removes the breakpoint at the instruction pointer. -/
def toggleBreakpoint (d : Debugger) : Debugger :=
  let ip := d.ip
  if ip ∈ d.breakpoints then
    { d with breakpoints := d.breakpoints.erase ip, notice := .breakpointRemoved ip }
  else { d.addBreakpoint ip with notice := .breakpointSet ip }

/-! ## Views -/

/-- The number of rows of the memory view, the last of which can be short. -/
def rowCount (d : Debugger) : Nat := (d.machine.memory.size + (rowBytes - 1)) / rowBytes

/-- Moves the memory view down by `rows`, or up, but not past either end. -/
def scrollBy (rows : Int) (d : Debugger) : Debugger :=
  { d with scroll := min (d.scroll + rows).toNat (d.rowCount - 1) }

/-- Moves the memory view to the row of the stack pointer. -/
def followStack (d : Debugger) : Debugger :=
  { d with scroll := (d.machine.get .sp).toNat / rowBytes }

/-- Appends lines from `position` on until `count` lines in all begin at `ip` or after it; `seen`
is the number of those that already do. -/
def linesPast (m : Memory) (ip : UInt16) (count position seen : Nat) (lines : Array Line) :
    Array Line :=
  if position < m.size ∧ seen < count then
    let line := m.lineAt (UInt16.ofNat position)
    linesPast m ip count (position + max line.bytes.length 1)
      (if ip.toNat ≤ position then seen + 1 else seen) (lines.push line)
  else lines
termination_by m.size - position

/-- Up to `count` lines of the listing around the instruction pointer, which is in the middle if it
is at a line. The lines are those of a sweep from address 0, so that they agree with the
program. -/
def linesAround (d : Debugger) (count : Nat) : List Line :=
  let lines := linesPast d.machine.memory d.ip count 0 0 #[]
  let current := (lines.findIdx? fun line => line.addr == d.ip).getD lines.size
  let start := current - count / 2
  (lines.extract start (start + count)).toList

/-- Whether the machine is about to run this line. -/
def isCurrent (d : Debugger) (line : Line) : Bool := line.addr == d.ip

/-! ## Keys -/

inductive Key where
  | step | run | pause | breakpoint | resume | reset | stack | up | down | pageUp | pageDown | quit
  deriving DecidableEq, Repr

/-- The number of rows of a page of the memory view. -/
def pageRows : Int := 16

def press : Key → Debugger → Debugger
  | .step, d => step { d with running := false }
  | .run, d => d.run
  | .pause, d => d.pause
  | .breakpoint, d => d.toggleBreakpoint
  | .resume, d => d.resume
  | .reset, d => d.reset
  | .stack, d => d.followStack
  | .up, d => d.scrollBy (-1)
  | .down, d => d.scrollBy 1
  | .pageUp, d => d.scrollBy (-pageRows)
  | .pageDown, d => d.scrollBy pageRows
  | .quit, d => { d with quit := true }

end Debugger

end WordMachine
