import WordMachine.Config
import WordMachine.Demo
import WordMachine.Image
import WordMachine.Listing
import WordMachine.Machine.Run
import WordMachine.Readout

/-!
# Sessions

A session is a machine that a page drives by texts: configurations, image texts and names come in,
texts and numbers go out. It keeps the configuration and the program that it was given last, from
which a reset makes a new machine.
-/

namespace WordMachine

structure Session where
  machine : Machine
  config : Config
  program : Bytes

inductive SessionError where
  | config (error : ConfigError)
  | image (error : Image.ParseError)
  | unknownDemo (name : String)
  | memory (error : MemoryError)
  | register (error : RegisterError)
  | decode (error : DecodeError)
  | fault (fault : Fault)
  deriving DecidableEq, Repr

def SessionError.message : SessionError → String
  | .config e => e.message
  | .image e => e.message
  | .unknownDemo name => s!"unknown demo: {name}"
  | .memory e => e.message
  | .register e => e.message
  | .decode e => e.message
  | .fault e => e.message

namespace Session

/-- A session without a program, with the default configuration. -/
def initial : Session where
  machine := .ofMemory .full {}
  config := {}
  program := []

/-! ## Loading -/

/-- A machine with the configured memory and the program in it. -/
def freshMachine (config : Config) (program : Bytes) : Except SessionError Machine := do
  let memory ← config.memory.mapError .config
  let memory ← (memory.install program).mapError .memory
  return .ofMemory memory config.settings

/-- Replaces the machine by a fresh one, if there is one. -/
def reload (s : Session) : Except SessionError Unit × Session :=
  match freshMachine s.config s.program with
  | .ok machine => (.ok (), { s with machine })
  | .error e => (.error e, s)

/-- Takes a new configuration and reloads. The configuration is kept even if the program does not
run under it. -/
def configure (text : String) (s : Session) : Except SessionError Unit × Session :=
  match Config.parse text with
  | .ok config => reload { s with config }
  | .error e => (.error (.config e), s)

/-- Takes a new program and reloads; answers the size of the program. The program is kept even if
it does not fit. -/
def loadProgram (program : Bytes) (s : Session) : Except SessionError Nat × Session :=
  match reload { s with program } with
  | (.ok _, s) => (.ok program.length, s)
  | (.error e, s) => (.error e, s)

def loadText (source : String) (s : Session) : Except SessionError Nat × Session :=
  match Image.parse source with
  | .ok program => loadProgram program s
  | .error e => (.error (.image e), s)

def loadDemo (name : String) (s : Session) : Except SessionError Nat × Session :=
  match Demo.ofName? name with
  | some demo => loadProgram demo.program s
  | none => (.error (.unknownDemo name), s)

/-! ## Running -/

/-- Changes the machine. -/
def mapMachine {α : Type} (f : Machine → α × Machine) : Session → α × Session
  | ⟨machine, config, program⟩ =>
    let (a, machine) := f machine
    (a, ⟨machine, config, program⟩)

/-- Takes one step and answers the text of the instruction. -/
def step : Session → Except SessionError String × Session :=
  mapMachine fun m =>
    let s := m.step
    let text := s.outcome.map fun i => i.elim "(ignored)" Instruction.text
    (text.mapError .fault, s.machine)

/-- Takes `n` steps and answers the number of cycles since the last reset. -/
def run (n : Nat) : Session → Except SessionError UInt64 × Session :=
  mapMachine fun m =>
    let (outcome, m) := m.runFor n
    ((outcome.map fun _ => m.cycles).mapError .fault, m)

def reset (s : Session) : Except SessionError Unit × Session := s.reload

def resume (s : Session) : Session := (s.mapMachine fun m => ((), m.resume)).2

/-! ## Looking -/

def register (s : Session) (name : String) : Except SessionError UInt16 :=
  (s.machine.registers.getByName name).mapError .register

def window (s : Session) (addr : UInt16) (count : Nat) : Except SessionError Bytes :=
  (s.machine.memory.window addr count).mapError .memory

def memoryReadout (s : Session) (addr : UInt16) : Except SessionError String :=
  (s.machine.memory.readout addr Memory.readoutWidth).mapError .memory

def registerReadout (s : Session) : String := s.machine.registers.readout

/-- The machine's snapshot as a JSON text. -/
def snapshot (s : Session) : String := s.machine.snapshot.toJson.compact

/-- The listing of the program. -/
def listing (s : Session) : Except SessionError String :=
  (WordMachine.listing s.program).mapError .decode

end Session

end WordMachine
