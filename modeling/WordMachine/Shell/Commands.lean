import WordMachine.Image.File
import WordMachine.Listing
import WordMachine.Shell.Arguments
import WordMachine.Shell.Run
import WordMachine.Shell.SelfTest

/-!
# Commands

A command runs in any monad that has files and two streams of lines, one for results and one for
complaints, and ends with an exit code.
-/

namespace WordMachine.Shell

/-- What a command needs of its surroundings. The stream of log messages is not modelled; it goes
where the complaints go and has, among others, a warning for each opcode that is skipped. -/
structure Host (m : Type → Type) where
  files : FileAccess m
  print : String → m Unit
  complain : String → m Unit

abbrev ExitCode := Nat

/-- A part of a command: it can end the command with an exit code. -/
abbrev Part (m : Type → Type) := ExceptT ExitCode m

section

variable {m : Type → Type} [Monad m] (host : Host m)

def say (line : String) : Part m Unit := ExceptT.lift (host.print line)

def sayAll (lines : List String) : Part m Unit := lines.forM (say host)

/-- Complains and ends the command. -/
def failWith {α : Type} (complaint : String) : Part m α := do
  ExceptT.lift (host.complain s!"❌ {complaint}")
  throw 1

/-- The value of a result, or the end of the command. -/
def orFail {ε α : Type} (complaint : ε → String) : Except ε α → Part m α
  | .ok a => return a
  | .error e => failWith host (complaint e)

def resolveConfig (o : MachineOptions) : Part m Config := do
  match o.config with
  | some path =>
    let loaded ← ExceptT.lift (Config.load host.files path)
    return o.override (← orFail host (fun e => s!"Failed to load config: {e.message}") loaded)
  | none => return o.override {}

def loadProgram (path : String) : Part m Bytes := do
  let loaded ← ExceptT.lift (Image.load host.files path)
  let program ← orFail host (fun e => s!"Failed to load image: {e.message}") loaded
  if program.isEmpty then failWith host "No instructions to execute"
  say host s!"📂 Loaded {program.length} bytes"
  return program

def buildMemory (config : Config) (program : Bytes) : Part m Memory := do
  let memory ← orFail host ConfigError.message config.memory
  orFail host (fun e => s!"Failed to load program: {e.message}") (memory.install program)

def runCommand (path : String) (maxSteps : Nat) (trace : Bool) (config : Config) :
    Part m Unit := do
  say host s!"🔧 Running: {path}"
  let program ← loadProgram host path
  let memory ← buildMemory host config program
  let result := runProgram program.length maxSteps (.ofMemory memory config.settings)
  sayAll host ["", "━━━ Execution ━━━"]
  if trace then sayAll host (result.events.toList.map Event.text)
  match result.fault with
  | some fault =>
    ExceptT.lift (host.complain (result.faultReport fault))
    say host result.machine.registers.readout
    throw 1
  | none => sayAll host (result.report maxSteps)

/-- Loads a program for the debugger, which needs a terminal of its own. -/
def debugCommand (path : String) (config : Config) : Part m Unit := do
  say host s!"🔍 Loading: {path}"
  let program ← loadProgram host path
  let _ ← buildMemory host config program
  sayAll host ["🚀 Launching debugger...", ""]
  failWith host "Debugger error: no terminal"

def disasmCommand (path : String) : Part m Unit := do
  sayAll host [s!"📖 Disassembling: {path}", ""]
  let program ← loadProgram host path
  say host (← orFail host DecodeError.message (listing program))

def listDemos : Part m Unit :=
  sayAll host <| "Demos:" ::
    Demo.all.map fun d => s!"  {Text.padRight 6 d.name} {d.about}"

/-- The word that is shown beside the stack while a demo runs. -/
def watchAddress (d : Demo) : UInt16 :=
  min Demo.counter (UInt16.ofNat (d.memorySize - Memory.readoutWidth))

/-- What is shown of the memory of a demo after a step. -/
def watchLines (d : Demo) (machine : Machine) : List String :=
  [watchAddress d, machine.get .sp].filterMap fun addr =>
    (machine.memory.readout addr Memory.readoutWidth).toOption

/-- Takes steps and shows the machine after each of them. -/
def showSteps (d : Demo) : Nat → Machine → Part m Unit
  | 0, _ => return
  | n + 1, machine =>
    match machine.step with
    | ⟨.ok i, _, machine⟩ => do
      say host ("cycle ↓ " ++ i.elim "(ignored)" Instruction.text)
      sayAll host (machine.registers.readout :: watchLines d machine)
      showSteps d n machine
    | ⟨.error fault, _, _⟩ => failWith host fault.message

def saveDemo (d : Demo) (path : String) : Part m Unit := do
  let saved ← ExceptT.lift (Image.save host.files path d.program)
  orFail host (fun e => s!"Failed to save image: {e.message}") saved
  say host s!"✓ Saved {d.name} ({d.program.length} bytes) to {path}"

def demoCommand (name output : Option String) : Part m Unit :=
  match name with
  | none => listDemos host
  | some name =>
    match Demo.ofName? name with
    | none => do
      ExceptT.lift (host.complain s!"❌ Unknown demo: {name}")
      listDemos host
      throw 1
    | some d =>
      match output with
      | some path => saveDemo host d path
      | none => do
        let machine := Machine.ofMemory (← orFail host MemoryError.message d.memory) {}
        sayAll host [s!"━━━ Demo: {d.name} ({d.about}) ━━━", machine.registers.readout]
        showSteps host d d.steps machine

def testCommand : Part m Unit := do
  sayAll host (selfTestReport selfTest)
  if selfTest.any fun (_, ok) => !ok then throw 1

def overviewCommand : Part m Unit := do
  sayAll host
    ["vm16 Emulator v0.1.0", "A byte-addressable 16-bit register VM", "",
     "Use --help for available commands", ""]
  listDemos host

def helpLines : List String :=
  ["A byte-addressable 16-bit register VM",
   "",
   "Usage: vm16-emu [-v] [COMMAND]",
   "",
   "Commands:",
   "  run <image> [-m N] [-t] [machine]   run a program",
   "  debug <image> [machine]             interactive debugger",
   "  disasm <image>                      disassemble a program image",
   "  demo [name] [-o path]               run or save a built-in demo",
   "  test                                built-in self-test",
   "",
   "Machine: [-c path] [--memory-size N] [--stack-limit N] [--permissive]"]

/-- The configuration is read before the command says anything. -/
def Command.body : Command → Part m Unit
  | .run program maxSteps trace machine => do
    runCommand host program maxSteps trace (← resolveConfig host machine)
  | .debug program machine => do debugCommand host program (← resolveConfig host machine)
  | .disasm program => disasmCommand host program
  | .demo name output => demoCommand host name output
  | .test => testCommand host
  | .overview => overviewCommand host
  | .version => say host "vm16-emu 0.1.0"
  | .help => sayAll host helpLines

def Command.execute (c : Command) : m ExitCode := do
  match ← (c.body host).run with
  | .ok _ => return 0
  | .error code => return code

/-- The exit code of a refused command line. -/
def usageError : ExitCode := 2

/-- Runs the command that the words give. -/
def dispatch (words : List String) : m ExitCode := do
  match Command.parse? words with
  | some c => c.execute host
  | none =>
    host.complain "error: the arguments are not understood; use --help"
    return usageError

end

/-! ## In memory -/

/-- A directory and what has been said so far, line by line. Log messages are left out. -/
structure Desk where
  directory : Directory
  printed : Array String
  complaints : Array String

/-- A host whose files are those of a directory in memory. -/
def Desk.host : Host (StateM Desk) where
  files :=
    { read := fun path desk => (desk.directory.read path, desk)
      write := fun path content desk =>
        match desk.directory.write path content with
        | .ok directory => (.ok (), { desk with directory })
        | .error e => (.error e, desk) }
  print line := modify fun desk => { desk with printed := desk.printed.push line }
  complain line := modify fun desk => { desk with complaints := desk.complaints.push line }

/-- Runs a command line in a directory. -/
def runIn (directory : Directory) (words : List String) : ExitCode × Desk :=
  (dispatch Desk.host words).run ⟨directory, #[], #[]⟩

end WordMachine.Shell
