import WordMachine.Config

/-!
# Arguments of the command line

A command line is a list of words. Words in front of the name of a command, and after it, set
switches: a long one after two dashes, short ones, possibly several in a word, after one. A switch
that takes a value finds it in its own word, after an equals sign or directly behind the letter, or
in the next word. A word of two dashes ends the switches. Other words are operands.
-/

namespace WordMachine.Shell

/-! ## Numbers -/

/-- The number that a text of one or more digits denotes. -/
def digits? (s : List Char) : Option Nat :=
  if s.isEmpty || !s.all Char.isDigit then none
  else some (s.foldl (fun n c => 10 * n + (c.toNat - 48)) 0)

/-- A number below `bound`; a plus sign in front is allowed. -/
def unsigned? (bound : Nat) (s : String) : Option Nat := do
  let n ← match s.toList with
    | '+' :: digits => digits? digits
    | digits => digits? digits
  if n < bound then some n else none

/-- A 64-bit number. -/
def size? : String → Option Nat := unsigned? UInt64.size

/-- A stack limit is read as a number with a sign, so that zero can have either. -/
def stackLimit? (s : String) : Option UInt16 :=
  match s.toList with
  | '-' :: digits => if digits? digits = some 0 then some 0 else none
  | _ => (unsigned? 65536 s).map UInt16.ofNat

/-! ## Switches -/

inductive Kind where
  /-- Set or not; set at most once. -/
  | flag
  /-- Set any number of times. -/
  | count
  /-- Set at most once, to a value that the test accepts. -/
  | value (accepts : String → Bool)
  /-- Asks for the version and ends the reading. -/
  | version
  /-- Asks for help and ends the reading. -/
  | help

structure Switch where
  long : String
  short : Option Char
  kind : Kind

/-- What has been read so far. -/
structure Found where
  /-- The switches that were set, with their values. -/
  set : List (String × String)
  operands : List String
  deriving DecidableEq, Repr

namespace Found

def empty : Found := ⟨[], []⟩

def has (f : Found) (long : String) : Bool := f.set.any fun (name, _) => name == long

def value? (f : Found) (long : String) : Option String :=
  (f.set.find? fun (name, _) => name == long).map Prod.snd

end Found

/-- What a word does. -/
inductive Effect where
  | done (found : Found)
  /-- The next word is the value of this switch. -/
  | await (found : Found) (switch : Switch)
  | version
  | help
  | refused

/-- Sets a switch to the value that its own word gives, if it gives one. -/
def Switch.apply (s : Switch) (f : Found) (attached : Option String) : Effect :=
  match s.kind, attached with
  | .flag, none => if f.has s.long then .refused else .done { f with set := (s.long, "") :: f.set }
  | .count, none => .done { f with set := (s.long, "") :: f.set }
  | .version, none => .version
  | .help, none => .help
  | .value accepts, some value =>
    if f.has s.long || !accepts value then .refused
    else .done { f with set := (s.long, value) :: f.set }
  | .value _, none => .await f s
  | _, some _ => .refused

/-- A word of a long switch, without its dashes. -/
def readLong (switches : List Switch) (f : Found) (word : List Char) : Effect :=
  let name := String.ofList (word.takeWhile (· ≠ '='))
  let attached := match word.dropWhile (· ≠ '=') with
    | _ :: value => some (String.ofList value)
    | [] => none
  match switches.find? fun s => s.long == name with
  | some s => s.apply f attached
  | none => .refused

/-- A word of short switches, without its dash. A switch that takes a value takes the rest of the
word, less an equals sign in front. -/
def readShort (switches : List Switch) (f : Found) : List Char → Effect
  | [] => .done f
  | letter :: rest =>
    match switches.find? fun s => s.short == some letter with
    | none => .refused
    | some s =>
      match s.kind with
      | .value _ =>
        s.apply f <| match rest with
          | [] => none
          | '=' :: value => some (String.ofList value)
          | value => some (String.ofList value)
      | _ =>
        match s.apply f none with
        | .done f => readShort switches f rest
        | effect => effect

/-- Whether a word sets switches or ends them. A single dash is an operand. -/
def isSwitch (word : String) : Bool :=
  match word.toList with
  | ['-'] => false
  | '-' :: _ => true
  | _ => false

def readSwitch (switches : List Switch) (f : Found) (word : String) : Effect :=
  match word.toList with
  | '-' :: '-' :: long => readLong switches f long
  | _ :: short => readShort switches f short
  | [] => .refused

/-- How the reading of a list of words ends. -/
inductive Reading where
  /-- The switches and operands that were found, and the words that were left. -/
  | found (found : Found) (rest : List String)
  | version
  | help
  | refused

/-- Reads words up to the first operand, which is left with the words behind it. -/
def readFront (switches : List Switch) (f : Found) : List String → Reading
  | [] => .found f []
  | word :: rest =>
    if word = "--" then if rest.isEmpty then .found f [] else .refused
    else if isSwitch word then
      match readSwitch switches f word with
      | .done f => readFront switches f rest
      | .await .. | .refused => .refused
      | .version => .version
      | .help => .help
    else .found f (word :: rest)

/-- Reads all words, of which at most `arity` may be operands. -/
def readAll (switches : List Switch) (arity : Nat) (f : Found) : List String → Reading
  | [] => .found { f with operands := f.operands.reverse } []
  | word :: rest =>
    if word = "--" then
      if f.operands.length + rest.length ≤ arity then
        .found { f with operands := f.operands.reverse ++ rest } []
      else .refused
    else if isSwitch word then
      match readSwitch switches f word with
      | .done f => readAll switches arity f rest
      | .await f s =>
        match rest with
        | value :: rest =>
          if isSwitch value then .refused
          else
            match s.apply f (some value) with
            | .done f => readAll switches arity f rest
            | _ => .refused
        | [] => .refused
      | .version => .version
      | .help => .help
      | .refused => .refused
    else if f.operands.length < arity then
      readAll switches arity { f with operands := word :: f.operands } rest
    else .refused

/-! ## Commands -/

/-- What the command line says about the machine. -/
structure MachineOptions where
  config : Option String := none
  memorySize : Option Nat := none
  stackLimit : Option UInt16 := none
  permissive : Bool := false
  deriving DecidableEq, Repr

/-- What the options change in a configuration. -/
def MachineOptions.override (o : MachineOptions) (c : Config) : Config :=
  { memorySize := o.memorySize.getD c.memorySize
    settings :=
      { stackLimit := o.stackLimit.getD c.settings.stackLimit
        opcodePolicy := if o.permissive then .permissive else c.settings.opcodePolicy } }

inductive Command where
  | run (program : String) (maxSteps : Nat) (trace : Bool) (machine : MachineOptions)
  | debug (program : String) (machine : MachineOptions)
  | disasm (program : String)
  | demo (name output : Option String)
  | test
  /-- No command was named. -/
  | overview
  | version
  | help
  deriving DecidableEq, Repr

namespace Command

/-- The number of steps that a run takes if no other is asked. -/
def defaultMaxSteps : Nat := 10000

/-- Switches that stand anywhere. -/
def commonSwitches : List Switch := [⟨"verbose", some 'v', .count⟩, ⟨"help", some 'h', .help⟩]

def frontSwitches : List Switch := ⟨"version", some 'V', .version⟩ :: commonSwitches

def machineSwitches : List Switch :=
  [⟨"config", some 'c', .value fun _ => true⟩,
   ⟨"memory-size", none, .value fun s => (size? s).isSome⟩,
   ⟨"stack-limit", none, .value fun s => (stackLimit? s).isSome⟩,
   ⟨"permissive", none, .flag⟩]

def runSwitches : List Switch :=
  [⟨"max-steps", some 'm', .value fun s => (size? s).isSome⟩, ⟨"trace", some 't', .flag⟩]

def demoSwitches : List Switch := [⟨"output", some 'o', .value fun _ => true⟩]

def machineOptions (f : Found) : MachineOptions where
  config := f.value? "config"
  memorySize := f.value? "memory-size" >>= size?
  stackLimit := f.value? "stack-limit" >>= stackLimit?
  permissive := f.has "permissive"

/-- Reads the words behind the name of a command and makes the command of what was found. -/
def read (switches : List Switch) (arity : Nat) (words : List String)
    (make : Found → Option Command) : Option Command :=
  match readAll (switches ++ commonSwitches) arity .empty words with
  | .found f _ => make f
  | .help => some .help
  | .version | .refused => none

/-- The names of the commands. -/
def names : List String := ["run", "debug", "disasm", "demo", "test", "help"]

/-- The command with this name, read from the words behind it. -/
def ofName? (name : String) (words : List String) : Option Command :=
  match name with
  | "run" => read (runSwitches ++ machineSwitches) 1 words fun f =>
    match f.operands with
    | [program] =>
      let maxSteps := (f.value? "max-steps" >>= size?).getD defaultMaxSteps
      some (.run program maxSteps (f.has "trace") (machineOptions f))
    | _ => none
  | "debug" => read machineSwitches 1 words fun f =>
    match f.operands with
    | [program] => some (.debug program (machineOptions f))
    | _ => none
  | "disasm" => read [] 1 words fun f =>
    match f.operands with
    | [program] => some (.disasm program)
    | _ => none
  | "demo" => read demoSwitches 1 words fun f =>
    match f.operands with
    | [] => some (.demo none (f.value? "output"))
    | [name] => some (.demo (some name) (f.value? "output"))
    | _ => none
  | "test" => read [] 0 words fun _ => some .test
  | "help" =>
    match words with
    | [] => some .help
    | [name] => if names.contains name then some .help else none
    | _ => none
  | _ => none

/-- The command that a command line gives, unless it is refused. -/
def parse? (words : List String) : Option Command :=
  match readFront frontSwitches .empty words with
  | .found _ [] => some .overview
  | .found _ (name :: words) => ofName? name words
  | .version => some .version
  | .help => some .help
  | .refused => none

end Command

end WordMachine.Shell
