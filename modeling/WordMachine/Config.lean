import WordMachine.Exchange
import WordMachine.Files

/-!
# Configurations

A configuration is given as a JSON text with three fields, all of which can be missing. Its memory
size is checked when the memory is made.
-/

namespace WordMachine

structure Config where
  memorySize : Nat := Memory.maxSize
  settings : Settings := {}
  deriving DecidableEq, Repr

inductive ConfigError where
  | file (error : FileError)
  | malformed
  | memory (error : MemoryError)
  deriving DecidableEq, Repr

def ConfigError.message : ConfigError → String
  | .file e => e.message
  | .malformed => "invalid configuration"
  | .memory e => e.message

namespace Config

def toJson (c : Config) : Json :=
  .ofFields
    [("memory_size", .ofNat c.memorySize),
     ("stack_limit", .ofNat c.settings.stackLimit.toNat),
     ("opcode_policy", c.settings.opcodePolicy.toJson)]

/-- Memory sizes are 64-bit numbers, so that a size no memory has can still be configured. -/
def ofJson? (j : Json) : Option Config := do
  match ← j.record? .refused ["memory_size", "stack_limit", "opcode_policy"] with
  | [memorySize, stackLimit, opcodePolicy] =>
    let memorySize ← memorySize.elim (some Memory.maxSize) (Json.nat? UInt64.size)
    let settings ← Settings.ofValues? stackLimit opcodePolicy
    return { memorySize, settings }
  | _ => none

def parse (text : String) : Except ConfigError Config :=
  match Json.parse? text >>= ofJson? with
  | some c => .ok c
  | none => .error .malformed

/-- The configuration that a file with this content holds. -/
def ofContent (content : Bytes) : Except ConfigError Config := do
  let text ← (decodeText content).mapError .file
  parse text

def load {m : Type → Type} [Monad m] (files : FileAccess m) (path : String) :
    m (Except ConfigError Config) := do
  match ← files.read path with
  | .ok content => return ofContent content
  | .error e => return .error (.file e)

/-- A zeroed memory of the configured size. -/
def memory (c : Config) : Except ConfigError Memory :=
  (Memory.ofSize c.memorySize).mapError .memory

end Config

end WordMachine
