import WordMachine.Shell.Commands

/-!
# The program

The command line, run on the files and streams of the operating system.
-/

namespace WordMachine.Shell

def fileError : IO.Error → FileError
  | .noFileOrDirectory .. => .notFound
  | e => .other (toString e)

/-- The files of the operating system. -/
def systemFiles : FileAccess IO where
  read path := do
    try
      return .ok (← IO.FS.readBinFile path).toList
    catch e => return .error (fileError e)
  write path content := do
    try
      IO.FS.writeBinFile path ⟨content.toArray⟩
      return .ok ()
    catch e => return .error (fileError e)

def systemHost : Host IO where
  files := systemFiles
  print := IO.println
  complain := IO.eprintln

end WordMachine.Shell

def main (words : List String) : IO UInt32 := do
  let code ← WordMachine.Shell.dispatch WordMachine.Shell.systemHost words
  return UInt32.ofNat code
