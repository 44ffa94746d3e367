import WordMachine.Files
import WordMachine.Image
import WordMachine.Text.Case

/-!
# Image files

The name of a file selects its format: a file with the extension `bin` holds the bytes themselves,
any other the image text.
-/

namespace WordMachine.Image

/-- The last part of a path, unless it is the way up. -/
def fileName? (path : String) : Option (List Char) :=
  match (Directory.pathParts path).getLast? with
  | some ['.', '.'] => none
  | name => name

/-- What follows the last point of a file's name, if something precedes that point. -/
def extension? (path : String) : Option String := do
  let name ← fileName? path
  let after := name.reverse.takeWhile (· ≠ '.')
  if name.length - after.length ≤ 1 then none else some (String.ofList after.reverse)

/-- Whether a file holds the bytes themselves. -/
def isRaw (path : String) : Bool :=
  match extension? path with
  | some extension => Text.sameLetters extension "bin"
  | none => false

inductive Error where
  | file (error : FileError)
  | parse (error : ParseError)
  deriving DecidableEq, Repr

def Error.message : Error → String
  | .file e => e.message
  | .parse e => e.message

/-- The content of the file `path` for an image. -/
def toContent (path : String) (bytes : Bytes) : Bytes :=
  if isRaw path then bytes else encodeText (format bytes)

/-- The image that the file `path` holds with this content. -/
def ofContent (path : String) (content : Bytes) : Except Error Bytes := do
  if isRaw path then return content
  let source ← (decodeText content).mapError .file
  (parse source).mapError .parse

def save {m : Type → Type} [Monad m] (files : FileAccess m) (path : String) (bytes : Bytes) :
    m (Except Error Unit) := do
  return (← files.write path (toContent path bytes)).mapError .file

def load {m : Type → Type} [Monad m] (files : FileAccess m) (path : String) :
    m (Except Error Bytes) := do
  match ← files.read path with
  | .ok content => return ofContent path content
  | .error e => return .error (.file e)

example : isRaw "p.BIN" ∧ isRaw "..bin" ∧ ¬ isRaw ".bin" ∧ ¬ isRaw "bin" ∧ ¬ isRaw "p." := by
  decide +kernel

end WordMachine.Image
