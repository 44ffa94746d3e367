import WordMachine.Text.Split
import WordMachine.Word

/-!
# Files

What the programs need of a file system, and a directory in memory that provides it.
-/

namespace WordMachine

inductive FileError where
  | notFound
  /-- A text file holds bytes that are no UTF-8. -/
  | notText
  | other (description : String)
  deriving DecidableEq, Repr

def FileError.message : FileError → String
  | .notFound => "I/O error: No such file or directory (os error 2)"
  | .notText => "I/O error: stream did not contain valid UTF-8"
  | .other description => s!"I/O error: {description}"

/-- The text that bytes encode in UTF-8. -/
def decodeText (content : Bytes) : Except FileError String :=
  match String.fromUTF8? ⟨content.toArray⟩ with
  | some text => .ok text
  | none => .error .notText

def encodeText (text : String) : Bytes := text.toUTF8.data.toList

@[simp] theorem decodeText_encodeText (text : String) :
    decodeText (encodeText text) = .ok text := by
  have valid : String.fromUTF8? text.toUTF8 = some text := by
    unfold String.fromUTF8?
    rw [dif_pos (show text.toUTF8.IsValidUTF8 from text.isValidUTF8)]
    rfl
  unfold decodeText encodeText
  rw [Array.toArray_toList]
  simp only [valid]

/-- Reading and writing whole files. -/
structure FileAccess (m : Type → Type) where
  read (path : String) : m (Except FileError Bytes)
  write (path : String) (content : Bytes) : m (Except FileError Unit)

/-- A directory without subdirectories: names with contents, each name once. -/
structure Directory where
  files : List (String × Bytes)
  deriving DecidableEq

namespace Directory

def empty : Directory := ⟨[]⟩

/-- The parts of a path between slashes, without empty ones and those that stay in place. -/
def pathParts (path : String) : List (List Char) :=
  (Text.pieces '/' path.toList).filter fun part => part ≠ [] ∧ part ≠ ['.']

/-- The longest name of a file, in bytes. -/
def nameLimit : Nat := 255

/-- The longest path, in bytes: with the zero that ends it, it fills a page. -/
def pathLimit : Nat := 4095

/-- Whether a file can have this name: not too long, and without a zero byte. -/
def isName (name : List Char) : Bool :=
  name ≠ ['.', '.'] && !name.contains '\x00' &&
    (String.ofList name).utf8ByteSize ≤ nameLimit

/-- The name that a path has in the directory. A path that begins elsewhere, leads out of the
directory, asks for a directory or is too long has none: the parts that stay in place count for its
length too. -/
def resolve? (path : String) : Option String :=
  let parts := Text.pieces '/' path.toList
  let last := parts.getLast?
  if pathLimit < path.utf8ByteSize then none
  else if parts.head? = some [] ∨ last = some [] ∨ last = some ['.'] then none
  else
    match pathParts path with
    | [name] => if isName name then some (String.ofList name) else none
    | _ => none

def find? (d : Directory) (name : String) : Option Bytes :=
  (d.files.find? fun (other, _) => other == name).map Prod.snd

/-- Creates a file or replaces its content. -/
def insert (d : Directory) (name : String) (content : Bytes) : Directory :=
  ⟨(name, content) :: d.files.filter fun (other, _) => other ≠ name⟩

def read (d : Directory) (path : String) : Except FileError Bytes :=
  match resolve? path >>= d.find? with
  | some content => .ok content
  | none => .error .notFound

def write (d : Directory) (path : String) (content : Bytes) : Except FileError Directory :=
  match resolve? path with
  | some name => .ok (d.insert name content)
  | none => .error .notFound

/-- File access in a directory that is threaded through. -/
def access : FileAccess (StateM Directory) where
  read path := return (← get).read path
  write path content := do
    match (← get).write path content with
    | .ok d => set d; return .ok ()
    | .error e => return .error e

@[simp] theorem find?_insert_self (d : Directory) (name : String) (content : Bytes) :
    (d.insert name content).find? name = some content := by
  simp [find?, insert]

end Directory

end WordMachine
