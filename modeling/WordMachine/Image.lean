import WordMachine.Text.Column
import WordMachine.Text.Hex
import WordMachine.Text.Quoted
import WordMachine.Text.Split
import WordMachine.Word

/-!
# Image text

A program image is written as hexadecimal bytes between blanks. A semicolon begins a comment that
ends with its line. A byte has two digits, and may be marked by `0x` or `0X` in front.
-/

namespace WordMachine.Image

/-- What is wrong with a token. -/
inductive TokenError where
  | notTwoDigits (token : String)
  | invalidDigit (token : String)
  deriving DecidableEq, Repr

/-- The first bad token, with the number of its line. -/
structure ParseError where
  line : Nat
  cause : TokenError
  deriving DecidableEq, Repr

def TokenError.message : TokenError → String
  | .notTwoDigits token => s!"expected a two-digit hex byte, found {Text.quoted token}"
  | .invalidDigit token => s!"{Text.quoted token}: invalid digit found in string"

def ParseError.message (e : ParseError) : String :=
  s!"parse error on line {e.line}: {e.cause.message}"

/-! ## Reading -/

/-- The part of a line in front of its comment. -/
def code (line : List Char) : List Char := line.takeWhile (· ≠ ';')

/-- A token without its mark. -/
def unmarked : List Char → List Char
  | '0' :: 'x' :: rest => rest
  | '0' :: 'X' :: rest => rest
  | token => token

/-- The byte of two digits. A plus sign takes the place of a leading zero. -/
def digits? : List Char → Option UInt8
  | ['+', lo] => Text.Hex.pair? '0' lo
  | [hi, lo] => Text.Hex.pair? hi lo
  | _ => none

/-- The length of a text in UTF-8. -/
def encodedLength (s : List Char) : Nat := s.foldl (fun n c => n + c.utf8Size) 0

/-- The byte that a token denotes. Its length counts in UTF-8, so that a single character of two
bytes fails for its digits. -/
def readToken (token : List Char) : Except TokenError UInt8 :=
  let token := unmarked token
  if encodedLength token ≠ 2 then .error (.notTwoDigits (String.ofList token))
  else
    match digits? token with
    | some byte => .ok byte
    | none => .error (.invalidDigit (String.ofList token))

/-- Appends the bytes of a line. -/
def readLine (bytes : Array UInt8) (number : Nat) (line : List Char) :
    Except ParseError (Array UInt8) :=
  (Text.words (code line)).foldlM
    (fun bytes token =>
      match readToken token with
      | .ok byte => .ok (bytes.push byte)
      | .error cause => .error ⟨number, cause⟩)
    bytes

/-- The bytes of an image text. -/
def parse (source : String) : Except ParseError Bytes :=
  Array.toList <$> ((Text.lines source.toList).zipIdx 1).foldlM
    (fun bytes (line, number) => readLine bytes number line) #[]

/-! ## Writing -/

/-- One line of text for up to eight bytes, with their offset in a comment. -/
def row (offset : Nat) (bytes : Bytes) : String :=
  s!"{Text.padRight 23 (Text.Hex.spaced bytes)} ; {Text.Hex.number offset}"

/-- The lines for bytes from `offset` on. -/
def rows (offset : Nat) : Bytes → List String
  | [] => []
  | byte :: bytes => row offset (byte :: bytes.take 7) :: rows (offset + 8) (bytes.drop 7)
termination_by bytes => bytes.length
decreasing_by simp only [List.length_drop, List.length_cons]; omega

/-- The text of an image, eight bytes a line. -/
def format (bytes : Bytes) : String :=
  s!"; vm16 program image\n; {bytes.length} bytes\n\n" ++ Text.unlines (rows 0 bytes)

end WordMachine.Image
