import WordMachine.Text.Printable

/-!
# Quoted text

A text is quoted between double quotes. The quote, the backslash and four control characters have
short escapes; a character that cannot be seen on its own is written by its number.
-/

namespace WordMachine.Text

/-- The escape that gives a character by its number in lower-case hexadecimal. -/
def numbered (c : Char) : List Char :=
  ['\\', 'u', '\x7b'] ++ Nat.toDigits 16 c.toNat ++ ['\x7d']

def quotedChar (c : Char) : List Char :=
  match c with
  | '\x00' => ['\\', '0']
  | '\t' => ['\\', 't']
  | '\r' => ['\\', 'r']
  | '\n' => ['\\', 'n']
  | '\\' => ['\\', '\\']
  | '\x22' => ['\\', '\x22']
  | c => if isExtending c || !isPrintable c then numbered c else [c]

def quoted (s : String) : String :=
  String.ofList ('\x22' :: s.toList.flatMap quotedChar ++ ['\x22'])

end WordMachine.Text
