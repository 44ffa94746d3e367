/-!
# JSON trees

A JSON text as a tree. Whether a number or a string is acceptable depends on the place where it
stands, so that the tree keeps more than their values: a number keeps its lexeme, and a string that
escapes one half of a surrogate pair without the other is well formed but denotes no text.
-/

namespace WordMachine

inductive Json where
  | null
  | bool (value : Bool)
  | num (lexeme : String)
  /-- None stands for a string that denotes no text. -/
  | str (text : Option String)
  | arr (items : List Json)
  /-- Fields in the order of the text, repetitions included. -/
  | obj (fields : List (Option String × Json))
  deriving Inhabited

namespace Json

def ofNat (n : Nat) : Json := .num (toString n)

def ofString (s : String) : Json := .str (some s)

def ofFields (fields : List (String × Json)) : Json :=
  .obj (fields.map fun (name, value) => (some name, value))

/-! ## Writing -/

/-- The escape of a character by four lower-case digits. -/
def unicodeEscape (c : Char) : String :=
  let digits := Nat.toDigits 16 c.toNat
  "\\u" ++ String.ofList (List.replicate (4 - digits.length) '0' ++ digits)

/-- Appends a character of a string literal. Only quotes, backslashes and control characters are
escaped. -/
def writeChar (out : String) (c : Char) : String :=
  match c with
  | '\x22' => out ++ "\\\""
  | '\\' => out ++ "\\\\"
  | '\n' => out ++ "\\n"
  | '\r' => out ++ "\\r"
  | '\t' => out ++ "\\t"
  | '\x08' => out ++ "\\b"
  | '\x0c' => out ++ "\\f"
  | c => if c < ' ' then out ++ unicodeEscape c else out.push c

/-- Appends a string literal. One that denotes no text is written as half of a surrogate pair. -/
def writeString (out : String) : Option String → String
  | some s => (s.foldl writeChar (out.push '\x22')).push '\x22'
  | none => out ++ "\"\\ud800\""

mutual

/-- Appends a tree without any blanks. -/
def write (out : String) : Json → String
  | .null => out ++ "null"
  | .bool true => out ++ "true"
  | .bool false => out ++ "false"
  | .num lexeme => out ++ lexeme
  | .str text => writeString out text
  | .arr [] => out ++ "[]"
  | .arr (item :: items) => (writeItems (write (out.push '[') item) items).push ']'
  | .obj [] => out ++ "\x7b\x7d"
  | .obj ((name, value) :: fields) =>
    let first := (writeString (out.push '\x7b') name).push ':'
    (writeFields (write first value) fields).push '\x7d'

/-- Appends items, each behind a comma. -/
def writeItems (out : String) : List Json → String
  | [] => out
  | item :: items => writeItems (write (out.push ',') item) items

/-- Appends fields, each behind a comma. -/
def writeFields (out : String) : List (Option String × Json) → String
  | [] => out
  | (name, value) :: fields =>
    writeFields (write ((writeString (out.push ',') name).push ':') value) fields

end

/-- The text of a tree without any blanks. -/
def compact (j : Json) : String := write "" j

end Json

end WordMachine
