import WordMachine.Json.Basic
import WordMachine.Text.Hex

/-!
# Reading JSON

The reader accepts one JSON value with nothing but blanks around it. Blanks are the space, the tab,
the line feed and the carriage return.
-/

namespace WordMachine.Json.Reader

def skipBlanks : List Char → List Char :=
  List.dropWhile fun c => c == ' ' || c == '\t' || c == '\n' || c == '\r'

/-! ## Strings -/

/-- The number that four hexadecimal digits denote. -/
def unit? (a b c d : Char) : Option Nat := do
  let value ← Text.Hex.value? a
  let value := 16 * value + (← Text.Hex.value? b)
  let value := 16 * value + (← Text.Hex.value? c)
  return 16 * value + (← Text.Hex.value? d)

/-- The character that a one-letter escape denotes. -/
def simpleEscape? : Char → Option Char
  | '\x22' => some '\x22'
  | '\\' => some '\\'
  | '/' => some '/'
  | 'b' => some '\x08'
  | 'f' => some '\x0c'
  | 'n' => some '\n'
  | 'r' => some '\r'
  | 't' => some '\t'
  | _ => none

/-- The units of a string up to its closing quote, the last one first, and what follows. A unit is
the number of a character, or that of an escape, which can be half of a surrogate pair. -/
def stringUnits (units : List Nat) : List Char → Option (List Nat × List Char)
  | '\x22' :: rest => some (units, rest)
  | '\\' :: 'u' :: a :: b :: c :: d :: rest =>
    match unit? a b c d with
    | some n => stringUnits (n :: units) rest
    | none => none
  | '\\' :: c :: rest =>
    match simpleEscape? c with
    | some c => stringUnits (c.toNat :: units) rest
    | none => none
  | c :: rest => if c < ' ' then none else stringUnits (c.toNat :: units) rest
  | [] => none

def isHighHalf (n : Nat) : Bool := 0xD800 ≤ n && n ≤ 0xDBFF

def isLowHalf (n : Nat) : Bool := 0xDC00 ≤ n && n ≤ 0xDFFF

/-- Puts the characters of reversed units in front of `text`, joining the halves of pairs. -/
def joinUnits (text : List Char) : List Nat → Option (List Char)
  | [] => some text
  | [n] => if isLowHalf n || isHighHalf n then none else some (Char.ofNat n :: text)
  | low :: high :: units =>
    if isLowHalf low then
      if isHighHalf high then
        joinUnits (Char.ofNat (0x10000 + (high - 0xD800) * 1024 + (low - 0xDC00)) :: text) units
      else none
    else if isHighHalf low then none
    else joinUnits (Char.ofNat low :: text) (high :: units)

/-- A string behind its opening quote, and what follows. -/
def string (s : List Char) : Option (Option String × List Char) := do
  let (units, rest) ← stringUnits [] s
  return ((joinUnits [] units).map String.ofList, rest)

/-! ## Numbers -/

/-- The digits at the front of a text and what follows them. -/
def span (s : List Char) : List Char × List Char :=
  s.span Char.isDigit

/-- An integer without leading zeros. -/
def integer (s : List Char) : Option (List Char × List Char) :=
  match s with
  | '0' :: rest => some (['0'], rest)
  | s =>
    match span s with
    | ([], _) => none
    | (digits, rest) => some (digits, rest)

/-- A fraction, which can be missing. -/
def fraction (s : List Char) : Option (List Char × List Char) :=
  match s with
  | '.' :: s =>
    match span s with
    | ([], _) => none
    | (digits, rest) => some ('.' :: digits, rest)
  | s => some ([], s)

/-- An exponent, which can be missing. -/
def exponent (s : List Char) : Option (List Char × List Char) :=
  let mark (e : Char) (s : List Char) : Option (List Char × List Char) :=
    let (sign, s) := match s with
      | '+' :: s => (['+'], s)
      | '-' :: s => (['-'], s)
      | s => ([], s)
    match span s with
    | ([], _) => none
    | (digits, rest) => some (e :: sign ++ digits, rest)
  match s with
  | 'e' :: s => mark 'e' s
  | 'E' :: s => mark 'E' s
  | s => some ([], s)

/-- A number and what follows. -/
def number (s : List Char) : Option (String × List Char) := do
  let (sign, s) := match s with
    | '-' :: s => (['-'], s)
    | s => ([], s)
  let (whole, s) ← integer s
  let (fraction, s) ← fraction s
  let (exponent, s) ← exponent s
  return (String.ofList (sign ++ whole ++ fraction ++ exponent), s)

/-! ## Values

The arrays and objects that are still open are kept on a stack, so that the reader is one loop.
Every turn of the loop but the last reads a character, so that the length of the text bounds them.
-/

/-- An array or object that is still open, with what it holds so far. -/
inductive Frame where
  | arr (items : Array Json)
  /-- The field called `name` is being read. -/
  | obj (fields : Array (Option String × Json)) (name : Option String)

/-- A field's name with the colon behind it, and what follows. -/
def fieldName (s : List Char) : Option (Option String × List Char) :=
  match skipBlanks s with
  | '\x22' :: rest => do
    let (name, rest) ← string rest
    match skipBlanks rest with
    | ':' :: rest => some (name, rest)
    | _ => none
  | _ => none

/-- What the loop does next. -/
inductive Turn where
  /-- Read the value that begins here. -/
  | enter (stack : List Frame) (rest : List Char)
  /-- A value has been read. -/
  | leave (value : Json) (stack : List Frame) (rest : List Char)
  | fail

/-- The beginning of a value. -/
def openValue (stack : List Frame) (s : List Char) : Turn :=
  match skipBlanks s with
  | 'n' :: 'u' :: 'l' :: 'l' :: rest => .leave .null stack rest
  | 't' :: 'r' :: 'u' :: 'e' :: rest => .leave (.bool true) stack rest
  | 'f' :: 'a' :: 'l' :: 's' :: 'e' :: rest => .leave (.bool false) stack rest
  | '\x22' :: rest =>
    match string rest with
    | some (text, rest) => .leave (.str text) stack rest
    | none => .fail
  | '[' :: rest =>
    match skipBlanks rest with
    | ']' :: rest => .leave (.arr []) stack rest
    | rest => .enter (.arr #[] :: stack) rest
  | '\x7b' :: rest =>
    match skipBlanks rest with
    | '\x7d' :: rest => .leave (.obj []) stack rest
    | rest =>
      match fieldName rest with
      | some (name, rest) => .enter (.obj #[] name :: stack) rest
      | none => .fail
  | s =>
    match number s with
    | some (lexeme, rest) => .leave (.num lexeme) stack rest
    | none => .fail

/-- What follows a value inside the innermost open array or object. -/
def closeValue (value : Json) (frame : Frame) (stack : List Frame) (s : List Char) : Turn :=
  match frame, skipBlanks s with
  | .arr items, ',' :: rest => .enter (.arr (items.push value) :: stack) rest
  | .arr items, ']' :: rest => .leave (.arr (items.push value).toList) stack rest
  | .obj fields name, ',' :: rest =>
    match fieldName rest with
    | some (next, rest) => .enter (.obj (fields.push (name, value)) next :: stack) rest
    | none => .fail
  | .obj fields name, '\x7d' :: rest =>
    .leave (.obj (fields.push (name, value)).toList) stack rest
  | _, _ => .fail

/-- Takes turns until a value stands outside every array and object. -/
def run : (fuel : Nat) → Turn → Option (Json × List Char)
  | 0, _ => none
  | fuel + 1, turn =>
    match turn with
    | .enter stack s => run fuel (openValue stack s)
    | .leave value [] rest => some (value, rest)
    | .leave value (frame :: stack) s => run fuel (closeValue value frame stack s)
    | .fail => none

end Reader

/-- The tree of a JSON text. -/
def parse? (text : String) : Option Json :=
  let s := text.toList
  match Reader.run (s.length + 2) (.enter [] s) with
  | some (j, rest) => if (Reader.skipBlanks rest).isEmpty then some j else none
  | none => none

end WordMachine.Json
