/-!
# Splitting text

The blank characters are those with the Unicode property `White_Space`. A word is a longest run of
other characters. A text is also split into pieces at every occurrence of one character.
-/

namespace WordMachine.Text

/-- The twenty-five characters with the property `White_Space`. -/
def isBlank (c : Char) : Bool :=
  let n := c.toNat
  (9 ≤ n && n ≤ 13) || n == 0x20 || n == 0x85 || n == 0xA0 || n == 0x1680
    || (0x2000 ≤ n && n ≤ 0x200A) || n == 0x2028 || n == 0x2029 || n == 0x202F
    || n == 0x205F || n == 0x3000

/-- The text without its leading and trailing blanks. -/
def trim (s : List Char) : List Char :=
  ((s.dropWhile isBlank).reverse.dropWhile isBlank).reverse

/-- Puts a word in front of the words after it; an empty one is none. -/
def consWord (word : List Char) (words : List (List Char)) : List (List Char) :=
  if word.isEmpty then words else word :: words

/-- The words of a text in order. Reading from the right, the word in progress is kept apart from
the words that are complete. -/
def words (s : List Char) : List (List Char) :=
  let (word, rest) := s.foldr
    (fun c (word, rest) => if isBlank c then ([], consWord word rest) else (c :: word, rest))
    ([], [])
  consWord word rest

/-- The pieces of a text between occurrences of `sep`: one more than there are occurrences. -/
def pieces (sep : Char) (s : List Char) : List (List Char) :=
  let (piece, rest) := s.foldr
    (fun c (piece, rest) => if c = sep then ([], piece :: rest) else (c :: piece, rest))
    ([], [])
  piece :: rest

/-- The pieces of a text between line feeds. -/
def lines (s : List Char) : List (List Char) := pieces '\n' s

example : words " a  bc ".toList = [['a'], ['b', 'c']] ∧ lines "a\n\nb\n".toList =
    [['a'], [], ['b'], []] ∧ trim " a b\n".toList = ['a', ' ', 'b'] := by decide +kernel

end WordMachine.Text
