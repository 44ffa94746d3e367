import Mathlib.Data.List.Forall2
import WordMachine.Image
import WordMachine.Proofs.Text.Split

/-!
# The grammar of image text

An image text is its tokens: what stands between blanks in front of the comment of each line. A
token is two hexadecimal digits, and a mark may precede them. The reader takes a second form too, a
plus sign with one digit behind it. It accepts a text if each of its tokens has one of the two
forms, and answers their bytes in order.
-/

namespace WordMachine

/-! ## Digits -/

namespace Text.Hex

/-- The digit of either case with the value `n`. -/
def IsDigit (c : Char) (n : Nat) : Prop :=
  "0123456789abcdef".toList[n]? = some c ∨ "0123456789ABCDEF".toList[n]? = some c

instance (c : Char) (n : Nat) : Decidable (IsDigit c n) := inferInstanceAs (Decidable (_ ∨ _))

/-- What holds of the sixteen digits of either case holds of every digit. -/
theorem IsDigit.elim {P : Char → Nat → Prop} {c : Char} {n : Nat} (h : IsDigit c n)
    (all : ∀ n : Fin 16, P "0123456789abcdef".toList[n] n ∧ P "0123456789ABCDEF".toList[n] n) :
    P c n := by
  rcases h with lower | upper
  · obtain ⟨small, rfl⟩ := List.getElem?_eq_some_iff.mp lower
    exact (all ⟨n, small⟩).1
  · obtain ⟨small, rfl⟩ := List.getElem?_eq_some_iff.mp upper
    exact (all ⟨n, small⟩).2

theorem value?_of_isDigit {c : Char} {n : Nat} (h : IsDigit c n) : value? c = some n :=
  h.elim (P := fun c n => value? c = some n) (by decide)

/-- Digits that follow one another have values that do. -/
theorem isDigit_of_range {c : Char} {first value count : Nat}
    (digits : ∀ k < count, IsDigit (Char.ofNat (first + k)) (value + k)) (least : first ≤ c.toNat)
    (most : c.toNat < first + count) : IsDigit c (value + (c.toNat - first)) := by
  have digit := digits (c.toNat - first) (by omega)
  rwa [Nat.add_sub_cancel' least, Char.ofNat_toNat] at digit

theorem isDigit_of_value? {c : Char} {n : Nat} (h : value? c = some n) : IsDigit c n := by
  have decimal : ∀ k < 10, IsDigit (Char.ofNat (48 + k)) (0 + k) := by decide
  have upper : ∀ k < 6, IsDigit (Char.ofNat (65 + k)) (10 + k) := by decide
  have lower : ∀ k < 6, IsDigit (Char.ofNat (97 + k)) (10 + k) := by decide
  unfold value? at h
  split_ifs at h with range range range
  · have digit := isDigit_of_range decimal range.1 (Nat.lt_succ_of_le range.2)
    grind
  · have digit := isDigit_of_range upper range.1 (Nat.lt_succ_of_le range.2)
    have least : 65 ≤ c.toNat := range.1
    grind
  · have digit := isDigit_of_range lower range.1 (Nat.lt_succ_of_le range.2)
    have least : 97 ≤ c.toNat := range.1
    grind

theorem IsDigit.lt {c : Char} {n : Nat} (h : IsDigit c n) : n < 16 :=
  h.elim (P := fun _ n => n < 16) fun n => ⟨n.isLt, n.isLt⟩

/-- A digit takes one byte and is not the letter of a mark. -/
theorem IsDigit.plain {c : Char} {n : Nat} (h : IsDigit c n) :
    c.utf8Size = 1 ∧ c ≠ 'x' ∧ c ≠ 'X' :=
  h.elim (P := fun c _ => c.utf8Size = 1 ∧ c ≠ 'x' ∧ c ≠ 'X') (by decide)

/-- A digit ends neither a token nor the tokens of a line. -/
theorem IsDigit.letter {c : Char} {n : Nat} (h : IsDigit c n) : isBlank c = false ∧ c ≠ ';' :=
  h.elim (P := fun c _ => isBlank c = false ∧ c ≠ ';') (by decide)

end Text.Hex

namespace Image

open Text.Hex

/-! ## Tokens -/

/-- What stands between the blanks of a line in front of its comment. The carriage return at the
end of a line is a blank. -/
def lineTokens (line : List Char) : List (List Char) :=
  ((line.takeWhile (· ≠ ';')).splitOnP Text.isBlank).filter (· ≠ [])

def tokens (source : String) : List (List Char) :=
  (source.toList.splitOn '\n').flatMap lineTokens

def marks : List (List Char) := [[], ['0', 'x'], ['0', 'X']]

/-- Two digits denote a byte. -/
inductive IsPair : List Char → UInt8 → Prop where
  | digits {hi lo : Char} {high low : Nat} {byte : UInt8} :
    IsDigit hi high → IsDigit lo low → byte.toNat = 16 * high + low → IsPair [hi, lo] byte

/-- A plus sign and a digit. No such text is a byte of the format, but the reader takes it for
one. -/
inductive IsSignedDigit : List Char → UInt8 → Prop where
  | plus {lo : Char} {byte : UInt8} : IsDigit lo byte.toNat → IsSignedDigit ['+', lo] byte

/-- A text of the given form, which one mark may precede. -/
def Marked (form : List Char → UInt8 → Prop) (token : List Char) (byte : UInt8) : Prop :=
  ∃ mark ∈ marks, ∃ rest, token = mark ++ rest ∧ form rest byte

/-- A token by the format. -/
def IsByte : List Char → UInt8 → Prop := Marked IsPair

def IsSigned : List Char → UInt8 → Prop := Marked IsSignedDigit

/-- A token that the reader takes for a byte. -/
def Denotes (token : List Char) (byte : UInt8) : Prop := IsByte token byte ∨ IsSigned token byte

theorem pair?_eq_some_iff {hi lo : Char} {byte : UInt8} :
    pair? hi lo = some byte ↔ IsPair [hi, lo] byte := by
  constructor
  · intro h
    unfold pair? at h
    split at h
    case h_1 high low first second =>
      obtain rfl := Option.some.inj h
      have high_lt := (isDigit_of_value? first).lt
      have low_lt := (isDigit_of_value? second).lt
      refine .digits (isDigit_of_value? first) (isDigit_of_value? second) ?_
      exact UInt8.toNat_ofNat_of_lt' (by simp only [UInt8.size]; omega)
    case h_2 => cases h
  · rintro ⟨first, second, value⟩
    simp [pair?, value?_of_isDigit first, value?_of_isDigit second, ← value]

theorem isPair_zero_iff {lo : Char} {byte : UInt8} :
    IsPair ['0', lo] byte ↔ IsSignedDigit ['+', lo] byte := by
  constructor
  · rintro ⟨first, second, value⟩
    obtain rfl := Option.some.inj ((value?_of_isDigit first).symm.trans (rfl : _ = some 0))
    rw [Nat.mul_zero, Nat.zero_add] at value
    exact .plus (value ▸ second)
  · rintro ⟨digit⟩
    have zero : IsDigit '0' 0 := .inl rfl
    exact .digits zero digit (by omega)

/-- A plus sign is no digit. -/
theorem not_isPair_plus {lo : Char} {byte : UInt8} : ¬ IsPair ['+', lo] byte := by
  rintro ⟨first, -, -⟩
  cases value?_of_isDigit first

theorem digits?_eq_some_iff {token : List Char} {byte : UInt8} :
    digits? token = some byte ↔ IsPair token byte ∨ IsSignedDigit token byte := by
  unfold digits?
  split
  case h_1 lo =>
    rw [pair?_eq_some_iff, isPair_zero_iff]
    exact (or_iff_right not_isPair_plus).symm
  case h_2 hi lo notPlus =>
    rw [pair?_eq_some_iff]
    refine (or_iff_left ?_).symm
    rintro ⟨-⟩
    exact notPlus rfl
  case h_3 notPlus notPair =>
    refine iff_of_false nofun ?_
    rintro (pair | signed)
    · cases pair
      exact notPair _ _ rfl
    · cases signed
      exact notPair _ _ rfl

/-- What stands behind a mark has two bytes and no mark of its own. -/
theorem plain_of_digits? {token : List Char} {byte : UInt8} (h : digits? token = some byte) :
    encodedLength token = 2 ∧ unmarked token = token := by
  have plain {first second : Char} {n : Nat} (single : first.utf8Size = 1)
      (digit : IsDigit second n) :
      encodedLength [first, second] = 2 ∧ unmarked [first, second] = [first, second] := by
    obtain ⟨size, lower, upper⟩ := digit.plain
    refine ⟨by simp [encodedLength, single, size], ?_⟩
    simp [unmarked, lower, upper]
  rcases digits?_eq_some_iff.mp h with pair | signed
  · obtain ⟨first, second, -⟩ := pair
    exact plain first.plain.1 second
  · obtain ⟨digit⟩ := signed
    exact plain rfl digit

/-- The reader takes off one mark. -/
theorem marked_iff {form : List Char → UInt8 → Prop}
    (plain : ∀ {rest byte}, form rest byte → unmarked rest = rest) {token : List Char}
    {byte : UInt8} : Marked form token byte ↔ form (unmarked token) byte := by
  constructor
  · rintro ⟨mark, listed, rest, rfl, formed⟩
    simp only [marks, List.mem_cons, List.not_mem_nil, or_false] at listed
    rcases listed with rfl | rfl | rfl
    · rw [List.nil_append, plain formed]
      exact formed
    · exact formed
    · exact formed
  · intro formed
    unfold unmarked at formed
    split at formed
    case h_1 rest => exact ⟨['0', 'x'], by decide, rest, rfl, formed⟩
    case h_2 rest => exact ⟨['0', 'X'], by decide, rest, rfl, formed⟩
    case h_3 => exact ⟨[], by decide, token, rfl, formed⟩

theorem isByte_iff {token : List Char} {byte : UInt8} :
    IsByte token byte ↔ IsPair (unmarked token) byte :=
  marked_iff fun pair => (plain_of_digits? (digits?_eq_some_iff.mpr (.inl pair))).2

theorem isSigned_iff {token : List Char} {byte : UInt8} :
    IsSigned token byte ↔ IsSignedDigit (unmarked token) byte :=
  marked_iff fun signed => (plain_of_digits? (digits?_eq_some_iff.mpr (.inr signed))).2

theorem denotes_iff {token : List Char} {byte : UInt8} :
    Denotes token byte ↔ digits? (unmarked token) = some byte := by
  rw [digits?_eq_some_iff, Denotes, isByte_iff, isSigned_iff]

theorem readToken_eq_ok_iff {token : List Char} {byte : UInt8} :
    readToken token = .ok byte ↔ Denotes token byte := by
  rw [denotes_iff, readToken]
  split
  case isTrue long =>
    refine iff_of_false nofun ?_
    intro digits
    exact long (plain_of_digits? digits).1
  case isFalse =>
    cases digits? (unmarked token) with
    | none => simp
    | some value => simp

/-! ## Texts -/

theorem mapM_eq_ok_iff {α β ε : Type} {f : α → Except ε β} {as : List α} {bs : List β} :
    as.mapM f = .ok bs ↔ List.Forall₂ (fun a b => f a = .ok b) as bs := by
  induction as generalizing bs with
  | nil => simp [pure, Except.pure, eq_comm]
  | cons a as ih =>
    rw [List.mapM_cons, List.forall₂_cons_left_iff]
    simp only [← ih]
    cases f a with
    | error e => simp [bind, Except.bind]
    | ok b =>
      cases as.mapM f with
      | error e => simp [bind, Except.bind]
      | ok rest => simp [bind, Except.bind, pure, Except.pure, eq_comm]

/-- The bytes of a line, or what is wrong with its first bad token. -/
def lineBytes (line : List Char) : Except TokenError Bytes := (lineTokens line).mapM readToken

/-- The bytes of lines that are numbered from `first` on. -/
def linesBytes (first : Nat) : List (List Char) → Except ParseError Bytes
  | [] => .ok []
  | line :: rest =>
    match lineBytes line with
    | .ok bytes => (linesBytes (first + 1) rest).map (bytes ++ ·)
    | .error cause => .error ⟨first, cause⟩

theorem readLine_eq (bytes : Array UInt8) (number : Nat) (line : List Char) :
    readLine bytes number line = match lineBytes line with
      | .ok more => .ok (bytes ++ more)
      | .error cause => .error ⟨number, cause⟩ := by
  have tokens : Text.words (code line) = lineTokens line := Text.words_eq_filter _
  rw [readLine, lineBytes, tokens]
  induction lineTokens line generalizing bytes with
  | nil => simp [pure, Except.pure]
  | cons token rest ih =>
    rw [List.foldlM_cons, List.mapM_cons]
    cases readToken token with
    | error cause => rfl
    | ok byte =>
      refine (ih _).trans ?_
      cases rest.mapM readToken with
      | error cause => rfl
      | ok more => simp [bind, Except.bind, pure, Except.pure]

theorem readLines_eq (bytes : Array UInt8) (first : Nat) (lines : List (List Char)) :
    (lines.zipIdx first).foldlM (fun bytes (line, number) => readLine bytes number line) bytes =
      (linesBytes first lines).map fun (more : Bytes) => bytes ++ more := by
  induction lines generalizing bytes first with
  | nil => simp [linesBytes, pure, Except.pure, Except.map]
  | cons line rest ih =>
    rw [List.zipIdx_cons, List.foldlM_cons]
    dsimp only
    rw [readLine_eq, linesBytes]
    cases lineBytes line with
    | error cause => rfl
    | ok more =>
      refine (ih _ _).trans ?_
      cases linesBytes (first + 1) rest with
      | error e => rfl
      | ok others => simp [Except.map, ← Array.toList_inj]

theorem parse_eq (source : String) : parse source = linesBytes 1 (source.toList.splitOn '\n') := by
  rw [parse, readLines_eq, Text.lines, Text.pieces_eq_splitOn]
  cases linesBytes 1 (source.toList.splitOn '\n') with
  | error e => rfl
  | ok bytes => simp [Except.map, Functor.map]

theorem linesBytes_cons_eq_ok_iff {first : Nat} {line : List Char} {rest : List (List Char)}
    {bytes : Bytes} :
    linesBytes first (line :: rest) = .ok bytes ↔
      ∃ head tail, lineBytes line = .ok head ∧ linesBytes (first + 1) rest = .ok tail ∧
        head ++ tail = bytes := by
  rw [linesBytes]
  cases lineBytes line with
  | error cause => simp
  | ok head => cases linesBytes (first + 1) rest <;> simp [Except.map]

theorem mapM_append_eq_ok_iff {α β ε : Type} {f : α → Except ε β} {as more : List α} {bs : List β} :
    (as ++ more).mapM f = .ok bs ↔
      ∃ head tail, as.mapM f = .ok head ∧ more.mapM f = .ok tail ∧ head ++ tail = bs := by
  rw [List.mapM_append]
  cases as.mapM f with
  | error e => simp [bind, Except.bind]
  | ok head => cases more.mapM f <;> simp [bind, Except.bind, pure, Except.pure]

/-- Where no token is bad, it does not matter how they stand in lines. -/
theorem linesBytes_eq_ok_iff {first : Nat} {lines : List (List Char)} {bytes : Bytes} :
    linesBytes first lines = .ok bytes ↔
      (lines.flatMap lineTokens).mapM readToken = .ok bytes := by
  induction lines generalizing first bytes with
  | nil => simp [linesBytes, pure, Except.pure]
  | cons line rest ih =>
    rw [List.flatMap_cons, mapM_append_eq_ok_iff, linesBytes_cons_eq_ok_iff]
    simp only [ih, lineBytes]

theorem parse_eq_ok_iff {source : String} {bytes : Bytes} :
    parse source = .ok bytes ↔ List.Forall₂ Denotes (tokens source) bytes := by
  rw [parse_eq, linesBytes_eq_ok_iff, mapM_eq_ok_iff, tokens]
  simp only [readToken_eq_ok_iff]

/-- There are bytes for tokens that all denote one. -/
theorem exists_bytes_iff {tokens : List (List Char)} :
    (∃ bytes, List.Forall₂ Denotes tokens bytes) ↔
      ∀ token ∈ tokens, ∃ byte, Denotes token byte := by
  induction tokens with
  | nil => simp
  | cons token rest ih =>
    rw [List.forall_mem_cons, ← ih]
    simp only [List.forall₂_cons_left_iff]
    constructor
    · rintro ⟨-, byte, bytes, first, others, -⟩
      exact ⟨⟨byte, first⟩, bytes, others⟩
    · rintro ⟨⟨byte, first⟩, bytes, others⟩
      exact ⟨byte :: bytes, byte, bytes, first, others, rfl⟩

theorem IsSignedDigit.head? {rest : List Char} {byte : UInt8} (h : IsSignedDigit rest byte) :
    rest.head? = some '+' := by
  cases h
  rfl

/-- The reader accepts a text if each of its tokens is a byte of the format or a plus sign with a
digit, answers what the tokens denote in order, and refuses every other text. So it reads a text
without such plus signs by the format. -/
theorem parse_accepts_tokens (source : String) :
    (∀ bytes, parse source = .ok bytes ↔ List.Forall₂ Denotes (tokens source) bytes) ∧
    ((∃ e, parse source = .error e) ↔
      ∃ token ∈ tokens source, ∀ byte, ¬ IsByte token byte ∧ ¬ IsSigned token byte) ∧
    ((∀ token ∈ tokens source, ∀ byte, ¬ IsSigned token byte) →
      ∀ bytes, parse source = .ok bytes ↔ List.Forall₂ IsByte (tokens source) bytes) := by
  refine ⟨fun bytes => parse_eq_ok_iff, ?_, ?_⟩
  · have refused : (∃ e, parse source = .error e) ↔ ¬ ∃ bytes, parse source = .ok bytes := by
      cases parse source <;> simp
    simp only [refused, parse_eq_ok_iff, exists_bytes_iff, Denotes, not_forall, not_exists, not_or,
      exists_prop]
  · intro unsigned bytes
    rw [parse_eq_ok_iff]
    constructor
    · intro denoted
      refine ((List.forall₂_and_left _ _).mpr ⟨unsigned, denoted⟩).imp ?_
      rintro token byte ⟨plain, denotes⟩
      exact denotes.resolve_right (plain byte)
    · intro formed
      exact formed.imp fun _ _ => .inl

/-- A marked byte, and one in digits of both cases before a comment with a plus sign. -/
theorem parse_accepts_tokens_marked :
    let source := "0x1A\tfF ; +F\r\n"
    (∀ token ∈ tokens source, ∀ byte, ¬ IsSigned token byte) ∧
      parse source = .ok [0x1A, 0xFF] ∧ ∃ e, parse "1A 0x" = .error e := by
  intro source
  have split : tokens source = [['0', 'x', '1', 'A'], ['f', 'F']] := by decide +kernel
  have unsigned : ∀ token ∈ tokens source, ∀ byte, ¬ IsSigned token byte := by
    rw [split]
    intro token listed byte signed
    have plus : ∀ token ∈ [['0', 'x', '1', 'A'], ['f', 'F']],
        (unmarked token).head? ≠ some '+' := by decide
    exact plus token listed (isSigned_iff.mp signed).head?
  have formed : List.Forall₂ IsByte (tokens source) [0x1A, 0xFF] := by
    rw [split]
    have first : pair? '1' 'A' = some 0x1A := by decide
    have second : pair? 'f' 'F' = some 0xFF := by decide
    exact .cons (isByte_iff.mpr (pair?_eq_some_iff.mp first))
      (.cons (isByte_iff.mpr (pair?_eq_some_iff.mp second)) .nil)
  refine ⟨unsigned, ((parse_accepts_tokens source).2.2 unsigned _).mpr formed, ?_⟩
  refine (parse_accepts_tokens "1A 0x").2.1.mpr ⟨['0', 'x'], by decide +kernel, fun byte => ?_⟩
  have bare : digits? (unmarked ['0', 'x']) = none := rfl
  rw [← not_or, ← Denotes, denotes_iff, bare]
  nofun

/-- A plus sign takes the place of a digit. -/
theorem parse_of_signed_digit :
    parse "+F" = .ok [0x0F] ∧ ¬ List.Forall₂ IsByte (tokens "+F") [0x0F] := by
  have split : tokens "+F" = [['+', 'F']] := by decide +kernel
  refine ⟨by decide +kernel, ?_⟩
  rw [split]
  rintro (_ | ⟨formed, _⟩)
  exact not_isPair_plus (isByte_iff.mp formed)

end Image

end WordMachine
