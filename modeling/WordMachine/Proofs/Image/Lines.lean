import WordMachine.Proofs.Image.Grammar

/-!
# Image text line by line

What the reader makes of a text depends on its tokens and the numbers of their lines: it answers the
bytes of the tokens in order, or the first mistake with its number. So a text whose last line is
complete can be put in front of any other, which then is read as if it stood alone, with its numbers
moved, and what a comment says has no effect at all.
-/

namespace WordMachine

/-! ## Attempts in order -/

section

variable {α β ε ε' : Type} {f : α → Except ε β} {e : ε}

theorem mapM_mapError (h : ε → ε') (as : List α) :
    (as.mapM fun a => (f a).mapError h) = (as.mapM f).mapError h := by
  induction as with
  | nil => rfl
  | cons a as ih =>
    rw [List.mapM_cons, List.mapM_cons, ih]
    cases f a with
    | error e => rfl
    | ok b => cases as.mapM f <;> rfl

theorem mapM_eq_error_of_split {good rest : List α} {bad : α}
    (fine : ∀ a ∈ good, ∃ b, f a = .ok b) (fails : f bad = .error e) :
    (good ++ bad :: rest).mapM f = .error e := by
  induction good with
  | nil =>
    rw [List.nil_append, List.mapM_cons, fails]
    rfl
  | cons a good ih =>
    obtain ⟨⟨b, first⟩, others⟩ := List.forall_mem_cons.mp fine
    rw [List.cons_append, List.mapM_cons, first, ih others]
    rfl

/-- Attempts end in the error of the first one that fails. -/
theorem mapM_eq_error_iff {as : List α} :
    as.mapM f = .error e ↔
      ∃ good bad rest, as = good ++ bad :: rest ∧ (∀ a ∈ good, ∃ b, f a = .ok b) ∧
        f bad = .error e := by
  constructor
  · intro h
    induction as with
    | nil => cases h
    | cons a as ih =>
      rw [List.mapM_cons] at h
      cases first : f a with
      | error e' =>
        rw [first] at h
        cases h
        exact ⟨[], a, as, rfl, nofun, first⟩
      | ok b =>
        have others : as.mapM f = .error e := by
          rw [first] at h
          cases tail : as.mapM f <;> rw [tail] at h <;> cases h
          rfl
        obtain ⟨good, bad, rest, rfl, fine, fails⟩ := ih others
        exact ⟨a :: good, bad, rest, rfl, List.forall_mem_cons.mpr ⟨⟨b, first⟩, fine⟩, fails⟩
  · rintro ⟨good, bad, rest, rfl, fine, fails⟩
    exact mapM_eq_error_of_split fine fails

end

namespace Image

/-! ## Numbered tokens -/

/-- The tokens of lines that are numbered from `first` on, each with the number of its line. -/
def numbered (first : Nat) : List (List Char) → List (Nat × List Char)
  | [] => []
  | line :: rest => (lineTokens line).map (first, ·) ++ numbered (first + 1) rest

/-- The tokens of a text with the numbers of their lines. -/
def numberedTokens (source : String) : List (Nat × List Char) :=
  numbered 1 (source.toList.splitOn '\n')

/-- The byte of a token, or what is wrong with it and where. -/
def readNumbered : Nat × List Char → Except ParseError UInt8
  | (line, token) => (readToken token).mapError (⟨line, ·⟩)

theorem linesBytes_eq_mapM (first : Nat) (lines : List (List Char)) :
    linesBytes first lines = (numbered first lines).mapM readNumbered := by
  induction lines generalizing first with
  | nil => rfl
  | cons line rest ih =>
    have here : ((lineTokens line).map (first, ·)).mapM readNumbered =
        (lineBytes line).mapError (⟨first, ·⟩) := by
      rw [List.mapM_map]
      exact mapM_mapError _ _
    rw [linesBytes, numbered, List.mapM_append, here, ih]
    cases lineBytes line with
    | error cause => rfl
    | ok bytes => cases (numbered (first + 1) rest).mapM readNumbered <;> rfl

theorem parse_eq_mapM (source : String) :
    parse source = (numberedTokens source).mapM readNumbered := by
  rw [parse_eq, linesBytes_eq_mapM, numberedTokens]

theorem numbered_append (first : Nat) (lines more : List (List Char)) :
    numbered first (lines ++ more) =
      numbered first lines ++ numbered (first + lines.length) more := by
  induction lines generalizing first with
  | nil => rfl
  | cons line rest ih =>
    rw [List.cons_append, numbered, numbered, ih, List.append_assoc, List.length_cons,
      Nat.add_right_comm, Nat.add_assoc first]

theorem numbered_add (n first : Nat) (lines : List (List Char)) :
    numbered (n + first) lines = (numbered first lines).map (Prod.map (n + ·) id) := by
  induction lines generalizing first with
  | nil => rfl
  | cons line rest ih => simp [numbered, Nat.add_assoc, ih, Function.comp_def]

/-! ## One text after another -/

/-- The same mistake, `n` lines further down. -/
def ParseError.below (n : Nat) (e : ParseError) : ParseError := { e with line := n + e.line }

theorem readNumbered_below (n : Nat) (token : Nat × List Char) :
    readNumbered (Prod.map (n + ·) id token) =
      (readNumbered token).mapError (ParseError.below n) := by
  obtain ⟨line, token⟩ := token
  simp only [readNumbered, Prod.map, id]
  cases readToken token <;> rfl

theorem length_splitOn (sep : Char) (s : List Char) :
    (s.splitOn sep).length = s.count sep + 1 := by
  induction s with
  | nil => rfl
  | cons c s ih =>
    rw [List.splitOn_cons_eq_if_modifyHead, List.count_cons]
    cases c == sep <;> simp [ih]

/-- Behind a complete line the lines of the other text begin. -/
theorem numberedTokens_append {a : String}
    (complete : a = "" ∨ a.toList.getLast? = some '\n') (b : String) :
    numberedTokens (a ++ b) =
      numberedTokens a ++ (numberedTokens b).map (Prod.map (a.toList.count '\n' + ·) id) := by
  rcases complete with rfl | ends
  · have nothing : numberedTokens "" = [] := by decide +kernel
    rw [String.empty_append, nothing, List.nil_append]
    exact numbered_add 0 1 _
  · obtain ⟨front, parts⟩ := List.getLast?_eq_some_iff.mp ends
    have both : (a ++ b).toList = front ++ '\n' :: b.toList := by simp [parts]
    have count : a.toList.count '\n' = (front.splitOn '\n').length := by
      rw [parts, length_splitOn]
      simp
    have rest (first : Nat) : numbered first (List.splitOn '\n' []) = [] := rfl
    rw [numberedTokens, numberedTokens, numberedTokens, both, count, parts,
      List.splitOn_append_cons_self, List.splitOn_append_cons_self, numbered_append,
      numbered_append, rest, List.append_nil, Nat.add_comm 1, numbered_add]

theorem parse_append_of_complete {a : String}
    (complete : a = "" ∨ a.toList.getLast? = some '\n') (b : String) :
    parse (a ++ b) = match parse a, parse b with
      | .error e, _ => .error e
      | .ok _, .error e => .error (e.below (a.toList.count '\n'))
      | .ok first, .ok second => .ok (first ++ second) := by
  have moved : ((numberedTokens b).map (Prod.map (a.toList.count '\n' + ·) id)).mapM readNumbered =
      (parse b).mapError (ParseError.below (a.toList.count '\n')) := by
    rw [List.mapM_map, parse_eq_mapM b, ← mapM_mapError]
    exact congrArg (List.mapM · _) (funext (readNumbered_below _))
  rw [parse_eq_mapM, numberedTokens_append complete, List.mapM_append, ← parse_eq_mapM, moved]
  cases parse a with
  | error e => rfl
  | ok first => cases parse b <;> rfl

/-! ## Comments -/

theorem lineTokens_eq_of_code {line line' : List Char} (h : code line = code line') :
    lineTokens line = lineTokens line' := by
  rw [lineTokens, lineTokens]
  exact congrArg (fun front => (front.splitOnP Text.isBlank).filter (· ≠ [])) h

theorem numbered_eq_of_code {first : Nat} {lines lines' : List (List Char)}
    (h : lines.map code = lines'.map code) : numbered first lines = numbered first lines' := by
  induction lines generalizing first lines' with
  | nil => rw [List.map_eq_nil_iff.mp h.symm]
  | cons line rest ih =>
    obtain ⟨line', rest', rfl, same, others⟩ := List.map_eq_cons_iff.mp h.symm
    rw [numbered, numbered, lineTokens_eq_of_code same, ih others.symm]

theorem map_code_modifyHead (c : Char) (lines : List (List Char)) :
    (lines.modifyHead (c :: ·)).map code =
      (lines.map code).modifyHead fun front => if c = ';' then [] else c :: front := by
  cases lines with
  | nil => rfl
  | cons line rest => by_cases h : c = ';' <;> simp [code, h]

/-- A comment is no part of the code of its line, and ends with it. -/
theorem map_code_splitOn {comment : List Char} (single : '\n' ∉ comment) {rest : List Char}
    (ends : rest = [] ∨ rest.head? = some '\n') (front : List Char) :
    ((front ++ ';' :: comment ++ rest).splitOn '\n').map code =
      ((front ++ rest).splitOn '\n').map code := by
  induction front with
  | nil =>
    have line : '\n' ∉ ';' :: comment := by simp [single]
    rcases ends with rfl | starts
    · simp [List.splitOn_eq_singleton line, code]
    · obtain ⟨others, rfl⟩ := List.head?_eq_some_iff.mp starts
      rw [List.nil_append, List.nil_append, List.splitOn_append_cons_self_of_not_mem line,
        List.splitOn_cons_eq_if_modifyHead]
      simp [code]
  | cons c front ih =>
    simp only [List.cons_append, List.splitOn_cons_eq_if_modifyHead]
    split
    · exact congrArg ([] :: ·) ih
    · rw [map_code_modifyHead, map_code_modifyHead, ← ih]

theorem parse_comment {comment : String} (single : '\n' ∉ comment.toList) {rest : String}
    (ends : rest = "" ∨ rest.toList.head? = some '\n') (front : String) :
    parse (front ++ ";" ++ comment ++ rest) = parse (front ++ rest) := by
  have parts : (front ++ ";" ++ comment ++ rest).toList =
      front.toList ++ ';' :: comment.toList ++ rest.toList := by simp
  have same := map_code_splitOn single (ends.imp_left fun h => by simp [h]) front.toList
  rw [parse_eq_mapM, parse_eq_mapM, numberedTokens, numberedTokens, parts, String.toList_append,
    numbered_eq_of_code same]

/-! ## The first mistake -/

theorem readNumbered_eq_ok_iff {line : Nat} {token : List Char} {byte : UInt8} :
    readNumbered (line, token) = .ok byte ↔ Denotes token byte := by
  rw [← readToken_eq_ok_iff, readNumbered]
  cases readToken token <;> simp [Except.mapError]

theorem readNumbered_eq_error_iff {line : Nat} {token : List Char} {e : ParseError} :
    readNumbered (line, token) = .error e ↔ readToken token = .error e.cause ∧ e.line = line := by
  rw [readNumbered]
  cases readToken token with
  | ok byte => simp [Except.mapError]
  | error cause => cases e; simp [Except.mapError]; tauto

/-- A text is refused for the first of its tokens that denotes no byte. -/
theorem parse_eq_error_iff {source : String} {e : ParseError} :
    parse source = .error e ↔
      ∃ good bad rest, numberedTokens source = good ++ (e.line, bad) :: rest ∧
        (∀ token ∈ good, ∃ byte, Denotes token.2 byte) ∧ readToken bad = .error e.cause := by
  rw [parse_eq_mapM, mapM_eq_error_iff]
  simp only [Prod.exists, Prod.forall, readNumbered_eq_ok_iff, readNumbered_eq_error_iff]
  constructor
  · rintro ⟨good, line, bad, rest, parts, fine, fails, rfl⟩
    exact ⟨good, bad, rest, parts, fine, fails⟩
  · rintro ⟨good, bad, rest, parts, fine, fails⟩
    exact ⟨good, e.line, bad, rest, parts, fine, fails, rfl⟩

/-- A text that ends with a complete line is read before any other text behind it: it is refused as
it is alone; or else a mistake in the other one is reported, as many lines further down as there are
line feeds in the first; or else the bytes of both are answered in order. The mistake that is
reported is the first token that denotes no byte, with the number of its line. A comment ends with
its line, and without it the text is read alike. -/
theorem parse_by_lines :
    (∀ a b : String, (a = "" ∨ a.toList.getLast? = some '\n') →
      (∀ e, parse a = .error e → parse (a ++ b) = .error e) ∧
      ∀ first, parse a = .ok first →
        (∀ e, parse b = .error e →
          parse (a ++ b) = .error ⟨a.toList.count '\n' + e.line, e.cause⟩) ∧
        ∀ second, parse b = .ok second → parse (a ++ b) = .ok (first ++ second)) ∧
    (∀ (source : String) (e : ParseError), parse source = .error e ↔
      ∃ good bad rest, numberedTokens source = good ++ (e.line, bad) :: rest ∧
        (∀ token ∈ good, ∃ byte, Denotes token.2 byte) ∧ readToken bad = .error e.cause) ∧
    (∀ front comment rest : String, '\n' ∉ comment.toList →
      (rest = "" ∨ rest.toList.head? = some '\n') →
        parse (front ++ ";" ++ comment ++ rest) = parse (front ++ rest)) := by
  refine ⟨?_, fun source e => parse_eq_error_iff,
    fun front comment rest single ends => parse_comment single ends front⟩
  intro a b complete
  have both := parse_append_of_complete complete b
  refine ⟨?_, ?_⟩
  · intro e refused
    rw [both, refused]
  · intro first read
    rw [read] at both
    refine ⟨?_, ?_⟩
    · intro e refused
      rw [both, refused]
      rfl
    · intro second readToo
      rw [both, readToo]

/-- A comment line and a blank one, both with a carriage return, before a mark without digits. -/
theorem parse_by_lines_bare_mark :
    let a := "1A ; one\r\n\r\n"
    let b := "fF\n0X ; two\nzz"
    let mistake : TokenError := .notTwoDigits ""
    a.toList.getLast? = some '\n' ∧ parse a = .ok [0x1A] ∧ parse b = .error ⟨2, mistake⟩ ∧
      parse (a ++ b) = .error ⟨2 + 2, mistake⟩ ∧ parse (b ++ "\n" ++ a) = .error ⟨2, mistake⟩ ∧
      parse (a ++ "fF\n") = .ok ([0x1A] ++ [0xFF]) ∧
      parse ("fF\n0X " ++ ";" ++ " two" ++ "\nzz") = parse ("fF\n0X " ++ "\nzz") := by
  intro a b mistake
  obtain ⟨after, -, comments⟩ := parse_by_lines
  have complete : a.toList.getLast? = some '\n' := by decide +kernel
  have read : parse a = .ok [0x1A] := by decide +kernel
  have refused : parse b = .error ⟨2, mistake⟩ := by decide +kernel
  have lines : a.toList.count '\n' = 2 := by decide +kernel
  have moved := ((after a b (.inr complete)).2 _ read).1 _ refused
  rw [lines] at moved
  have closed : parse (b ++ "\n") = .error ⟨2, mistake⟩ := by decide +kernel
  have second : parse "fF\n" = .ok [0xFF] := by decide +kernel
  exact ⟨complete, read, refused, moved,
    (after (b ++ "\n") a (.inr (by decide +kernel))).1 _ closed,
    ((after a "fF\n" (.inr complete)).2 _ read).2 _ second,
    comments "fF\n0X " " two" "\nzz" (by decide +kernel) (.inr (by decide +kernel))⟩

end Image

end WordMachine
