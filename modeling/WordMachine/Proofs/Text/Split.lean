import WordMachine.Text.Split

/-!
# Pieces and words by splitting lists

A text falls into pieces as a list that is split at one element. Its words are what is not empty of
the list that is split at every blank, so a blank anywhere separates the words in front of it from
those behind it.
-/

namespace WordMachine.Text

theorem pieces_eq_splitOn (sep : Char) (s : List Char) : pieces sep s = s.splitOn sep := by
  induction s with
  | nil => rfl
  | cons c s ih =>
    rw [List.splitOn_cons_eq_if_modifyHead, ← ih]
    simp only [pieces, List.foldr_cons, beq_iff_eq]
    split <;> rfl

/-! ## Words -/

/-- The word in progress at the front of a text, and the complete words behind it. -/
def wordsInProgress (s : List Char) : List Char × List (List Char) :=
  s.foldr
    (fun c (word, rest) => if isBlank c then ([], consWord word rest) else (c :: word, rest))
    ([], [])

theorem words_eq_consWord (s : List Char) :
    words s = consWord (wordsInProgress s).1 (wordsInProgress s).2 := rfl

theorem consWord_eq_filter (word : List Char) (pieces : List (List Char)) :
    consWord word (pieces.filter (· ≠ [])) = (word :: pieces).filter (· ≠ []) := by
  cases word with
  | nil => rfl
  | cons c word => rfl

/-- The word in progress is the first piece between blanks, and the complete words are what is not
empty of the other pieces. -/
theorem splitOnP_isBlank_eq (s : List Char) : ∃ rest,
    s.splitOnP isBlank = (wordsInProgress s).1 :: rest ∧
      (wordsInProgress s).2 = rest.filter (· ≠ []) := by
  induction s with
  | nil => exact ⟨[], rfl, rfl⟩
  | cons c s ih =>
    obtain ⟨rest, pieces, complete⟩ := ih
    rw [List.splitOnP_cons_eq_if_modifyHead, pieces]
    simp only [wordsInProgress, List.foldr_cons] at complete ⊢
    cases blank : isBlank c with
    | true => exact ⟨_, rfl, by rw [complete]; exact consWord_eq_filter ..⟩
    | false => exact ⟨rest, rfl, complete⟩

theorem words_eq_filter (s : List Char) : words s = (s.splitOnP isBlank).filter (· ≠ []) := by
  obtain ⟨rest, pieces, complete⟩ := splitOnP_isBlank_eq s
  rw [pieces, words_eq_consWord, complete, consWord_eq_filter]

theorem words_append_blank {c : Char} (blank : isBlank c) (s t : List Char) :
    words (s ++ c :: t) = words s ++ words t := by
  rw [words_eq_filter, List.splitOnP_append_cons s t blank, List.filter_append, ← words_eq_filter,
    ← words_eq_filter]

theorem words_singleton {word : List Char} (filled : word ≠ [])
    (letters : ∀ c ∈ word, isBlank c = false) : words word = [word] := by
  rw [words_eq_filter, List.splitOnP_eq_singleton letters]
  simp [filled]

/-- A text of blanks only has no words. -/
theorem words_blanks {s : List Char} (blanks : ∀ c ∈ s, isBlank c) : words s = [] := by
  induction s with
  | nil => rfl
  | cons c s ih =>
    obtain ⟨first, others⟩ := List.forall_mem_cons.mp blanks
    exact (words_append_blank first [] s).trans (ih others)

theorem words_append_blanks (s : List Char) {blanks : List Char}
    (blank : ∀ c ∈ blanks, isBlank c) : words (s ++ blanks) = words s := by
  cases blanks with
  | nil => rw [List.append_nil]
  | cons c blanks =>
    obtain ⟨first, others⟩ := List.forall_mem_cons.mp blank
    rw [words_append_blank first, words_blanks others, List.append_nil]

end WordMachine.Text
