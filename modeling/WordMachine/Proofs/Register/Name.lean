import Mathlib.Data.List.DropRight
import WordMachine.Register

/-!
# Names of registers

A text selects a register if it is the name of that register, in letters of either case and with
blanks around it. No text is the name of two registers, so the one that is found first is the only
one. Every other text, and every index past the last register, is refused with the text or the index
as it was given.
-/

namespace WordMachine

/-! ## Blanks around a text -/

namespace Text

theorem exists_trim (s : List Char) :
    ∃ front back, s = front ++ trim s ++ back ∧ (∀ c ∈ front, isBlank c) ∧
      ∀ c ∈ back, isBlank c := by
  refine ⟨s.takeWhile isBlank, (s.dropWhile isBlank).rtakeWhile isBlank, ?_, ?_, ?_⟩
  · have trimmed : trim s = (s.dropWhile isBlank).rdropWhile isBlank := rfl
    rw [trimmed, List.append_assoc, List.rdropWhile_append_rtakeWhile,
      List.takeWhile_append_dropWhile]
  · exact fun _ => List.mem_takeWhile_imp
  · exact fun _ => List.mem_rtakeWhile_imp

theorem dropWhile_isBlank_append {blanks word : List Char} (filled : word ≠ [])
    (blank : ∀ c ∈ blanks, isBlank c) (letters : ∀ c ∈ word, isBlank c = false)
    (rest : List Char) : (blanks ++ (word ++ rest)).dropWhile isBlank = word ++ rest := by
  obtain ⟨c, word, rfl⟩ := List.exists_cons_of_ne_nil filled
  rw [List.dropWhile_append_of_pos blank, List.cons_append,
    List.dropWhile_cons_of_neg (by simp [letters c])]

/-- A word is what is left of it and the blanks around it. -/
theorem trim_append {front word back : List Char} (filled : word ≠ [])
    (letters : ∀ c ∈ word, isBlank c = false) (blankFront : ∀ c ∈ front, isBlank c)
    (blankBack : ∀ c ∈ back, isBlank c) : trim (front ++ word ++ back) = word := by
  have backwards : (back.reverse ++ (word.reverse ++ [])).dropWhile isBlank = word.reverse ++ [] :=
    dropWhile_isBlank_append (by simpa using filled) (by simpa using blankBack)
      (by simpa using letters) []
  rw [trim, List.append_assoc, dropWhile_isBlank_append filled blankFront letters,
    List.reverse_append, ← List.append_nil word.reverse, backwards]
  simp

/-- No blank is a letter, so it has one case only. -/
theorem toLower_of_isBlank {c : Char} (blank : isBlank c) : c.toLower = c := by
  refine dif_neg ?_
  rintro ⟨least, most⟩
  have least : 65 ≤ c.toNat := least
  have most : c.toNat ≤ 90 := most
  simp only [isBlank, Bool.or_eq_true, Bool.and_eq_true, decide_eq_true_eq, beq_iff_eq] at blank
  omega

end Text

namespace Register

variable {r s : Register} {name : String} {index : UInt8} {e : RegisterError}

/-! ## Names -/

/-- The text is the name of the register in letters of either case, with blanks around it. -/
def IsNamed (r : Register) (name : String) : Prop :=
  ∃ front word back : List Char, name.toList = front ++ word ++ back ∧
    (∀ c ∈ front, Text.isBlank c) ∧ (∀ c ∈ back, Text.isBlank c) ∧
    word.map Char.toLower = r.name.toList.map Char.toLower

theorem lowerCase_name_inj (h : Text.lowerCase r.name = Text.lowerCase s.name) : r = s := by
  have apart : ∀ r ∈ all, ∀ s ∈ all, Text.lowerCase r.name = Text.lowerCase s.name → r = s := by
    decide
  exact apart r r.mem_all s s.mem_all h

theorem name_inj (h : r.name = s.name) : r = s :=
  lowerCase_name_inj (congrArg Text.lowerCase h)

theorem lowerCase_name (r : Register) : Text.lowerCase r.name ≠ [] ∧
    ∀ c ∈ Text.lowerCase r.name, Text.isBlank c = false := by
  have letters : (Text.lowerCase r.name).all fun c => !Text.isBlank c := by cases r <;> decide
  refine ⟨by cases r <;> decide, ?_⟩
  simpa using letters

/-- What is compared with the names is the word between the blanks. -/
theorem isNamed_iff : r.IsNamed name ↔
    (Text.trim name.toList).map Char.toLower = Text.lowerCase r.name := by
  constructor
  · rintro ⟨front, word, back, parts, blankFront, blankBack, same⟩
    have same : word.map Char.toLower = Text.lowerCase r.name := same
    obtain ⟨filled, letters⟩ := r.lowerCase_name
    have letters : ∀ c ∈ word, Text.isBlank c = false := by
      intro c member
      by_contra blank
      have lower := Text.toLower_of_isBlank (Bool.not_eq_false _ ▸ blank)
      exact blank (letters c (same ▸ List.mem_map.mpr ⟨c, member, lower⟩))
    rw [parts, Text.trim_append (by simpa [← same] using filled) letters blankFront blankBack, same]
  · intro same
    obtain ⟨front, back, parts, blankFront, blankBack⟩ := Text.exists_trim name.toList
    exact ⟨front, _, back, parts, blankFront, blankBack, same⟩

theorem IsNamed.unique (hr : r.IsNamed name) (hs : s.IsNamed name) : r = s :=
  lowerCase_name_inj ((isNamed_iff.mp hr).symm.trans (isNamed_iff.mp hs))

theorem sameLetters_trim_iff :
    Text.sameLetters r.name (String.ofList (Text.trim name.toList)) ↔ r.IsNamed name := by
  rw [isNamed_iff, Text.sameLetters, beq_iff_eq, eq_comm]
  simp [Text.lowerCase]

theorem ofName_eq_ok_iff : ofName name = .ok r ↔ r.IsNamed name := by
  rw [ofName]
  cases found : all.find? _ with
  | none =>
    have others := List.find?_eq_none.mp found r r.mem_all
    rw [sameLetters_trim_iff] at others
    exact iff_of_false nofun others
  | some s =>
    have named := List.find?_some found
    rw [sameLetters_trim_iff] at named
    constructor
    · rintro ⟨⟩
      exact named
    · intro other
      rw [named.unique other]

theorem ofName_eq_error_iff :
    ofName name = .error e ↔ (∀ r : Register, ¬ r.IsNamed name) ∧ e = .unknownName name := by
  simp only [← ofName_eq_ok_iff]
  rw [ofName]
  cases all.find? _ <;> simp [eq_comm]

/-! ## Indices -/

theorem ofIndex_eq_ok_iff : ofIndex index = .ok r ↔ r.index = index :=
  ⟨index_of_ofIndex, fun same => same ▸ r.ofIndex_index⟩

theorem ofIndex_eq_error_iff :
    ofIndex index = .error e ↔ 12 ≤ index.toNat ∧ e = .indexOutOfRange index 12 := by
  have last : all.length = 12 := rfl
  rw [ofIndex]
  by_cases listed : index.toNat < 12
  · simp [List.getElem?_eq_getElem (last ▸ listed), Nat.not_le.mpr listed]
  · simp [List.getElem?_eq_none (Nat.not_lt.mp (last ▸ listed)), Nat.not_lt.mp listed, count,
      eq_comm]

end Register

end WordMachine
