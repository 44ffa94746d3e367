import WordMachine.Image.File
import WordMachine.Proofs.Text.Hex

/-!
# Written images

The text of an image has the digits of its bytes as tokens and nothing else: numbers of bytes and
offsets stand in comments, and no comment goes beyond its line. So it reads back as the image, and a
file does whose name selects either format.
-/

namespace WordMachine

namespace Image

open Text.Hex

/-! ## Tokens of what is written -/

theorem tokens_append_line {line : String} (single : '\n' ∉ line.toList) (rest : String) :
    tokens (line ++ "\n" ++ rest) = lineTokens line.toList ++ tokens rest := by
  have parts : (line ++ "\n" ++ rest).toList = line.toList ++ '\n' :: rest.toList := by simp
  rw [tokens, parts, List.splitOn_append_cons_self_of_not_mem single, List.flatMap_cons, ← tokens]

theorem tokens_unlines {lines : List String} (single : ∀ line ∈ lines, '\n' ∉ line.toList) :
    tokens (Text.unlines lines) = lines.flatMap fun line => lineTokens line.toList := by
  induction lines with
  | nil => decide
  | cons line rest ih =>
    obtain ⟨here, others⟩ := List.forall_mem_cons.mp single
    have parts : Text.unlines (line :: rest) = line ++ "\n" ++ Text.unlines rest := by
      simp [Text.unlines]
    rw [parts, tokens_append_line here, ih others, List.flatMap_cons]

theorem lineTokens_eq_words {front : List Char} (uncut : ';' ∉ front) (comment : List Char) :
    lineTokens (front ++ ';' :: comment) = Text.words front := by
  have front_eq : (front ++ ';' :: comment).takeWhile (· ≠ ';') = front := by
    rw [List.takeWhile_append_of_pos]
    · simp
    · intro c member
      simpa using ne_of_mem_of_not_mem member uncut
  rw [lineTokens, front_eq, Text.words_eq_filter]

theorem isDigit_of_mem_byte {b : UInt8} {c : Char} (h : c ∈ (byte b).toList) :
    ∃ n, IsDigit c n := by
  rw [byte, String.toList_ofList] at h
  exact isDigit_of_mem_padded h

theorem words_byte (b : UInt8) : Text.words (byte b).toList = [(byte b).toList] := by
  apply Text.words_singleton
  · rw [toList_byte]
    exact List.cons_ne_nil _ _
  · intro c member
    obtain ⟨n, digit⟩ := isDigit_of_mem_byte member
    exact digit.letter.1

theorem toList_spaced_cons_cons (b next : UInt8) (rest : Bytes) :
    (spaced (b :: next :: rest)).toList =
      (byte b).toList ++ ' ' :: (spaced (next :: rest)).toList := by
  simp [spaced]

theorem words_spaced (bytes : Bytes) :
    Text.words (spaced bytes).toList = bytes.map fun b => (byte b).toList := by
  induction bytes with
  | nil => rfl
  | cons b rest ih =>
    cases rest with
    | nil => exact words_byte b
    | cons next rest =>
      rw [toList_spaced_cons_cons, Text.words_append_blank (by decide), words_byte, ih]
      rfl

theorem mem_spaced {bytes : Bytes} {c : Char} (h : c ∈ (spaced bytes).toList) :
    c = ' ' ∨ ∃ n, IsDigit c n := by
  induction bytes with
  | nil => cases h
  | cons b rest ih =>
    cases rest with
    | nil => exact .inr (isDigit_of_mem_byte h)
    | cons next rest =>
      rw [toList_spaced_cons_cons, List.mem_append, List.mem_cons] at h
      rcases h with digits | blank | others
      · exact .inr (isDigit_of_mem_byte digits)
      · exact .inl blank
      · exact ih others

/-- The part of a row in front of its comment: the digits, padded, and one more blank. -/
def rowFront (bytes : Bytes) : List Char :=
  (spaced bytes).toList ++ (List.replicate (23 - (spaced bytes).length) ' ' ++ [' '])

theorem toList_row (offset : Nat) (bytes : Bytes) :
    (row offset bytes).toList = rowFront bytes ++ ';' :: ' ' :: padded 4 offset := by
  have parts : row offset bytes =
      Text.padRight 23 (spaced bytes) ++ " ; " ++ number offset := rfl
  simp [parts, rowFront, Text.padRight, number]

theorem mem_rowFront {bytes : Bytes} {c : Char} (h : c ∈ rowFront bytes) :
    c = ' ' ∨ ∃ n, IsDigit c n := by
  rw [rowFront, List.mem_append, List.mem_append, List.mem_singleton] at h
  rcases h with digits | padding | blank
  · exact mem_spaced digits
  · exact .inl (List.eq_of_mem_replicate padding)
  · exact .inl blank

theorem words_rowFront (bytes : Bytes) :
    Text.words (rowFront bytes) = bytes.map fun b => (byte b).toList := by
  rw [rowFront, Text.words_append_blanks, words_spaced]
  intro c member
  obtain rfl : c = ' ' := by
    rcases List.mem_append.mp member with padding | blank
    · exact List.eq_of_mem_replicate padding
    · exact List.mem_singleton.mp blank
  decide

theorem lineTokens_row (offset : Nat) (bytes : Bytes) :
    lineTokens (row offset bytes).toList = bytes.map fun b => (byte b).toList := by
  have uncut : ';' ∉ rowFront bytes := by
    intro member
    rcases mem_rowFront member with blank | ⟨n, digit⟩
    · exact absurd blank (by decide)
    · exact digit.letter.2 rfl
  rw [toList_row, lineTokens_eq_words uncut, words_rowFront]

theorem lineFeed_notMem_row (offset : Nat) (bytes : Bytes) :
    '\n' ∉ (row offset bytes).toList := by
  have noDigit (n : Nat) (digit : IsDigit '\n' n) : False :=
    Bool.false_ne_true (digit.letter.1.symm.trans rfl)
  rw [toList_row]
  simp only [List.mem_append, List.mem_cons]
  rintro (front | semicolon | blank | offset)
  · rcases mem_rowFront front with blank | ⟨n, digit⟩
    · exact absurd blank (by decide)
    · exact noDigit n digit
  · exact absurd semicolon (by decide)
  · exact absurd blank (by decide)
  · obtain ⟨n, digit⟩ := isDigit_of_mem_padded offset
    exact noDigit n digit

theorem tokens_rows (offset : Nat) (bytes : Bytes) :
    (rows offset bytes).flatMap (fun line => lineTokens line.toList) =
      bytes.map fun b => (byte b).toList := by
  fun_induction rows offset bytes with
  | case1 => rfl
  | case2 offset b rest ih =>
    rw [List.flatMap_cons, lineTokens_row, ih, ← List.map_append, List.cons_append,
      List.take_append_drop]

theorem lineFeed_notMem_rows {offset : Nat} {bytes : Bytes} {line : String}
    (h : line ∈ rows offset bytes) : '\n' ∉ line.toList := by
  fun_induction rows offset bytes with
  | case1 => cases h
  | case2 offset b rest ih =>
    rcases List.mem_cons.mp h with rfl | other
    · exact lineFeed_notMem_row offset _
    · exact ih other

theorem format_eq (bytes : Bytes) :
    format bytes = "; vm16 program image" ++ "\n" ++
      ("; " ++ (toString bytes.length ++ " bytes") ++ "\n" ++
        ("" ++ "\n" ++ Text.unlines (rows 0 bytes))) := by
  have opening : "; vm16 program image\n; " = "; vm16 program image" ++ "\n" ++ "; " := by
    decide +kernel
  have closing : " bytes\n\n" = " bytes" ++ "\n" ++ "\n" := by decide +kernel
  have parts : format bytes = "; vm16 program image\n; " ++ toString bytes.length ++
      " bytes\n\n" ++ Text.unlines (rows 0 bytes) := rfl
  rw [parts, opening, closing]
  simp only [String.append_assoc, String.empty_append]

/-- The comment that tells the number of bytes is one line without tokens. -/
theorem sizeComment_spec (n : Nat) :
    '\n' ∉ ("; " ++ (toString n ++ " bytes")).toList ∧
      lineTokens ("; " ++ (toString n ++ " bytes")).toList = [] := by
  have parts : ("; " ++ (toString n ++ " bytes")).toList =
      ';' :: ' ' :: (Nat.toDigits 10 n ++ " bytes".toList) := by
    rw [String.toList_append, String.toList_append, ← Nat.toList_repr]
    rfl
  rw [parts]
  refine ⟨?_, rfl⟩
  simp only [List.mem_cons, List.mem_append, not_or]
  refine ⟨by decide, by decide, ?_, by decide⟩
  intro member
  have digit := Nat.isDigit_of_mem_toDigits (by decide) (by decide) member
  exact absurd digit (by decide)

/-- The tokens of the text of an image are the digits of its bytes. -/
theorem tokens_format (bytes : Bytes) :
    tokens (format bytes) = bytes.map fun b => (byte b).toList := by
  obtain ⟨single, comment⟩ := sizeComment_spec bytes.length
  have title : lineTokens "; vm16 program image".toList = [] := by decide +kernel
  rw [format_eq, tokens_append_line (by decide +kernel), tokens_append_line single,
    tokens_append_line (by decide +kernel), tokens_unlines fun _ => lineFeed_notMem_rows,
    tokens_rows, title, comment]
  rfl

/-- The digits that are written for a byte are a token that denotes it. -/
theorem isByte_byte (b : UInt8) : IsByte (byte b).toList b := by
  refine ⟨[], List.mem_cons_self .., (byte b).toList, rfl, ?_⟩
  rw [toList_byte, ← pair?_eq_some_iff]
  exact pair?_digits b

theorem parse_format (bytes : Bytes) : parse (format bytes) = .ok bytes := by
  rw [parse_eq_ok_iff, tokens_format, List.forall₂_map_left_iff, List.forall₂_same]
  intro b _
  exact .inl (isByte_byte b)

/-! ## Files -/

theorem ofContent_toContent (path : String) (bytes : Bytes) :
    ofContent path (toContent path bytes) = .ok bytes := by
  cases raw : isRaw path with
  | true => simp only [ofContent, toContent, raw, if_true]; rfl
  | false =>
    simp only [ofContent, toContent, raw, Bool.false_eq_true, if_false, decodeText_encodeText]
    simp only [bind, Except.bind, Except.mapError, parse_format]

end Image

/-- What has been written to a file is read from it. -/
def FileAccess.ReadsBack {σ : Type} (files : FileAccess (StateM σ)) : Prop :=
  ∀ path content s written, (files.write path content).run s = (.ok (), written) →
    ((files.read path).run written).1 = .ok content

namespace Directory

theorem write_run (path : String) (content : Bytes) (d : Directory) :
    (access.write path content).run d = match d.write path content with
      | .ok written => (.ok (), written)
      | .error e => (.error e, d) := by
  change (match d.write path content with
    | .ok written => do set written; return .ok ()
    | .error e => return .error e : StateM Directory (Except FileError Unit)).run d = _
  cases d.write path content <;> rfl

theorem access_readsBack : access.ReadsBack := by
  intro path content d written h
  rw [write_run, write] at h
  cases place : resolve? path with
  | none =>
    rw [place] at h
    cases h
  | some name =>
    rw [place] at h
    cases h
    change (d.insert name content).read path = .ok content
    simp [read, place]

end Directory

namespace Image

theorem save_run {σ : Type} (files : FileAccess (StateM σ)) (path : String) (bytes : Bytes)
    (s : σ) :
    (save files path bytes).run s =
      (((files.write path (toContent path bytes)).run s).1.mapError .file,
        ((files.write path (toContent path bytes)).run s).2) := rfl

theorem load_run {σ : Type} {files : FileAccess (StateM σ)} {path : String} {s : σ}
    {content : Bytes} (h : ((files.read path).run s).1 = .ok content) :
    ((load files path).run s).1 = ofContent path content := by
  have read : (files.read path).run s = (.ok content, ((files.read path).run s).2) :=
    Prod.ext h rfl
  rw [load, StateT.run_bind, read]
  rfl

/-- The text of an image reads back as the image, however long it is. An image saved under a name is
what is loaded under that name, in either format, and saving it fails only where writing does. -/
theorem image_round_trip :
    (∀ bytes, parse (format bytes) = .ok bytes) ∧
    ∀ {σ : Type} (files : FileAccess (StateM σ)), files.ReadsBack → ∀ path bytes s,
      ((save files path bytes).run s).1 =
        ((files.write path (toContent path bytes)).run s).1.mapError .file ∧
      ∀ saved, (save files path bytes).run s = (.ok (), saved) →
        ((load files path).run saved).1 = .ok bytes := by
  refine ⟨parse_format, ?_⟩
  intro σ files readsBack path bytes s
  refine ⟨rfl, ?_⟩
  intro saved stored
  rw [save_run] at stored
  obtain ⟨succeeded, rfl⟩ := Prod.mk.inj stored
  have written : ((files.write path (toContent path bytes)).run s).1 = .ok () := by
    cases outcome : ((files.write path (toContent path bytes)).run s).1 with
    | ok => rfl
    | error e => simp [outcome, Except.mapError] at succeeded
  have read := readsBack path (toContent path bytes) s _ (Prod.ext written rfl)
  rw [load_run read, ofContent_toContent]

/-- A text image and one of bytes in an empty directory. -/
theorem image_round_trip_directory :
    Directory.access.ReadsBack ∧
      ((save Directory.access "p.hex" [0xAB, 0x00]).run .empty).1 = .ok () ∧
      ((load Directory.access "p.hex").run
        ((save Directory.access "p.hex" [0xAB, 0x00]).run .empty).2).1 = .ok [0xAB, 0x00] := by
  have saves : ((save Directory.access "p.hex" [0xAB, 0x00]).run .empty).1 = .ok () := by
    decide +kernel
  have loads := (image_round_trip.2 Directory.access Directory.access_readsBack "p.hex" [0xAB, 0x00]
    .empty).2 _ (Prod.ext saves rfl)
  exact ⟨Directory.access_readsBack, saves, loads⟩

end Image

end WordMachine
