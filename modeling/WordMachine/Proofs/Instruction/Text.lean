import WordMachine.Listing
import WordMachine.Proofs.Register.Name
import WordMachine.Proofs.Text.Hex

/-!
# The text of an instruction

The text of an instruction is a verb and its operands, with commas between them. Four opcodes share
one verb and two share another, but each operand is marked as a literal or an address or is the name
of a register, and the kinds and the order of the operands tell the opcodes of a verb apart. So
different instructions have different texts, and none has the text of a byte of data.
-/

namespace WordMachine

/-! ## Lists with commas -/

/-- Texts with a comma and a blank between them fall apart at the commas, each but the first with
its blank. -/
theorem splitOn_intercalate_comma {first : List Char} {rest : List (List Char)}
    (plain : ∀ t ∈ first :: rest, ',' ∉ t) :
    ([',', ' '].intercalate (first :: rest)).splitOn ',' = first :: rest.map (' ' :: ·) := by
  induction rest generalizing first with
  | nil =>
    rw [List.intercalate_singleton, List.splitOn_eq_singleton (plain first (by simp))]
    rfl
  | cons next rest ih =>
    obtain ⟨here, others⟩ := List.forall_mem_cons.mp plain
    rw [List.intercalate_cons_cons, List.append_assoc, List.cons_append,
      List.splitOn_append_cons_self_of_not_mem here, List.singleton_append,
      List.splitOn_cons_eq_if_modifyHead, if_neg (by decide), ih others]
    rfl

theorem intercalate_comma_inj {ts us : List (List Char)} (hts : ts ≠ []) (hus : us ≠ [])
    (plain : ∀ t ∈ ts, ',' ∉ t) (plain' : ∀ t ∈ us, ',' ∉ t)
    (h : [',', ' '].intercalate ts = [',', ' '].intercalate us) : ts = us := by
  obtain ⟨first, rest, rfl⟩ := List.exists_cons_of_ne_nil hts
  obtain ⟨first', rest', rfl⟩ := List.exists_cons_of_ne_nil hus
  have pieces := congrArg (List.splitOn ',') h
  rw [splitOn_intercalate_comma plain, splitOn_intercalate_comma plain', List.cons.injEq] at pieces
  obtain ⟨rfl, others⟩ := pieces
  rw [List.map_injective_iff.mpr List.cons_injective others]

/-! ## Operands -/

/-- A name has no mark in front and no comma in it. -/
theorem Register.plain_name (r : Register) :
    r.name.toList.head? ≠ some '$' ∧ r.name.toList.head? ≠ some '&' ∧ ',' ∉ r.name.toList := by
  cases r <;> decide

inductive Operand where
  | literal (value : UInt16)
  | address (addr : UInt16)
  | register (reg : Register)
  deriving DecidableEq, Repr

namespace Operand

def text : Operand → String
  | .literal value => "$" ++ Text.Hex.word value
  | .address addr => "&" ++ Text.Hex.word addr
  | .register reg => reg.name

theorem head?_text (a : Operand) :
    a.text.toList.head? = match a with
      | .literal _ => some '$'
      | .address _ => some '&'
      | .register reg => reg.name.toList.head? := by
  cases a <;> simp [text]

/-- The first character tells the kind of an operand. -/
theorem text_inj {a b : Operand} (h : a.text = b.text) : a = b := by
  have first := congrArg (·.toList.head?) h
  simp only [head?_text] at first
  cases a with
  | literal value =>
    cases b with
    | literal other => exact congrArg _ (Text.Hex.word_inj ((String.append_right_inj _).mp h))
    | address => cases first
    | register reg => exact absurd first.symm reg.plain_name.1
  | address addr =>
    cases b with
    | literal => cases first
    | address other => exact congrArg _ (Text.Hex.word_inj ((String.append_right_inj _).mp h))
    | register reg => exact absurd first.symm reg.plain_name.2.1
  | register reg =>
    cases b with
    | literal => exact absurd first reg.plain_name.1
    | address => exact absurd first reg.plain_name.2.1
    | register other => exact congrArg _ (Register.name_inj h)

theorem comma_notMem_word (w : UInt16) : ',' ∉ (Text.Hex.word w).toList := by
  rw [Text.Hex.word, Text.Hex.number, String.toList_ofList]
  intro member
  obtain ⟨n, digit⟩ := Text.Hex.isDigit_of_mem_padded member
  cases Text.Hex.value?_of_isDigit digit

theorem comma_notMem_text (a : Operand) : ',' ∉ a.text.toList := by
  cases a with
  | literal value => simpa [text] using comma_notMem_word value
  | address addr => simpa [text] using comma_notMem_word addr
  | register reg => exact reg.plain_name.2.2

end Operand

/-! ## Instructions -/

namespace Opcode

/-- The word that the text of an instruction begins with. -/
def verb : Opcode → String
  | .movLitReg | .movRegReg | .movRegMem | .movMemReg => "MOV"
  | .addRegReg => "ADD"
  | .jmpNotEq => "JNE"
  | .pshLit | .pshReg => "PSH"
  | .pop => "POP"

theorem length_verb (op : Opcode) : op.verb.toList.length = 3 := by cases op <;> rfl

theorem head?_verb (op : Opcode) : op.verb.toList.head? ≠ some 'D' := by cases op <;> decide

end Opcode

namespace Instruction

/-- The operands in the order of the text. -/
def arguments : Instruction → List Operand
  | .movLitReg value reg => [.literal value, .register reg]
  | .movRegReg source target => [.register source, .register target]
  | .movRegMem reg addr => [.register reg, .address addr]
  | .movMemReg addr reg => [.address addr, .register reg]
  | .addRegReg left right => [.register left, .register right]
  | .jmpNotEq value addr => [.literal value, .address addr]
  | .pshLit value => [.literal value]
  | .pshReg reg => [.register reg]
  | .pop reg => [.register reg]

theorem arguments_ne_nil (i : Instruction) : i.arguments ≠ [] := by cases i <;> exact nofun

/-- Opcodes with one verb take different kinds of operands. -/
theorem eq_of_arguments {i j : Instruction} (verb : i.opcode.verb = j.opcode.verb)
    (arguments : i.arguments = j.arguments) : i = j := by
  cases i <;> cases j <;> simp_all [Instruction.arguments, opcode, Opcode.verb]

theorem toList_text (i : Instruction) :
    i.text.toList = i.opcode.verb.toList ++
      ' ' :: [',', ' '].intercalate (i.arguments.map fun a => a.text.toList) := by
  have plain (s : String) : toString s = s := rfl
  cases i <;> simp [text, Opcode.verb, opcode, arguments, Operand.text, plain]

theorem comma_notMem_arguments (i : Instruction) :
    ∀ t ∈ i.arguments.map fun a => a.text.toList, ',' ∉ t := by
  intro t listed
  obtain ⟨a, -, rfl⟩ := List.mem_map.mp listed
  exact a.comma_notMem_text

theorem text_inj {i j : Instruction} (h : i.text = j.text) : i = j := by
  have same := congrArg String.toList h
  rw [toList_text, toList_text] at same
  obtain ⟨verb, rest⟩ :=
    List.append_inj same (i.opcode.length_verb.trans j.opcode.length_verb.symm)
  have arguments := intercalate_comma_inj (by simp [arguments_ne_nil]) (by simp [arguments_ne_nil])
    i.comma_notMem_arguments j.comma_notMem_arguments (List.cons.inj rest).2
  refine eq_of_arguments (String.toList_inj.mp verb) ?_
  exact List.map_injective_iff.mpr
    (fun a b same => Operand.text_inj (String.toList_inj.mp same)) arguments

end Instruction

/-! ## Lines -/

namespace Line

variable {l : Line}

theorem text_of_instruction {i : Instruction} (h : l.instruction = some i) : l.text = i.text := by
  rw [text, h]

theorem text_of_data (h : l.instruction = none) :
    l.text = "DB $" ++ Text.Hex.byte (l.bytes.headD 0) := by
  rw [text, h]
  rfl

/-- No instruction has the verb of data. -/
theorem data_ne_text (byte : UInt8) (i : Instruction) : "DB $" ++ Text.Hex.byte byte ≠ i.text := by
  intro same
  have first : i.text.toList.head? = some 'D' := by simp [← same]
  rw [Instruction.toList_text, List.head?_append_of_ne_nil] at first
  · exact i.opcode.head?_verb first
  · exact List.ne_nil_of_length_eq_add_one i.opcode.length_verb

/-- The text of an instruction tells the opcode and every operand, and the text of a line tells the
instruction of the line or that it has none; if it has none, the text tells the byte. -/
theorem text_determines_instruction (i j : Instruction) (l l' : Line) :
    (i.text = j.text ↔ i = j) ∧
    (l.text = l'.text ↔
      l.instruction = l'.instruction ∧
        (l.instruction = none → l.bytes.headD 0 = l'.bytes.headD 0)) := by
  refine ⟨⟨Instruction.text_inj, congrArg _⟩, ?_⟩
  cases h : l.instruction with
  | some i =>
    rw [text_of_instruction h]
    cases h' : l'.instruction with
    | some j =>
      rw [text_of_instruction h', Option.some.injEq]
      exact ⟨fun same => ⟨Instruction.text_inj same, nofun⟩, fun same => congrArg _ same.1⟩
    | none =>
      rw [text_of_data h']
      exact iff_of_false (data_ne_text _ i).symm (fun same => nomatch same.1)
  | none =>
    rw [text_of_data h]
    cases h' : l'.instruction with
    | some j =>
      rw [text_of_instruction h']
      exact iff_of_false (data_ne_text _ j) (fun same => nomatch same.1)
    | none =>
      rw [text_of_data h', String.append_right_inj]
      exact ⟨fun same => ⟨rfl, fun _ => Text.Hex.byte_inj same⟩,
        fun same => congrArg _ (same.2 rfl)⟩

example : (Instruction.movRegMem .acc 0xABCD).text = "MOV ACC, &ABCD" ∧
    (Instruction.movMemReg 0xABCD .acc).text = "MOV &ABCD, ACC" := by decide +kernel

end Line

end WordMachine
