import WordMachine.Proofs.Image.RoundTrip
import WordMachine.Proofs.Shell.Run

/-!
# The step budget

A run stops outside the image or when its budget is spent, and its last step can bring both about.
The warning tells of the budget alone. So it is given to every program that was cut short, and to
those that end with the last step they had.
-/

namespace WordMachine.Shell

open Machine

/-! ## Commands that succeed -/

namespace Desk

variable {desk after : Desk}

theorem bind_of_error {α β : Type} {part : Part (StateM Desk) α}
    {next : α → Part (StateM Desk) β} {code : ExitCode} (h : part desk = (.error code, after)) :
    (part >>= next) desk = (.error code, after) := by
  simp only [bind, ExceptT.bind, ExceptT.mk, StateT.bind, h, ExceptT.bindCont]
  rfl

theorem lift_of_eq {α : Type} {action : StateM Desk α} {a : α} (h : action desk = (a, after)) :
    (ExceptT.lift action : Part (StateM Desk) α) desk = (.ok a, after) := by
  simp only [ExceptT.lift, ExceptT.mk, Functor.map, StateT.map, h]
  rfl

/-- A result that is an error ends the command with a complaint. -/
theorem orFail_cases {ε α : Type} (complaint : ε → String) (result : Except ε α) (desk : Desk) :
    (∃ a, result = .ok a ∧ orFail host complaint result desk = (.ok a, desk)) ∨
      ∃ after, orFail host complaint result desk = (.error 1, after) := by
  cases result with
  | ok a => exact .inl ⟨a, rfl, rfl⟩
  | error e => exact .inr ⟨desk.complaining s!"❌ {complaint e}", rfl⟩

theorem resolveConfig_cases (options : MachineOptions) (desk : Desk) :
    (∃ config, resolveConfig host options desk = (.ok config, desk)) ∨
      ∃ after, resolveConfig host options desk = (.error 1, after) := by
  unfold resolveConfig
  cases options.config with
  | none => exact .inl ⟨_, rfl⟩
  | some path =>
    have loaded : ∃ result, Config.load host.files path desk = (result, desk) := by
      simp only [Config.load, host, bind, StateT.bind]
      cases desk.directory.read path <;> exact ⟨_, rfl⟩
    obtain ⟨result, loaded⟩ := loaded
    dsimp only
    rw [bind_of_ok (lift_of_eq loaded)]
    obtain ⟨config, -, found⟩ | ⟨after, failed⟩ := orFail_cases
      (fun e => s!"Failed to load config: {ConfigError.message e}") result desk
    · exact .inl ⟨_, bind_of_ok found⟩
    · exact .inr ⟨after, bind_of_error failed⟩

theorem loadProgram_cases (path : String) (desk : Desk) :
    (∃ content program, desk.directory.read path = .ok content ∧
      Image.ofContent path content = .ok program ∧ program ≠ []) ∨
      ∃ after, loadProgram host path desk = (.error 1, after) := by
  obtain ⟨result, loaded, source⟩ : ∃ result, Image.load host.files path desk = (result, desk) ∧
      ∀ program, result = .ok program → ∃ content, desk.directory.read path = .ok content ∧
        Image.ofContent path content = .ok program := by
    simp only [Image.load, host, bind, StateT.bind]
    cases desk.directory.read path with
    | ok content => exact ⟨_, rfl, fun program image => ⟨content, rfl, image⟩⟩
    | error e => exact ⟨_, rfl, fun program image => by cases image⟩
  rw [loadProgram, bind_of_ok (lift_of_eq loaded)]
  obtain ⟨program, value, found⟩ | ⟨after, failed⟩ := orFail_cases
    (fun e => s!"Failed to load image: {Image.Error.message e}") result desk
  · obtain ⟨content, read, image⟩ := source program value
    by_cases nonempty : program = []
    · subst nonempty
      exact .inr ⟨_, (bind_of_ok found).trans (bind_of_error rfl)⟩
    · exact .inl ⟨content, program, read, image, nonempty⟩
  · exact .inr ⟨after, bind_of_error failed⟩

theorem buildMemory_cases (config : Config) (program : Bytes) (desk : Desk) :
    (∃ blank memory, config.memory = .ok blank ∧ blank.install program = .ok memory) ∨
      ∃ after, buildMemory host config program desk = (.error 1, after) := by
  unfold buildMemory
  obtain ⟨blank, size, made⟩ | ⟨after, failed⟩ :=
    orFail_cases ConfigError.message config.memory desk
  · rw [bind_of_ok made]
    obtain ⟨memory, placed, -⟩ | ⟨after, failed⟩ := orFail_cases
      (fun e => s!"Failed to load program: {MemoryError.message e}") (blank.install program) desk
    · exact .inl ⟨blank, memory, size, placed⟩
    · exact .inr ⟨after, failed⟩
  · exact .inr ⟨after, bind_of_error failed⟩

theorem runCommand_cases (path : String) (budget : Nat) (trace : Bool) (config : Config)
    (desk : Desk) :
    (∃ content program blank memory, desk.directory.read path = .ok content ∧
      Image.ofContent path content = .ok program ∧ program ≠ [] ∧ config.memory = .ok blank ∧
      blank.install program = .ok memory) ∨
      ∃ after, runCommand host path budget trace config desk = (.error 1, after) := by
  rw [runCommand, bind_of_ok (say_eq _ _)]
  obtain ⟨content, program, found, image, nonempty⟩ | ⟨after, failed⟩ :=
    loadProgram_cases path (desk.saying [s!"🔧 Running: {path}"])
  · rw [bind_of_ok (loadProgram_eq found image nonempty)]
    obtain ⟨blank, memory, size, placed⟩ | ⟨after, failed⟩ := buildMemory_cases config program
      ((desk.saying [s!"🔧 Running: {path}"]).saying [s!"📂 Loaded {program.length} bytes"])
    · exact .inl ⟨content, program, blank, memory, found, image, nonempty, size, placed⟩
    · exact .inr ⟨after, bind_of_error failed⟩
  · exact .inr ⟨after, bind_of_error failed⟩

end Desk

/-- A run command that succeeds has found all that it needs. -/
theorem exists_prepared {desk : Desk} {path : String} {budget : Nat} {trace : Bool}
    {options : MachineOptions}
    (succeeds : ((Command.run path budget trace options).execute Desk.host desk).1 = 0) :
    ∃ program memory settings, Prepared desk path options program memory settings := by
  have fails (after : Desk)
      (h : (Command.run path budget trace options).body Desk.host desk = (.error 1, after)) :
      False := by
    simp only [Command.execute, bind, StateT.bind, ExceptT.run, h] at succeeds
    cases succeeds
  obtain ⟨config, resolved⟩ | ⟨after, failed⟩ := Desk.resolveConfig_cases options desk
  · obtain ⟨content, program, blank, memory, found, image, nonempty, size, placed⟩ |
      ⟨after, failed⟩ := Desk.runCommand_cases path budget trace config desk
    · exact ⟨program, memory, config.settings, ⟨content, found, image⟩, nonempty, config, blank,
        resolved, rfl, size, placed⟩
    · exact (fails after ((Desk.bind_of_ok resolved).trans failed)).elim
  · exact (fails after (Desk.bind_of_error failed)).elim

/-! ## The warning -/

/-- The line that warns of a spent budget. -/
def warning (budget : Nat) : String :=
  s!"⚠️  Reached step budget ({budget}). Use --max-steps to increase."

theorem head?_append {front : String} {c : Char} (h : front.toList.head? = some c)
    (rest : String) : (front ++ rest).toList.head? = some c := by
  simp [h]

theorem head?_warning (budget : Nat) : (warning budget).toList.head? = some '⚠' :=
  head?_append (head?_append (by decide +kernel) _) _

theorem isDigit_of_head?_word {w : UInt16} {c : Char} {rest : String}
    (h : (Text.Hex.word w ++ rest).toList.head? = some c) : ∃ n, Text.Hex.IsDigit c n := by
  have digits : (Text.Hex.word w).toList = Text.Hex.padded 4 w.toNat := String.toList_ofList
  have filled : Text.Hex.padded 4 w.toNat ≠ [] := by simp [Text.Hex.padded]
  rw [String.toList_append, digits, List.head?_append_of_ne_nil _ filled] at h
  exact Text.Hex.isDigit_of_mem_padded (List.mem_of_mem_head? h)

theorem head?_text_ne (e : Event) : e.text.toList.head? ≠ some '⚠' := by
  intro is
  obtain ⟨n, digit⟩ : ∃ n, Text.Hex.IsDigit '⚠' n := by
    cases e <;> simp only [Event.text, String.append_assoc] at is <;>
      exact isDigit_of_head?_word is
  exact absurd digit.plain.1 (by decide)

theorem head?_readout (b : RegisterBank) : b.readout.toList.head? = some 'I' := by
  simp [RegisterBank.readout, RegisterBank.toList, Register.all, Register.name, toString]

theorem head?_ne {line : String} {c : Char} (h : line.toList.head? = some c) (other : c ≠ '⚠') :
    line.toList.head? ≠ some '⚠' := by
  rw [h]
  simpa using other

/-- No other line begins with the sign of the warning. -/
theorem warning_notMem_of_head? {lines : List String} {budget : Nat}
    (plain : ∀ line ∈ lines, line.toList.head? ≠ some '⚠') : warning budget ∉ lines := by
  intro listed
  exact absurd (head?_warning budget) (plain (warning budget) listed)

theorem reachedBudget_succ_steps (e : RunEnd) : e.reachedBudget (e.steps + 1) = false :=
  decide_eq_false (Nat.not_succ_le_self _)

/-- The report with the warning left out is that of a larger budget. -/
theorem report_eq (e : RunEnd) (budget : Nat) :
    e.report budget =
      e.report (e.steps + 1) ++ if budget ≤ e.steps then ["", warning budget] else [] := by
  have reached : e.reachedBudget budget = decide (budget ≤ e.steps) := rfl
  simp only [RunEnd.report, reachedBudget_succ_steps, reached, Bool.false_eq_true, if_false,
    List.append_nil, decide_eq_true_eq]
  rfl

theorem warning_notMem_report (e : RunEnd) (budget : Nat) :
    warning budget ∉ e.report (e.steps + 1) := by
  apply warning_notMem_of_head?
  intro line listed
  simp only [RunEnd.report, reachedBudget_succ_steps, Bool.false_eq_true, if_false,
    List.append_nil, List.mem_append, List.mem_cons, List.not_mem_nil, or_false] at listed
  rcases listed with (rfl | rfl | rfl | rfl | rfl) | stack
  · decide
  · decide +kernel
  · exact head?_ne (head?_append (c := 'S') (by decide +kernel) _) (by decide)
  · exact head?_ne (head?_append (c := 'C') (by decide +kernel) _) (by decide)
  · exact head?_ne (head?_readout _) (by decide)
  · split at stack
    · obtain rfl := List.mem_singleton.mp stack
      exact head?_ne (head?_append (c := 'S') (by decide +kernel) _) (by decide)
    · cases stack

theorem warning_notMem_opening (path : String) (program : Bytes) (trace : Bool) (e : RunEnd)
    (budget : Nat) : warning budget ∉ opening path program trace e := by
  apply warning_notMem_of_head?
  intro line listed
  simp only [opening, List.mem_append, List.mem_cons, List.not_mem_nil, or_false] at listed
  rcases listed with (rfl | rfl | rfl | rfl) | traced
  · exact head?_ne (head?_append (c := '🔧') (by decide +kernel) _) (by decide)
  · exact head?_ne (head?_append (head?_append (c := '📂') (by decide +kernel) _) _) (by decide)
  · decide
  · decide +kernel
  · split at traced
    · obtain ⟨event, -, rfl⟩ := List.mem_map.mp traced
      exact head?_text_ne event
    · cases traced

/-- The warning tells that the number of steps has reached the budget. -/
theorem warning_mem_iff (path : String) (program : Bytes) (trace : Bool) (e : RunEnd)
    (budget : Nat) :
    warning budget ∈ opening path program trace e ++ e.report budget ↔ budget ≤ e.steps := by
  have before := warning_notMem_opening path program trace e budget
  have report := warning_notMem_report e budget
  rw [report_eq, List.mem_append, List.mem_append, or_iff_right before, or_iff_right report]
  split
  case isTrue spent => simp [spent]
  case isFalse left => simp [left]

/-! ## Programs that are cut short -/

theorem fault_eq_none_of_succeeds {desk : Desk} {path : String} {options : MachineOptions}
    {program : Bytes} {memory : Memory} {settings : Settings} {budget : Nat} {trace : Bool}
    (prepared : Prepared desk path options program memory settings)
    (succeeds : ((Command.run path budget trace options).execute Desk.host desk).1 = 0) :
    (runProgram program.length budget (.ofMemory memory settings)).fault = none := by
  rw [execute_run prepared] at succeeds
  cases ended : (runProgram program.length budget (.ofMemory memory settings)).fault with
  | none => rfl
  | some fault => simp only [ended] at succeeds; cases succeeds

/-- A run command that succeeds has found an image and a memory for it, and its run ends without a
fault. It warns exactly if the number of its steps has reached the budget: that is, the instruction
pointer is still inside the image when the loop stops, or it left the image with the last step of
the budget. -/
theorem warns_iff_cut_short_or_spent (desk : Desk) (path : String) (budget : Nat) (trace : Bool)
    (options : MachineOptions)
    (succeeds : ((Command.run path budget trace options).execute Desk.host desk).1 = 0) :
    (∃ program memory settings, Prepared desk path options program memory settings) ∧
    ∀ program memory settings, Prepared desk path options program memory settings →
      let m : Machine := .ofMemory memory settings
      let e := runProgram program.length budget m
      let inside (s : Machine) := (s.get .ip).toNat < program.length
      e.fault = none ∧
      ∃ lines, (Command.run path budget trace options).execute Desk.host desk =
          (0, desk.saying lines) ∧
        (warning budget ∈ lines ↔ e.steps = budget) ∧
        (warning budget ∈ lines ↔ inside e.machine ∨
          (∀ j < budget, inside (m.afterSteps j)) ∧ ¬ inside (m.afterSteps budget)) := by
  refine ⟨exists_prepared succeeds, ?_⟩
  intro program memory settings prepared m e inside
  have fault : e.fault = none := fault_eq_none_of_succeeds prepared succeeds
  have ran := execute_run prepared budget trace
  have ends : EndsIn _ budget m e.steps e.fault e.machine := runProgram_endsIn ..
  have warned := warning_mem_iff path program trace e budget
  have most := ends.length_le
  rw [← Nat.le_antisymm_iff.trans (and_iff_right most)] at warned
  rw [fault] at ends
  simp only [show (runProgram program.length budget (.ofMemory memory settings)).fault = none
    from fault, Desk.saying_saying] at ran
  refine ⟨fault, _, ran, warned, ?_⟩
  rw [warned, ends.length_eq_iff]
  simp only [inside, Nat.not_le, Nat.not_lt]

/-- A jump to itself never leaves its image. -/
theorem warns_iff_cut_short_or_spent_jump :
    let image : Bytes := [0x15, 0x00, 0x07, 0x00, 0x00]
    let desk : Desk := ⟨⟨[("p.bin", image)]⟩, #[], #[]⟩
    let ended := (Command.run "p.bin" 3 false { memorySize := some 16 }).execute Desk.host desk
    ended.1 = 0 ∧ ∃ lines, ended = (0, desk.saying lines) ∧ warning 3 ∈ lines := by
  intro image desk ended
  have prepared : Prepared desk "p.bin" { memorySize := some 16 } image
      ((Memory.zeros 16).put 0 image) {} := by
    refine ⟨⟨image, ?_, ?_⟩, by decide, _, _, rfl, rfl, rfl, rfl⟩ <;> decide +kernel
  have ends : (runProgram image.length 3 (.ofMemory ((Memory.zeros 16).put 0 image) {})).fault =
      none := by decide +kernel
  have steps : (runProgram image.length 3 (.ofMemory ((Memory.zeros 16).put 0 image) {})).steps =
      3 := by decide +kernel
  have ran := execute_run prepared 3 false
  simp only [ends] at ran
  have succeeds : ended.1 = 0 := congrArg Prod.fst ran
  obtain ⟨-, lines, said, warned, -⟩ :=
    (warns_iff_cut_short_or_spent desk "p.bin" 3 false _ succeeds).2 _ _ _ prepared
  exact ⟨succeeds, lines, said, warned.mpr steps⟩

/-- The last step of the budget leaves the image, and the warning is given all the same. -/
theorem warning_of_finished_program :
    let image : Bytes := [0x10, 0x00, 0x01, 0x02]
    let desk : Desk := ⟨⟨[("p.bin", image)]⟩, #[], #[]⟩
    let e := runProgram image.length 1 (.ofMemory ((Memory.zeros 16).put 0 image) {})
    Prepared desk "p.bin" { memorySize := some 16 } image ((Memory.zeros 16).put 0 image) {} ∧
      e.fault = none ∧ image.length ≤ (e.machine.get .ip).toNat ∧
      ∃ lines, (Command.run "p.bin" 1 false { memorySize := some 16 }).execute Desk.host desk =
        (0, desk.saying lines) ∧ warning 1 ∈ lines := by
  intro image desk e
  have prepared : Prepared desk "p.bin" { memorySize := some 16 } image
      ((Memory.zeros 16).put 0 image) {} := by
    refine ⟨⟨image, ?_, ?_⟩, by decide, _, _, rfl, rfl, rfl, rfl⟩ <;> decide +kernel
  have ends : (runProgram image.length 1 (.ofMemory ((Memory.zeros 16).put 0 image) {})).fault =
      none := by decide +kernel
  have ran := execute_run prepared 1 false
  simp only [ends, Desk.saying_saying] at ran
  refine ⟨prepared, ends, by decide +kernel, _, ran, ?_⟩
  exact (warning_mem_iff ..).mpr (by decide +kernel)

end WordMachine.Shell
