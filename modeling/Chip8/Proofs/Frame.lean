/-
# What instructions leave alone

Every part of a machine is changed by a few instructions only.  `ChangesAsListed` lists for
each part the words that may change it, by the patterns of their operations, and says how far
the change goes where that is known: a skip moves the program counter by two bytes, and waiting
moves it back.  What is not listed for a part leaves the part as it is.

The main result is `executeWord_changes_as_listed`, for any machine and any word.
-/
import Chip8.Proofs.ActiveScreen
import Chip8.Proofs.Devices
import Chip8.Proofs.Operands
import Chip8.Proofs.Patterns
import Chip8.Proofs.RunMode

namespace Chip8

/-- Whether a word belongs to one of some operations. -/
def Word.IsOf (word : Word) (operations : List Operation) : Prop :=
  ∃ operation ∈ operations, operation.Matches word

/-- Sums, differences and shifts report something in the flag register, logic operations only in
some dialects. -/
theorem Arithmetic.reports_cases {operation : Arithmetic} {dialect : Dialect} {a b : UInt8}
    (reports : (operation.apply dialect a b).2 ≠ none) :
    operation ∈ [.add, .subtract, .shiftRight, .subtractFrom, .shiftLeft] ∨
      (dialect.logicClearsVF = true ∧ operation ∈ [.or, .and, .xor]) := by
  cases operation <;> simp_all [apply]

namespace Machine

variable {machine : Machine} {operation : Operation} {word : Word}

/-- A word may write a register that it names. -/
inductive WritesNamed (machine : Machine) (word : Word) (k : Register) : Prop
  | value (named : k = word.x) (listed : word.IsOf [.loadByte, .addByte, .random, .readDelay])
  | result (named : k = word.x)
      (listed : ∃ operation : Arithmetic, (Operation.arithmetic operation).Matches word)
  /-- Only a key that is pressed is stored. -/
  | key (named : k = word.x) (listed : word.IsOf [.waitKey])
      (pressed : ∃ key, machine.keypad.isPressed key = true)
  /-- These name all registers up to `VX`. -/
  | transfer (named : k ≤ word.x) (listed : word.IsOf [.loadRegisters, .restoreFlags])

/-- A word may report something in the flag register. -/
inductive ReportsInFlag (machine : Machine) (word : Word) : Prop
  | always (listed : word.IsOf [.arithmetic .add, .arithmetic .subtract, .arithmetic .shiftRight,
      .arithmetic .subtractFrom, .arithmetic .shiftLeft, .draw])
  | cleared (clears : machine.dialect.logicClearsVF = true)
      (listed : word.IsOf [.arithmetic .or, .arithmetic .and, .arithmetic .xor])
  | overflow (reports : machine.dialect.indexOverflowSetsVF = true)
      (listed : word.IsOf [.addIndex])

/-- Whether a word is refused, and the next machine is the halted one. -/
def HaltsAt (machine : Machine) (word : Word) (next : Machine) : Prop :=
  ∃ fault info, machine.wordFault? word = some (fault, info) ∧ next = machine.halt fault info

/-- What the execution of a word may change: each part is as before, or the word is listed
for it. -/
structure ChangesAsListed (machine : Machine) (word : Word) (next : Machine) : Prop where
  dialect : next.dialect = machine.dialect
  keypad : next.keypad = machine.keypad
  memory : next.memory = machine.memory ∨ word.IsOf [.storeDecimal, .storeRegisters]
  stack : next.stack = machine.stack ∨ word.IsOf [.call, .ret]
  screen : next.screen = machine.screen ∨
    word.IsOf [.clear, .scrollDown, .scrollRight, .scrollLeft, .low, .high, .draw]
  resolution : next.resolution = machine.resolution ∨ word.IsOf [.low, .high]
  flags : next.flags = machine.flags ∨ word.IsOf [.saveFlags]
  delayTimer : next.delayTimer = machine.delayTimer ∨ word.IsOf [.setDelay]
  soundTimer : next.soundTimer = machine.soundTimer ∨ word.IsOf [.setSound]
  randomKey : next.randomKey = machine.randomKey ∨ word.IsOf [.random]
  index : next.index = machine.index ∨
    word.IsOf [.loadIndex, .addIndex, .smallDigit, .largeDigit] ∨
    (machine.dialect.transferAdvancesIndex = true ∧ word.IsOf [.storeRegisters, .loadRegisters])
  pc : next.pc = machine.pc ∨ word.IsOf [.jump, .call, .ret, .jumpOffset] ∨
    (next.pc = machine.pc + 2 ∧ word.IsOf [.skipIfByte, .skipUnlessByte, .skipIfEqual,
      .skipUnlessEqual, .skipIfKey, .skipUnlessKey]) ∨
    (next.pc = machine.pc - 2 ∧ word.IsOf [.waitKey] ∧
      ∀ key, machine.keypad.isPressed key = false)
  registers : ∀ k, next.v k = machine.v k ∨ machine.WritesNamed word k ∨
    (k = flagRegister ∧ machine.ReportsInFlag word)
  mode : next.mode = machine.mode ∨ (next.mode = .done ∧ word.IsOf [.exit]) ∨
    (next.mode = .waitingForKey ∧ word.IsOf [.waitKey]) ∨
    (next.mode = .running ∧ word.IsOf [.waitKey]) ∨ machine.HaltsAt word next
  fault : (next.fault = machine.fault ∧ next.faultInfo = machine.faultInfo) ∨
    machine.HaltsAt word next
  /-- A fault that is recorded is never taken back. -/
  recorded : machine.fault ≠ Fault.clear.code → next.fault ≠ Fault.clear.code

/-! ## Words that are refused -/

theorem changesAsListed_of_haltsAt {next : Machine} (halts : machine.HaltsAt word next) :
    machine.ChangesAsListed word next := by
  have recorded := halts
  obtain ⟨fault, info, refused, rfl⟩ := halts
  exact {
    dialect := rfl
    keypad := rfl
    memory := .inl rfl
    stack := .inl rfl
    screen := .inl rfl
    resolution := .inl rfl
    flags := .inl rfl
    delayTimer := .inl rfl
    soundTimer := .inl rfl
    randomKey := .inl rfl
    index := .inl rfl
    pc := .inl rfl
    registers := fun _ => .inl rfl
    mode := .inr (.inr (.inr (.inr recorded)))
    fault := .inr recorded
    recorded := fun _ same => ne_clear_of_wordFault? refused (Fault.code_inj.mp same) }

/-! ## Words that are carried out -/

theorem devicesAfter_frame (machine : Machine) (operation : Operation) (fields : Fields) :
    let after := machine.devicesAfter (operation.instruction fields)
    after.dialect = machine.dialect ∧ after.keypad = machine.keypad ∧
    (after.memory = machine.memory ∨ operation ∈ [.storeDecimal, .storeRegisters]) ∧
    (after.flags = machine.flags ∨ operation ∈ [.saveFlags]) ∧
    (after.delayTimer = machine.delayTimer ∨ operation ∈ [.setDelay]) ∧
    (after.soundTimer = machine.soundTimer ∨ operation ∈ [.setSound]) ∧
    (after.randomKey = machine.randomKey ∨ operation ∈ [.random]) := by
  cases operation <;> simp [devicesAfter, devices, Operation.instruction]

theorem displayAfter_frame (machine : Machine) (operation : Operation) (fields : Fields) :
    let after := machine.displayAfter (operation.instruction fields)
    (after.1 = machine.resolution ∨ operation ∈ [.low, .high]) ∧
    (after.2 = machine.screen ∨
      operation ∈ [.clear, .scrollDown, .scrollRight, .scrollLeft, .low, .high, .draw]) := by
  cases operation <;> simp [displayAfter, display, Operation.instruction]

theorem stackAfter_frame (machine : Machine) (operation : Operation) (fields : Fields) :
    machine.stackAfter (operation.instruction fields) = machine.stack ∨
      operation ∈ [.call, .ret] := by
  cases operation <;> simp [stackAfter, Operation.instruction]

theorem operandsAfter_index_frame (machine : Machine) (operation : Operation) (fields : Fields) :
    (machine.operandsAfter (operation.instruction fields)).index = machine.index ∨
      operation ∈ [.loadIndex, .addIndex, .smallDigit, .largeDigit] ∨
      (machine.dialect.transferAdvancesIndex = true ∧
        operation ∈ [.storeRegisters, .loadRegisters]) := by
  cases operation with
  | storeRegisters | loadRegisters =>
    cases advances : machine.dialect.transferAdvancesIndex <;>
      simp [operandsAfter, indexAfterTransfer, Operation.instruction, advances]
  | arithmetic operation =>
    refine .inl ?_
    show (machine.combine operation _ _).index = machine.index
    unfold combine
    split <;> rfl
  | waitKey =>
    refine .inl ?_
    rw [Operation.instruction, operandsAfter.eq_def]
    dsimp only
    cases machine.keypad.lowest? <;> rfl
  | _ => simp [operandsAfter, operands, write, writeFlag, Operation.instruction]

/-- Most operations go on behind themselves, skips perhaps two bytes further. -/
theorem target_frame (machine : Machine) (operation : Operation) (fields : Fields) :
    let pc := UInt16.ofInt (machine.target (operation.instruction fields))
    pc = machine.pc ∨ operation ∈ [.jump, .call, .ret, .jumpOffset] ∨
    (pc = machine.pc + 2 ∧ operation ∈ [.skipIfByte, .skipUnlessByte, .skipIfEqual,
      .skipUnlessEqual, .skipIfKey, .skipUnlessKey]) ∨
    (pc = machine.pc - 2 ∧ operation ∈ [.waitKey] ∧
      ∀ key, machine.keypad.isPressed key = false) := by
  have forward : UInt16.ofInt (machine.pc.toNat + 2) = machine.pc + 2 := by
    rw [UInt16.ofInt_add, ofInt_toNat]
    rfl
  have back : UInt16.ofInt (machine.pc.toNat - 2) = machine.pc - 2 := by
    rw [Int.sub_eq_add_neg, UInt16.ofInt_add, ofInt_toNat, UInt16.sub_eq_add_neg]
    rfl
  cases operation with
  | jump | call | ret | jumpOffset => simp
  | waitKey =>
    rw [Operation.instruction, target.eq_def]
    dsimp only
    cases found : machine.keypad.lowest? with
    | none => simp [back, (Keypad.lowest?_eq_none_iff _).mp found]
    | some key => simp [ofInt_toNat]
  | skipIfByte | skipUnlessByte | skipIfEqual | skipUnlessEqual | skipIfKey | skipUnlessKey =>
    rw [Operation.instruction, target.eq_def]
    dsimp only
    split <;> simp [forward, ofInt_toNat]
  | _ => simp [target, skips, ofInt_toNat, Operation.instruction]

theorem modeAfter_frame (machine : Machine) (operation : Operation) (fields : Fields) :
    let mode := machine.modeAfter (operation.instruction fields)
    mode = machine.mode ∨ (mode = .done ∧ operation ∈ [.exit]) ∨
    (mode = .waitingForKey ∧ operation ∈ [.waitKey]) ∨
    (mode = .running ∧ operation ∈ [.waitKey]) := by
  cases operation with
  | waitKey => cases pressed : machine.keypad.lowest?.isNone <;>
      simp [modeAfter, Operation.instruction, pressed]
  | _ => simp [modeAfter, Operation.instruction]

/-! ### Registers -/

theorem v_write_frame (machine : Machine) (x k : Register) (value : UInt8) :
    (machine.write x value).v k = machine.v k ∨ k = x := by
  rw [v_write]
  split
  case isTrue same => exact .inr same.symm
  case isFalse => exact .inl rfl

theorem v_combine_frame (machine : Machine) (operation : Arithmetic) (x y k : Register) :
    (machine.combine operation x y).v k = machine.v k ∨ k = x ∨
      (k = flagRegister ∧
        (operation ∈ [.add, .subtract, .shiftRight, .subtractFrom, .shiftLeft] ∨
          (machine.dialect.logicClearsVF = true ∧ operation ∈ [.or, .and, .xor]))) := by
  unfold combine
  split
  case h_1 value _ => exact (machine.v_write_frame x k value).imp_right .inl
  case h_2 value flag applied =>
    rcases (machine.write x value).v_write_frame flagRegister k flag with kept | reported
    · rw [kept]
      exact (machine.v_write_frame x k value).imp_right .inl
    · have reports : (operation.apply machine.dialect (machine.v x) (machine.v y)).2 ≠ none := by
        simp [applied]
      exact .inr (.inr ⟨reported, Arithmetic.reports_cases reports⟩)

theorem v_addToIndex_frame (machine : Machine) (x k : Register) :
    (machine.addToIndex x).v k = machine.v k ∨
      (k = flagRegister ∧ machine.dialect.indexOverflowSetsVF = true) := by
  unfold addToIndex
  dsimp only
  split
  case isTrue reports => exact (v_write_frame _ _ k _).imp_right (⟨·, reports⟩)
  case isFalse => exact .inl rfl

theorem v_ofFn_frame (machine : Machine) (x k : Register) (value : Register → UInt8) :
    { machine with
      registers := Vector.ofFn fun k => if k ≤ x then value k else machine.v k }.v k =
        machine.v k ∨ k ≤ x := by
  rw [v, Fin.getElem_fin, Vector.getElem_ofFn]
  split
  case isTrue named => exact .inr named
  case isFalse => exact .inl rfl

/-- An instruction that is carried out writes registers that its word may write.  The flag
register is written in either way, since it can be named like the others. -/
theorem v_operandsAfter_frame (matched : operation.Matches word) (k : Register) :
    let after := machine.operandsAfter (operation.instruction word.fields)
    { machine with registers := after.registers }.v k = machine.v k ∨
      machine.WritesNamed word k ∨ (k = flagRegister ∧ machine.ReportsInFlag word) := by
  have listed {operations : List Operation} (member : operation ∈ operations) :
      word.IsOf operations := ⟨operation, member, matched⟩
  cases operation with
  | loadByte | addByte | random | readDelay =>
    rcases machine.v_write_frame word.x k _ with kept | named
    · exact .inl kept
    · exact .inr (.inl (.value named (listed (by simp))))
  | arithmetic operation =>
    rcases machine.v_combine_frame operation word.x word.y k with kept | named |
      ⟨flag, reports | ⟨cleared, reports⟩⟩
    · exact .inl kept
    · exact .inr (.inl (.result named ⟨operation, matched⟩))
    · exact .inr (.inr ⟨flag, .always (listed (by simpa using reports))⟩)
    · exact .inr (.inr ⟨flag, .cleared cleared (listed (by simpa using reports))⟩)
  | draw =>
    rcases machine.v_write_frame flagRegister k _ with kept | flag
    · exact .inl kept
    · exact .inr (.inr ⟨flag, .always (listed (by simp))⟩)
  | waitKey =>
    rw [Operation.instruction, operandsAfter.eq_def]
    dsimp only
    cases found : machine.keypad.lowest? with
    | none => exact .inl rfl
    | some key =>
      rcases machine.v_write_frame word.x k _ with kept | named
      · exact .inl kept
      · exact .inr (.inl (.key named (listed (by simp)) ⟨key, List.find?_some found⟩))
  | addIndex =>
    rcases machine.v_addToIndex_frame word.x k with kept | ⟨flag, reports⟩
    · exact .inl kept
    · exact .inr (.inr ⟨flag, .overflow reports (listed (by simp))⟩)
  | loadRegisters | restoreFlags =>
    rcases machine.v_ofFn_frame word.x k _ with kept | named
    · exact .inl kept
    · exact .inr (.inl (.transfer named (listed (by simp))))
  | _ => exact .inl rfl

theorem changesAsListed_of_accepted (matched : operation.Matches word)
    (accepted : machine.faultOf? (operation.instruction word.fields) = none) :
    machine.ChangesAsListed word (machine.execute (operation.instruction word.fields)) := by
  have listed {operations : List Operation} (member : operation ∈ operations) :
      word.IsOf operations := ⟨operation, member, matched⟩
  obtain ⟨dialect, keypad, memory, flags, delayTimer, soundTimer, randomKey⟩ :=
    machine.devicesAfter_frame operation word.fields
  obtain ⟨resolution, screen⟩ := machine.displayAfter_frame operation word.fields
  have stack := machine.stackAfter_frame operation word.fields
  have index := machine.operandsAfter_index_frame operation word.fields
  have pc := machine.target_frame operation word.fields
  have mode := machine.modeAfter_frame operation word.fields
  have registers := @v_operandsAfter_frame machine _ _ matched
  -- So far these are facts about the rules; each group of parts is what its rule leaves of it.
  rw [← devices_execute accepted] at dialect keypad memory flags delayTimer soundTimer randomKey
  rw [← display_execute accepted] at resolution screen
  rw [← stack_execute accepted] at stack
  rw [← operands_execute accepted] at index registers
  rw [← pc_execute accepted] at pc
  rw [← mode_execute accepted] at mode
  have fault := fault_execute accepted
  exact {
    dialect := dialect
    keypad := keypad
    memory := memory.imp_right listed
    stack := stack.imp_right listed
    screen := screen.imp_right listed
    resolution := resolution.imp_right listed
    flags := flags.imp_right listed
    delayTimer := delayTimer.imp_right listed
    soundTimer := soundTimer.imp_right listed
    randomKey := randomKey.imp_right listed
    index := index.imp_right (Or.imp listed (And.imp_right listed))
    pc := pc.imp_right (Or.imp listed (Or.imp (And.imp_right listed)
      (And.imp_right (And.imp_left listed))))
    registers := registers
    mode := mode.imp_right (Or.imp (And.imp_right listed) (Or.imp (And.imp_right listed)
      fun waits => .inl (waits.imp_right listed)))
    fault := .inl ⟨fault, faultInfo_execute accepted⟩
    recorded := fun before => by rwa [fault] }

/-- The execution of any word on any machine changes only what is listed: every part of the
machine has its own instructions, the flag register is written without being named only by
those that report in it, and a fault is recorded only by a machine that halts. -/
theorem executeWord_changes_as_listed (machine : Machine) (word : Word) :
    machine.ChangesAsListed word (machine.executeWord word) := by
  cases found : machine.wordFault? word with
  | some reason =>
    exact changesAsListed_of_haltsAt
      ⟨reason.1, reason.2, found, executeWord_of_wordFault?_eq_some found⟩
  | none =>
    obtain ⟨instruction, decoded, accepted, executed⟩ := exists_of_wordFault?_eq_none found
    have matched := Operation.matches_of_decode decoded
    rw [← Instruction.instruction_fields_of_decode decoded] at accepted executed
    rw [executed]
    exact changesAsListed_of_accepted matched accepted

end Machine

end Chip8
