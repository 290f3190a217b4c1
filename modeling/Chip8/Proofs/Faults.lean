/-
# Faults

Which words a machine refuses, said by their digits as `WordFault`, and when its next
step halts, as `StepFault`.  The machine itself decides by the instruction that a word
stands for; `hasDigits_of_decode` leads from the instruction back to the digits.

There are two main results.  A step halts exactly for the faults that are listed here,
as `step_halts_iff_stepFault` says, and `faults_change_nothing_else` says that whatever
an instruction had reckoned before it was refused is thrown away.
-/
import Chip8.Proofs.Encoding
import Chip8.Proofs.Step

namespace Chip8

/-- What the digits of a word say when it stands for an instruction that can
fail. -/
def Word.HasDigits (word : Word) : Instruction → Prop
  | .call _ => word.family.val = 0x2
  | .ret => word = 0x00EE
  | .draw _ _ rows => word.family.val = 0xD ∧ word.n = rows
  | .storeDecimal _ => word.family.val = 0xF ∧ word.nn = 0x33
  | .storeRegisters x => word.family.val = 0xF ∧ word.nn = 0x55 ∧ word.x = x
  | .loadRegisters x => word.family.val = 0xF ∧ word.nn = 0x65 ∧ word.x = x
  | .saveFlags x => word.family.val = 0xF ∧ word.nn = 0x75 ∧ word.x = x
  | .restoreFlags x => word.family.val = 0xF ∧ word.nn = 0x85 ∧ word.x = x
  | _ => True

theorem hasDigits_of_decode {word : Word} {instruction : Instruction}
    (decoded : Instruction.decode word = some instruction) : word.HasDigits instruction := by
  have number := Instruction.number_of_decode decoded
  have ends (byte : UInt8) {x : Register}
      (same : Instruction.withByte 0xF x byte.toNat = word.toNat) :
      word.family.val = 0xF ∧ word.nn = byte ∧ word.x = x := by
    obtain ⟨family, digit, low⟩ := Instruction.digits_of_withByte same
    exact ⟨family, low, digit⟩
  cases instruction with
  | call target => exact Instruction.family_of_withAddress number
  | ret => exact UInt16.toNat_inj.mp number.symm
  | draw x y rows => exact Instruction.digits_of_withRegisters number
  | storeDecimal x =>
    obtain ⟨family, low, -⟩ := ends 0x33 number
    exact ⟨family, low⟩
  | storeRegisters x => exact ends 0x55 number
  | loadRegisters x => exact ends 0x65 number
  | saveFlags x => exact ends 0x75 number
  | restoreFlags x => exact ends 0x85 number
  | _ => trivial

namespace Machine

/-- The fault of executing a word that stands at `address`, and what the fault is
about.  The program counter of the machine already points behind the word. -/
inductive WordFault (machine : Machine) (address : Int) (word : Word) : Fault → Int → Prop
  /-- The word is no instruction. -/
  | unknown (unassigned : Instruction.decode word = none) :
      WordFault machine address word .invalidOpcode word.toNat
  /-- `2NNN` with all slots of the stack in use. -/
  | call (family : word.family.val = 0x2) (full : machine.stack.pointer.toNat = 16) :
      WordFault machine address word .stackOverflow address
  /-- `00EE` with no slot of the stack in use. -/
  | ret (digits : word = 0x00EE) (unused : machine.stack.pointer.toNat = 0) :
      WordFault machine address word .stackUnderflow address
  /-- `DXYN` with a sprite of `N` bytes, or of 32 when `N` is zero. -/
  | draw (family : word.family.val = 0xD)
      (past : 4096 < machine.index.toNat + if word.n.val = 0 then 32 else word.n.val) :
      WordFault machine address word .addressOutOfRange (max machine.index.toNat 4096)
  /-- `FX33` with three digits. -/
  | decimal (family : word.family.val = 0xF) (low : word.nn = 0x33)
      (past : 4096 < machine.index.toNat + 3) :
      WordFault machine address word .addressOutOfRange (max machine.index.toNat 4096)
  /-- `FX55` and `FX65` with `X + 1` registers. -/
  | transfer (family : word.family.val = 0xF) (low : word.nn = 0x55 ∨ word.nn = 0x65)
      (past : 4096 < machine.index.toNat + (word.x.val + 1)) :
      WordFault machine address word .addressOutOfRange (max machine.index.toNat 4096)
  /-- `FX75` and `FX85` with more than the eight flag registers. -/
  | flags (family : word.family.val = 0xF) (low : word.nn = 0x75 ∨ word.nn = 0x85)
      (past : 8 ≤ word.x.val) :
      WordFault machine address word .invalidRegister word.x.val

/-- The fault of the next step, and what it is about: the word at the program counter
does not lie in memory, or it cannot be carried out. -/
inductive StepFault (machine : Machine) : Fault → Int → Prop
  | fetch (outside : 4096 < machine.pc.toNat + 2) :
      StepFault machine .addressOutOfRange (max machine.pc.toNat 4096)
  | word {fault : Fault} {info : Int} (inside : machine.pc.toNat + 2 ≤ 4096)
      (refused : machine.WordFault machine.pc.toNat machine.wordAtPc fault info) :
      StepFault machine fault info

theorem wordFault_of_wordFault? {machine : Machine} {word : Word} {fault : Fault} {info : Int}
    (bounded : machine.stack.pointer.toNat ≤ 16)
    (refused : machine.wordFault? word = some (fault, info)) :
    machine.WordFault machine.currentAddress.toNat word fault info := by
  rcases wordFault?_cases refused with ⟨unassigned, rfl, rfl⟩ | ⟨instruction, decoded, refused⟩
  · exact .unknown unassigned
  · have digits := hasDigits_of_decode decoded
    cases instruction with
    | call target =>
      obtain ⟨full, rfl, rfl⟩ := faultOf?_call_eq_some_iff.mp refused
      exact .call digits ((CallStack.isFull_eq_true_iff bounded).mp full)
    | ret =>
      obtain ⟨unused, rfl, rfl⟩ := faultOf?_ret_eq_some_iff.mp refused
      exact .ret digits (CallStack.isEmpty_eq_true_iff.mp unused)
    | draw x y rows =>
      obtain ⟨past, rfl, rfl⟩ := rangeFault?_eq_some_iff.mp refused
      obtain ⟨family, rfl⟩ := digits
      exact .draw family past
    | storeDecimal x =>
      obtain ⟨past, rfl, rfl⟩ := rangeFault?_eq_some_iff.mp refused
      exact .decimal digits.1 digits.2 past
    | storeRegisters x =>
      obtain ⟨past, rfl, rfl⟩ := rangeFault?_eq_some_iff.mp refused
      obtain ⟨family, low, rfl⟩ := digits
      exact .transfer family (.inl low) past
    | loadRegisters x =>
      obtain ⟨past, rfl, rfl⟩ := rangeFault?_eq_some_iff.mp refused
      obtain ⟨family, low, rfl⟩ := digits
      exact .transfer family (.inr low) past
    | saveFlags x =>
      obtain ⟨past, rfl, rfl⟩ := flagsFault?_eq_some_iff.mp refused
      obtain ⟨family, low, rfl⟩ := digits
      exact .flags family (.inl low) past
    | restoreFlags x =>
      obtain ⟨past, rfl, rfl⟩ := flagsFault?_eq_some_iff.mp refused
      obtain ⟨family, low, rfl⟩ := digits
      exact .flags family (.inr low) past
    | _ => cases refused

theorem wordFault?_of_wordFault {machine : Machine} {word : Word} {fault : Fault} {info : Int}
    (bounded : machine.stack.pointer.toNat ≤ 16)
    (refused : machine.WordFault machine.currentAddress.toNat word fault info) :
    machine.wordFault? word = some (fault, info) := by
  rw [wordFault?]
  cases refused with
  | unknown unassigned => rw [unassigned]
  | call family full =>
    rw [Instruction.decode_call family]
    exact faultOf?_call_eq_some_iff.mpr ⟨(CallStack.isFull_eq_true_iff bounded).mpr full, rfl, rfl⟩
  | ret digits unused =>
    have decoded : Instruction.decode word = some .ret := by
      rw [digits]
      rfl
    rw [decoded]
    exact faultOf?_ret_eq_some_iff.mpr ⟨CallStack.isEmpty_eq_true_iff.mpr unused, rfl, rfl⟩
  | draw family past =>
    rw [Instruction.decode_draw family]
    exact rangeFault?_eq_some_iff.mpr ⟨past, rfl, rfl⟩
  | decimal family low past =>
    rw [Instruction.decode_miscellaneous family, low]
    exact rangeFault?_eq_some_iff.mpr ⟨past, rfl, rfl⟩
  | transfer family low past =>
    rw [Instruction.decode_miscellaneous family]
    rcases low with low | low <;> rw [low] <;>
      exact rangeFault?_eq_some_iff.mpr ⟨past, rfl, rfl⟩
  | flags family low past =>
    rw [Instruction.decode_miscellaneous family]
    rcases low with low | low <;> rw [low] <;>
      exact flagsFault?_eq_some_iff.mpr ⟨past, rfl, rfl⟩

/-- Which words are refused depends on the call stack and the index register alone. -/
theorem WordFault.of_eq {machine other : Machine} {address : Int} {word : Word} {fault : Fault}
    {info : Int} (refused : machine.WordFault address word fault info)
    (stack : machine.stack = other.stack) (index : machine.index = other.index) :
    other.WordFault address word fault info := by
  cases refused with
  | unknown unassigned => exact .unknown unassigned
  | call family full => exact .call family (by rw [← stack]; exact full)
  | ret digits unused => exact .ret digits (by rw [← stack]; exact unused)
  | draw family past =>
    rw [index] at past ⊢
    exact .draw family past
  | decimal family low past =>
    rw [index] at past ⊢
    exact .decimal family low past
  | transfer family low past =>
    rw [index] at past ⊢
    exact .transfer family low past
  | flags family low past => exact .flags family low past

/-- The word at the program counter is refused by a step exactly when it is refused by
the machine behind it. -/
theorem wordFault?_fetched_eq_some_iff {machine : Machine} {fault : Fault} {info : Int}
    (bounded : machine.stack.pointer.toNat ≤ 16) :
    machine.fetched.wordFault? machine.wordAtPc = some (fault, info) ↔
      machine.WordFault machine.pc.toNat machine.wordAtPc fault info := by
  constructor
  · intro refused
    have found : machine.fetched.WordFault _ _ _ _ := wordFault_of_wordFault? bounded refused
    rw [currentAddress_fetched] at found
    exact found.of_eq rfl rfl
  · intro refused
    refine wordFault?_of_wordFault bounded ?_
    rw [currentAddress_fetched]
    exact refused.of_eq rfl rfl

theorem step_of_stepFault {machine : Machine} {fault : Fault} {info : Int}
    (live : machine.mode.isLive = true) (bounded : machine.stack.pointer.toNat ≤ 16)
    (refused : machine.StepFault fault info) :
    machine.step.mode = .halted ∧ machine.step.fault = fault.code ∧
      machine.step.faultInfo = info := by
  cases refused with
  | fetch outside =>
    rw [step_of_outside live outside]
    exact ⟨rfl, rfl, rfl⟩
  | word inside refused =>
    have found := (wordFault?_fetched_eq_some_iff bounded).mpr refused
    rw [step_of_inside live inside, executeWord_of_wordFault?_eq_some found]
    exact ⟨rfl, rfl, rfl⟩

/-- A step of a live machine halts exactly when the word at the program counter does
not lie in memory or is refused, and then with the fault that says so.  Any other step
halts nothing and leaves the recorded fault as it is. -/
theorem step_halts_iff_stepFault {machine : Machine}
    (live : machine.mode = .running ∨ machine.mode = .waitingForKey)
    (bounded : machine.stack.pointer.toNat ≤ 16) :
    (machine.step.mode = .halted ↔ ∃ fault info, machine.StepFault fault info) ∧
      (∀ fault info, machine.StepFault fault info →
        machine.step.fault = fault.code ∧ machine.step.faultInfo = info) ∧
      (machine.step.mode ≠ .halted →
        machine.step.fault = machine.fault ∧ machine.step.faultInfo = machine.faultInfo) := by
  have isLive := Mode.isLive_eq_true_iff.mpr live
  have running : machine.fetched.mode ≠ .halted := Mode.ne_halted_of_isLive isLive
  refine ⟨⟨?_, ?_⟩, ?_, ?_⟩
  · intro halted
    rcases step_cases isLive with ⟨outside, -⟩ | ⟨inside, fault, info, refused, -⟩ |
      ⟨-, instruction, -, accepted, stepped⟩
    · exact ⟨_, _, .fetch outside⟩
    · exact ⟨fault, info, .word inside ((wordFault?_fetched_eq_some_iff bounded).mp refused)⟩
    · rw [stepped] at halted
      exact absurd halted (mode_ne_halted_of_execute accepted running)
  · rintro ⟨fault, info, refused⟩
    exact (step_of_stepFault isLive bounded refused).1
  · intro fault info refused
    exact (step_of_stepFault isLive bounded refused).2
  · intro halted
    rcases step_cases isLive with ⟨-, stepped⟩ | ⟨-, fault, info, -, stepped⟩ |
      ⟨-, instruction, -, accepted, stepped⟩
    · rw [stepped] at halted
      exact absurd rfl halted
    · rw [stepped] at halted
      exact absurd rfl halted
    · rw [stepped, fault_execute accepted, faultInfo_execute accepted]
      exact ⟨rfl, rfl⟩

/-- `FX55` with a range that crosses the end of the memory, itself the last word in
memory. -/
theorem step_halts_at_last_word :
    let machine : Machine := { powerOn ⟨0, 0⟩ .standard with
      memory := Memory.zero.write 0xFFE [0xF3, 0x55]
      pc := 0xFFE
      index := 0xFFD }
    (machine.mode = .running ∨ machine.mode = .waitingForKey) ∧
      machine.stack.pointer.toNat ≤ 16 ∧ machine.step.mode = .halted ∧
      machine.step.fault = Fault.addressOutOfRange.code ∧ machine.step.faultInfo = 0x1000 := by
  intro machine
  have live : machine.mode = .running ∨ machine.mode = .waitingForKey := .inl rfl
  have bounded : machine.stack.pointer.toNat ≤ 16 := by decide
  have word : machine.wordAtPc = 0xF355 := Memory.zero.wordAt_write (by decide) 0xF3 0x55
  have refused : machine.StepFault .addressOutOfRange 0x1000 := by
    refine .word (by decide) ?_
    rw [word]
    exact .transfer rfl (.inl rfl) (by decide)
  obtain ⟨halts, exactly, -⟩ := step_halts_iff_stepFault live bounded
  exact ⟨live, bounded, halts.mpr ⟨_, _, refused⟩, exactly _ _ refused⟩

/-- A word that is refused halts any machine, whatever its mode, and changes nothing
else; a word that is not refused records no fault.  A step that halts a machine has
changed nothing else either, but for the program counter, which has moved behind the
word if there was one. -/
theorem faults_change_nothing_else {machine : Machine}
    (bounded : machine.stack.pointer.toNat ≤ 16) (word : Word) :
    (∀ fault info, machine.WordFault machine.currentAddress.toNat word fault info →
      machine.executeWord word =
        { machine with mode := .halted, fault := fault.code, faultInfo := info }) ∧
    ((¬ ∃ fault info, machine.WordFault machine.currentAddress.toNat word fault info) →
      (machine.executeWord word).fault = machine.fault ∧
      (machine.executeWord word).faultInfo = machine.faultInfo ∧
      (machine.mode ≠ .halted → (machine.executeWord word).mode ≠ .halted)) ∧
    (machine.mode ≠ .halted → machine.step.mode = .halted → ∃ fault : Fault, ∃ info,
      (4096 < machine.pc.toNat + 2 ∧
        machine.step =
          { machine with mode := .halted, fault := fault.code, faultInfo := info }) ∨
      (machine.pc.toNat + 2 ≤ 4096 ∧ (machine.pc + 2).toNat = machine.pc.toNat + 2 ∧
        machine.step =
          { machine with
            pc := machine.pc + 2, mode := .halted, fault := fault.code, faultInfo := info })) := by
  refine ⟨?_, ?_, ?_⟩
  · intro fault info refused
    exact executeWord_of_wordFault?_eq_some (wordFault?_of_wordFault bounded refused)
  · intro accepted
    cases found : machine.wordFault? word with
    | some reason =>
      exact absurd ⟨reason.1, reason.2, wordFault_of_wordFault? bounded found⟩ accepted
    | none =>
      obtain ⟨instruction, -, carried, executed⟩ := exists_of_wordFault?_eq_none found
      rw [executed]
      exact ⟨fault_execute carried, faultInfo_execute carried, mode_ne_halted_of_execute carried⟩
  · intro running halted
    cases live : machine.mode.isLive with
    | false =>
      rw [step_of_not_live live] at halted
      exact absurd halted running
    | true =>
      rcases step_cases live with ⟨outside, stepped⟩ | ⟨inside, fault, info, -, stepped⟩ |
        ⟨-, instruction, -, accepted, stepped⟩
      · exact ⟨_, _, .inl ⟨outside, stepped⟩⟩
      · exact ⟨fault, info, .inr ⟨inside, toNat_add_two (by omega), stepped⟩⟩
      · rw [stepped] at halted
        exact absurd halted (mode_ne_halted_of_execute accepted running)

/-- A transfer that crosses the end of the memory, on a machine that is done. -/
theorem executeWord_halts_done_machine :
    let machine : Machine := { powerOn ⟨0, 0⟩ .standard with mode := .done, index := 0xFFD }
    machine.stack.pointer.toNat ≤ 16 ∧
      machine.executeWord 0xF355 =
        { machine with
          mode := .halted, fault := Fault.addressOutOfRange.code, faultInfo := 0x1000 } := by
  intro machine
  have bounded : machine.stack.pointer.toNat ≤ 16 := by decide
  obtain ⟨halts, -, -⟩ := faults_change_nothing_else bounded 0xF355
  exact ⟨bounded, halts _ _ (.transfer rfl (.inl rfl) (by decide))⟩

end Machine

end Chip8
