/-
# Diagnoses of recorded faults

A fault is reported when a host asks, from what the machine holds by then: an invalid
opcode, for one, is looked for two bytes before the program counter.  So a recorded
fault has to go on describing the machine that carries it.  `Diagnosis` is this
description.  It holds right after the step that halts, and nothing that a session does
to a halted machine touches the memory, the call stack, the index register or the
program counter.

The main result is `recorded_fault_names_faulting_word`.
-/
import Chip8.Proofs.Faults
import Chip8.Proofs.Bounds
import Chip8.Proofs.RunMode
import Chip8.Proofs.Session.Invariant

namespace Chip8

namespace Machine

variable {machine other : Machine} {fault : Fault} {info : Int}

/-- The word that stands before the program counter. -/
def wordBehind (machine : Machine) : Word := machine.memory.wordAt (machine.pc.toNat - 2)

/-- A fault and what it is about describe the machine: either the word at the program
counter does not lie in memory, or the word before it is one that is refused. -/
inductive Diagnosis (machine : Machine) : Fault → Int → Prop
  | fetch (outside : 4096 < machine.pc.toNat + 2) :
      Diagnosis machine .addressOutOfRange (max machine.pc.toNat 4096)
  | word {fault : Fault} {info : Int}
      (low : 2 ≤ machine.pc.toNat) (high : machine.pc.toNat ≤ 4096)
      (refused : machine.WordFault (machine.pc.toNat - 2 : Nat) machine.wordBehind fault info) :
      Diagnosis machine fault info

/-- The word reads or writes memory from the index register on, and beyond the end. -/
def ReachesPastMemory (machine : Machine) (word : Word) : Prop :=
  (word.family.val = 0xD ∧
    4096 < machine.index.toNat + if word.n.val = 0 then 32 else word.n.val) ∨
  (word.family.val = 0xF ∧ word.nn = 0x33 ∧ 4096 < machine.index.toNat + 3) ∨
  (word.family.val = 0xF ∧ (word.nn = 0x55 ∨ word.nn = 0x65) ∧
    4096 < machine.index.toNat + (word.x.val + 1))

namespace Diagnosis

theorem of_eq (diagnosis : machine.Diagnosis fault info) (memory : machine.memory = other.memory)
    (pc : machine.pc = other.pc) (stack : machine.stack = other.stack)
    (index : machine.index = other.index) : other.Diagnosis fault info := by
  cases diagnosis with
  | fetch outside =>
    rw [pc] at outside ⊢
    exact .fetch outside
  | word low high refused =>
    have kept := refused.of_eq stack index
    rw [wordBehind, memory, pc] at kept
    rw [pc] at low high
    exact .word low high kept

/-! ### What each fault says -/

theorem invalidOpcode (diagnosis : machine.Diagnosis .invalidOpcode info) :
    2 ≤ machine.pc.toNat ∧ machine.pc.toNat ≤ 4096 ∧ info = machine.wordBehind.toNat ∧
      Instruction.decode machine.wordBehind = none := by
  cases diagnosis with
  | word low high refused =>
    cases refused with
    | unknown unassigned => exact ⟨low, high, rfl, unassigned⟩

theorem stackOverflow (diagnosis : machine.Diagnosis .stackOverflow info) :
    2 ≤ machine.pc.toNat ∧ machine.pc.toNat ≤ 4096 ∧ info = (machine.pc.toNat - 2 : Nat) ∧
      machine.wordBehind.family.val = 0x2 ∧ machine.stack.pointer.toNat = 16 := by
  cases diagnosis with
  | word low high refused =>
    cases refused with
    | call family full => exact ⟨low, high, rfl, family, full⟩

theorem stackUnderflow (diagnosis : machine.Diagnosis .stackUnderflow info) :
    2 ≤ machine.pc.toNat ∧ machine.pc.toNat ≤ 4096 ∧ info = (machine.pc.toNat - 2 : Nat) ∧
      machine.wordBehind = 0x00EE ∧ machine.stack.pointer.toNat = 0 := by
  cases diagnosis with
  | word low high refused =>
    cases refused with
    | ret digits unused => exact ⟨low, high, rfl, digits, unused⟩

theorem invalidRegister (diagnosis : machine.Diagnosis .invalidRegister info) :
    2 ≤ machine.pc.toNat ∧ machine.pc.toNat ≤ 4096 ∧ machine.wordBehind.family.val = 0xF ∧
      (machine.wordBehind.nn = 0x75 ∨ machine.wordBehind.nn = 0x85) ∧
      info = machine.wordBehind.x.val ∧ 8 ≤ info := by
  cases diagnosis with
  | word low high refused =>
    cases refused with
    | flags family digits past => exact ⟨low, high, family, digits, rfl, by omega⟩

theorem addressOutOfRange (diagnosis : machine.Diagnosis .addressOutOfRange info) :
    (4096 < machine.pc.toNat + 2 ∧ info = max (machine.pc.toNat : Int) 4096) ∨
    (2 ≤ machine.pc.toNat ∧ machine.pc.toNat ≤ 4096 ∧
      machine.ReachesPastMemory machine.wordBehind ∧
      info = max (machine.index.toNat : Int) 4096) := by
  cases diagnosis with
  | fetch outside => exact .inl ⟨outside, rfl⟩
  | word low high refused =>
    right
    refine ⟨low, high, ?_, ?_⟩
    · cases refused with
      | draw family past => exact .inl ⟨family, past⟩
      | decimal family digits past => exact .inr (.inl ⟨family, digits, past⟩)
      | transfer family digits past => exact .inr (.inr ⟨family, digits, past⟩)
    · cases refused <;> rfl

end Diagnosis

/-! ### Halted machines keep their diagnosis -/

/-- A recorded fault describes the machine that carries it. -/
def ExplainsFault (machine : Machine) : Prop :=
  machine.fault ≠ Fault.clear.code →
    ∃ fault : Fault, fault.code = machine.fault ∧ machine.Diagnosis fault machine.faultInfo

/-- A word that is refused stands behind the program counter afterwards. -/
theorem diagnosis_halt_fetched (bounded : machine.stack.pointer.toNat ≤ 16)
    (inside : machine.pc.toNat + 2 ≤ 4096)
    (refused : machine.fetched.wordFault? machine.wordAtPc = some (fault, info)) :
    (machine.fetched.halt fault info).Diagnosis fault info := by
  have moved : (machine.fetched.halt fault info).pc.toNat = machine.pc.toNat + 2 :=
    toNat_add_two (by omega)
  have back : (machine.fetched.halt fault info).pc.toNat - 2 = machine.pc.toNat := by omega
  have found : (machine.fetched.halt fault info).WordFault machine.pc.toNat machine.wordAtPc
      fault info :=
    ((wordFault?_fetched_eq_some_iff bounded).mp refused).of_eq rfl rfl
  refine .word (by omega) (by omega) ?_
  rw [wordBehind, back]
  exact found

theorem ExplainsFault.step (reachable : machine.IsReachable) (explains : machine.ExplainsFault) :
    machine.step.ExplainsFault := by
  refine machine.step_elim ?stopped ?outside ?refused ?executed
  case stopped => exact fun _ => explains
  case outside => exact fun _ past _ => ⟨.addressOutOfRange, rfl, .fetch past⟩
  case refused =>
    intro _ inside fault info refused _
    have bounded := (isInvariant_isBounded.of_isReachable reachable).pointer_le
    exact ⟨fault, rfl, diagnosis_halt_fetched bounded inside refused⟩
  case executed =>
    intro live _ instruction _ accepted recorded
    -- A live machine carries no fault, and the instruction has recorded none.
    rw [fault_execute accepted] at recorded
    have halted : machine.mode = .halted :=
      (isInvariant_agreesWithFault.of_isReachable reachable).halted_iff.mpr recorded
    exact absurd halted (Mode.ne_halted_of_isLive live)

end Machine

namespace Session

open Machine (ExplainsFault)

theorem isInvariant_explainsFault : IsInvariant ExplainsFault where
  restart _ _ _ _ recorded := absurd rfl recorded
  step _ reachable explains := explains.step reachable
  input _ _ _ _ _ explains recorded := by
    obtain ⟨fault, same, diagnosis⟩ := explains recorded
    exact ⟨fault, same, diagnosis.of_eq rfl rfl rfl rfl⟩

/-- The fault that is recorded in the machine of a reachable session names the word that
was at fault, however long ago that was.  Unless the word did not lie in memory, it
stands right before the program counter, and it would be refused again. -/
theorem recorded_fault_names_faulting_word {session : Session} (reachable : session.IsReachable)
    (recorded : session.machine.fault ≠ Fault.clear.code) :
    let machine := session.machine
    let word := machine.wordBehind
    let address : Nat := machine.pc.toNat - 2
    (∃ fault : Fault, fault ≠ .clear ∧ fault.code = machine.fault) ∧
    (machine.fault = Fault.invalidOpcode.code →
      2 ≤ machine.pc.toNat ∧ machine.pc.toNat ≤ 4096 ∧ machine.faultInfo = word.toNat ∧
        Instruction.decode word = none ∧
        machine.recordedError =
          .ok (some (.invalidOpcode machine.faultInfo (some address)))) ∧
    (machine.fault = Fault.stackOverflow.code →
      2 ≤ machine.pc.toNat ∧ machine.pc.toNat ≤ 4096 ∧ machine.faultInfo = address ∧
        word.family.val = 0x2 ∧ machine.stack.pointer.toNat = 16) ∧
    (machine.fault = Fault.stackUnderflow.code →
      2 ≤ machine.pc.toNat ∧ machine.pc.toNat ≤ 4096 ∧ machine.faultInfo = address ∧
        word = 0x00EE ∧ machine.stack.pointer.toNat = 0) ∧
    (machine.fault = Fault.invalidRegister.code →
      2 ≤ machine.pc.toNat ∧ machine.pc.toNat ≤ 4096 ∧ word.family.val = 0xF ∧
        (word.nn = 0x75 ∨ word.nn = 0x85) ∧ machine.faultInfo = word.x.val ∧
        8 ≤ machine.faultInfo) ∧
    (machine.fault = Fault.addressOutOfRange.code →
      (4096 < machine.pc.toNat + 2 ∧ machine.faultInfo = max (machine.pc.toNat : Int) 4096) ∨
      (2 ≤ machine.pc.toNat ∧ machine.pc.toNat ≤ 4096 ∧ machine.ReachesPastMemory word ∧
        machine.faultInfo = max (machine.index.toNat : Int) 4096)) := by
  intro machine word address
  obtain ⟨fault, same, diagnosis⟩ := isInvariant_explainsFault.of_isReachable reachable recorded
  have diagnosed {other : Fault} (code : machine.fault = other.code) :
      machine.Diagnosis other machine.faultInfo := by
    obtain rfl : fault = other := Fault.code_inj.mp (same.trans code)
    exact diagnosis
  have ne_clear : fault ≠ .clear := by
    rintro rfl
    exact recorded same.symm
  refine ⟨⟨fault, ne_clear, same⟩, ?_, ?_, ?_, ?_, ?_⟩
  · intro code
    obtain ⟨low, high, info, unassigned⟩ := (diagnosed code).invalidOpcode
    refine ⟨low, high, info, unassigned, ?_⟩
    have before : (address : Int) = machine.pc.toNat - 2 := by omega
    rw [Machine.recordedError, code, Fault.ofCode?_code, before]
  · exact fun code => (diagnosed code).stackOverflow
  · exact fun code => (diagnosed code).stackUnderflow
  · exact fun code => (diagnosed code).invalidRegister
  · exact fun code => (diagnosed code).addressOutOfRange

/-- A word that is no instruction, found at the start of a program.  The host has gone
on since. -/
theorem invalid_word_is_named_after_ticks :
    let session := (standard.performAll
      [.load (.bytes [0xFF, 0xFF]) false, .step, .tick, .setRegister 0 1, .setKey 0xB true]).2
    session.IsReachable ∧ session.machine.fault ≠ Fault.clear.code ∧
      session.machine.recordedError = .ok (some (.invalidOpcode 0xFFFF (some 0x200))) := by
  intro session
  have reachable : session.IsReachable := isReachable_performAll_standard _
  have halted : ((loaded [0xFF, 0xFF]).perform .step).2.machine =
      (loaded [0xFF, 0xFF]).machine.fetched.halt .invalidOpcode 0xFFFF := by
    rw [machine_perform_step (isClear_loaded (by decide))]
    exact step_loaded_of_unassigned 0xFF 0xFF rfl
  have parts : session = (((loaded [0xFF, 0xFF]).perform .step).2.performAll
      [.tick, .setRegister 0 1, .setKey 0xB true]).2 := by
    rw [loaded, ← performAll_cons_snd, ← performAll_cons_snd]
  have kept (start : Session) :
      let machine :=
        (start.performAll [.tick, .setRegister 0 1, .setKey 0xB true]).2.machine
      machine.fault = start.machine.fault ∧ machine.faultInfo = start.machine.faultInfo ∧
        machine.pc = start.machine.pc :=
    ⟨rfl, rfl, rfl⟩
  obtain ⟨fault, info, pc⟩ := kept ((loaded [0xFF, 0xFF]).perform .step).2
  rw [← parts, halted] at fault info pc
  clear_value session
  have recorded : session.machine.fault ≠ Fault.clear.code := by
    rw [fault]
    decide
  obtain ⟨-, named, -⟩ := recorded_fault_names_faulting_word reachable recorded
  obtain ⟨-, -, -, -, reported⟩ := named fault
  have behind : session.machine.pc.toNat - 2 = 0x200 := by
    rw [pc, Machine.fetched]
    show ((loaded [0xFF, 0xFF]).machine.pc + 2).toNat - 2 = 0x200
    rw [pc_loaded_word]
    rfl
  rw [info, behind] at reported
  exact ⟨reachable, recorded, reported⟩

end Session

end Chip8
