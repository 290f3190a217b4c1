/-
# Steps

A step fetches a word, and then either halts or carries an instruction out.  The
cases are told apart once, in `step_cases`; `step_elim` turns them into goals, for what
every step preserves.
-/
import Chip8.Machine.Access
import Chip8.Proofs.Control

namespace Chip8

/-- The modes in which a machine takes steps. -/
theorem Mode.isLive_eq_true_iff {mode : Mode} :
    mode.isLive = true ↔ mode = .running ∨ mode = .waitingForKey := by
  cases mode <;> decide

/-- The modes in which a machine takes no steps. -/
theorem Mode.isLive_eq_false_iff {mode : Mode} :
    mode.isLive = false ↔ mode = .halted ∨ mode = .done := by
  cases mode <;> decide

theorem Mode.ne_halted_of_isLive {mode : Mode} (live : mode.isLive = true) : mode ≠ .halted := by
  rintro rfl
  cases live

namespace Machine

/-- The machine whose program counter has moved behind the word at it. -/
def fetched (machine : Machine) : Machine := { machine with pc := machine.pc + 2 }

theorem currentAddress_fetched (machine : Machine) : machine.fetched.currentAddress = machine.pc :=
  UInt16.add_sub_cancel machine.pc 2

/-- The fault of a word and what it is about, if the word cannot be carried out. -/
def wordFault? (machine : Machine) (word : Word) : Option (Fault × Int) :=
  match Instruction.decode word with
  | none => some (.invalidOpcode, word.toNat)
  | some instruction => machine.faultOf? instruction

theorem wordFault?_cases {machine : Machine} {word : Word} {fault : Fault} {info : Int}
    (refused : machine.wordFault? word = some (fault, info)) :
    (Instruction.decode word = none ∧ fault = .invalidOpcode ∧ info = word.toNat) ∨
    (∃ instruction, Instruction.decode word = some instruction ∧
      machine.faultOf? instruction = some (fault, info)) := by
  rw [wordFault?] at refused
  cases decoded : Instruction.decode word with
  | none =>
    simp only [decoded, Option.some.injEq, Prod.mk.injEq] at refused
    exact .inl ⟨rfl, refused.1.symm, refused.2.symm⟩
  | some instruction =>
    simp only [decoded] at refused
    exact .inr ⟨instruction, rfl, refused⟩

/-- A word that cannot be carried out halts the machine and does nothing else. -/
theorem executeWord_of_wordFault?_eq_some {machine : Machine} {word : Word} {fault : Fault}
    {info : Int} (refused : machine.wordFault? word = some (fault, info)) :
    machine.executeWord word = machine.halt fault info := by
  rcases wordFault?_cases refused with ⟨unassigned, rfl, rfl⟩ | ⟨instruction, decoded, refused⟩
  · rw [executeWord, unassigned]
  · rw [executeWord, decoded]
    exact execute_of_faultOf?_eq_some refused

theorem exists_of_wordFault?_eq_none {machine : Machine} {word : Word}
    (accepted : machine.wordFault? word = none) :
    ∃ instruction, Instruction.decode word = some instruction ∧
      machine.faultOf? instruction = none ∧
      machine.executeWord word = machine.execute instruction := by
  unfold wordFault? at accepted
  unfold executeWord
  cases decoded : Instruction.decode word with
  | none => simp [decoded] at accepted
  | some instruction =>
    simp only [decoded] at accepted
    exact ⟨instruction, rfl, accepted, rfl⟩

theorem fetch_of_outside {machine : Machine} (outside : 4096 < machine.pc.toNat + 2) :
    machine.fetch =
      (machine.halt .addressOutOfRange (max machine.pc.toNat 4096), machine.wordAtPc) := by
  have short : wordBytes ≤ 4096 := by decide
  rw [fetch, guardRange_of_short _ _ _ short, if_pos outside]

theorem fetch_of_inside {machine : Machine} (inside : machine.pc.toNat + 2 ≤ 4096) :
    machine.fetch = (machine.fetched, machine.wordAtPc) := by
  have short : wordBytes ≤ 4096 := by decide
  rw [fetch, guardRange_of_short _ _ _ short, if_neg (Nat.not_lt.mpr inside)]
  rfl

/-- A step beyond the memory halts and leaves the program counter in place. -/
theorem step_of_outside {machine : Machine} (live : machine.mode.isLive = true)
    (outside : 4096 < machine.pc.toNat + 2) :
    machine.step = machine.halt .addressOutOfRange (max machine.pc.toNat 4096) := by
  rw [step, if_pos live, fetch_of_outside outside]
  rfl

/-- A step within the memory executes the word at the program counter. -/
theorem step_of_inside {machine : Machine} (live : machine.mode.isLive = true)
    (inside : machine.pc.toNat + 2 ≤ 4096) :
    machine.step = machine.fetched.executeWord machine.wordAtPc := by
  rw [step, if_pos live, fetch_of_inside inside]
  exact if_neg (Mode.ne_halted_of_isLive live)

/-- A step at the word of an instruction carries the instruction out. -/
theorem step_of_decode {machine : Machine} {instruction : Instruction}
    (live : machine.mode.isLive = true) (inside : machine.pc.toNat + 2 ≤ 4096)
    (decoded : Instruction.decode machine.wordAtPc = some instruction) :
    machine.step = machine.fetched.execute instruction := by
  rw [step_of_inside live inside, executeWord, decoded]

/-- A step at a word that is no instruction halts behind the word. -/
theorem step_of_unassigned {machine : Machine} (live : machine.mode.isLive = true)
    (inside : machine.pc.toNat + 2 ≤ 4096)
    (unassigned : Instruction.decode machine.wordAtPc = none) :
    machine.step = machine.fetched.halt .invalidOpcode machine.wordAtPc.toNat := by
  rw [step_of_inside live inside]
  apply executeWord_of_wordFault?_eq_some
  rw [wordFault?, unassigned]

/-- The word and its address are reported. -/
theorem recordedError_step_of_unassigned {machine : Machine} (live : machine.mode.isLive = true)
    (inside : machine.pc.toNat + 2 ≤ 4096)
    (unassigned : Instruction.decode machine.wordAtPc = none) :
    machine.step.recordedError =
      .ok (some (.invalidOpcode machine.wordAtPc.toNat (some machine.pc.toNat))) := by
  rw [step_of_unassigned live inside unassigned]
  show Except.ok (some (Error.invalidOpcode machine.wordAtPc.toNat
    (some (((machine.pc + 2).toNat : Int) - 2)))) = _
  rw [toNat_add_two (by omega)]
  simp

/-- A live machine halts outside the memory, or halts because of the word at the
program counter, or carries the instruction there out. -/
theorem step_cases {machine : Machine} (live : machine.mode.isLive = true) :
    (4096 < machine.pc.toNat + 2 ∧
      machine.step = machine.halt .addressOutOfRange (max machine.pc.toNat 4096)) ∨
    (machine.pc.toNat + 2 ≤ 4096 ∧ ∃ fault info,
      machine.fetched.wordFault? machine.wordAtPc = some (fault, info) ∧
      machine.step = machine.fetched.halt fault info) ∨
    (machine.pc.toNat + 2 ≤ 4096 ∧ ∃ instruction,
      Instruction.decode machine.wordAtPc = some instruction ∧
      machine.fetched.faultOf? instruction = none ∧
      machine.step = machine.fetched.execute instruction) := by
  by_cases outside : 4096 < machine.pc.toNat + 2
  · exact .inl ⟨outside, step_of_outside live outside⟩
  · have inside : machine.pc.toNat + 2 ≤ 4096 := by omega
    rw [step_of_inside live inside]
    cases found : machine.fetched.wordFault? machine.wordAtPc with
    | some reason =>
      exact .inr (.inl ⟨inside, reason.1, reason.2, rfl, executeWord_of_wordFault?_eq_some found⟩)
    | none => exact .inr (.inr ⟨inside, exists_of_wordFault?_eq_none found⟩)

/-- The cases of a step, as goals about the machine after it. -/
@[elab_as_elim]
theorem step_elim {motive : Machine → Prop} (machine : Machine)
    (stopped : machine.mode.isLive = false → motive machine)
    (outside : machine.mode.isLive = true → 4096 < machine.pc.toNat + 2 →
      motive (machine.halt .addressOutOfRange (max machine.pc.toNat 4096)))
    (refused : machine.mode.isLive = true → machine.pc.toNat + 2 ≤ 4096 → ∀ fault info,
      machine.fetched.wordFault? machine.wordAtPc = some (fault, info) →
      motive (machine.fetched.halt fault info))
    (executed : machine.mode.isLive = true → machine.pc.toNat + 2 ≤ 4096 → ∀ instruction,
      Instruction.decode machine.wordAtPc = some instruction →
      machine.fetched.faultOf? instruction = none →
      motive (machine.fetched.execute instruction)) :
    motive machine.step := by
  cases live : machine.mode.isLive with
  | false =>
    rw [step_of_not_live live]
    exact stopped live
  | true =>
    rcases step_cases live with ⟨past, stepped⟩ | ⟨inside, fault, info, found, stepped⟩ |
      ⟨inside, instruction, decoded, accepted, stepped⟩ <;> rw [stepped]
    · exact outside live past
    · exact refused live inside fault info found
    · exact executed live inside instruction decoded accepted

/-- A machine that a step leaves as it is stays so. -/
theorem run_of_step_eq_self {machine : Machine} (same : machine.step = machine) (count : Nat) :
    machine.run count = machine := by
  induction count with
  | zero => rfl
  | succ count ih => rw [run, same, ih]

theorem run_of_not_live {machine : Machine} (stopped : machine.mode.isLive = false)
    (count : Nat) : machine.run count = machine :=
  run_of_step_eq_self (step_of_not_live stopped) count

end Machine

end Chip8
