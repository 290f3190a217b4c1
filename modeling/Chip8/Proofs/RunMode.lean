/-
# Modes and faults

A machine records its mode and its fault apart from each other, and an instruction
that waits for a key writes the mode without a look at the fault.  That the two
agree is therefore a property of histories: no instruction is carried out on a
machine that has halted, so that a live machine never carries a fault into a step.

The main result is `mode_agrees_with_fault`.  It also says that nothing but a reset
leads a machine out of the two modes in which it takes no steps.
-/
import Chip8.Proofs.Invariant
import Chip8.Proofs.Step

namespace Chip8

theorem Fault.code_inj {first second : Fault} : first.code = second.code ↔ first = second := by
  constructor
  · intro same
    rw [← Option.some_inj, ← ofCode?_code first, ← ofCode?_code second, same]
  · exact congrArg code

namespace Machine

variable {machine : Machine}

/-! ## Faults are recorded when a machine halts -/

theorem ne_clear_of_faultOf? {instruction : Instruction} {fault : Fault} {info : Int}
    (refused : machine.faultOf? instruction = some (fault, info)) : fault ≠ .clear := by
  rintro rfl
  exact absurd (mem_of_faultOf? refused) (by decide)

theorem ne_clear_of_wordFault? {word : Word} {fault : Fault} {info : Int}
    (refused : machine.wordFault? word = some (fault, info)) : fault ≠ .clear := by
  rcases wordFault?_cases refused with ⟨-, rfl, -⟩ | ⟨instruction, -, refused⟩
  · decide
  · exact ne_clear_of_faultOf? refused

/-- The recorded fault has a meaning, and the machine has halted exactly when it is a
fault at all. -/
structure AgreesWithFault (machine : Machine) : Prop where
  exists_fault : ∃ fault : Fault, fault.code = machine.fault
  halted_iff : machine.mode = .halted ↔ machine.fault ≠ Fault.clear.code

theorem agreesWithFault_halt (machine : Machine) {fault : Fault} (recorded : fault ≠ .clear)
    (info : Int) : (machine.halt fault info).AgreesWithFault where
  exists_fault := ⟨fault, rfl⟩
  halted_iff := iff_of_true rfl fun same => recorded (Fault.code_inj.mp same)

theorem AgreesWithFault.step (agrees : machine.AgreesWithFault) :
    machine.step.AgreesWithFault := by
  refine machine.step_elim ?stopped ?outside ?refused ?executed
  case stopped => exact fun _ => agrees
  case outside => exact fun _ _ => machine.agreesWithFault_halt (by decide) _
  case refused =>
    intro _ _ fault info refused
    exact machine.fetched.agreesWithFault_halt (ne_clear_of_wordFault? refused) info
  case executed =>
    intro live _ instruction _ accepted
    -- The instruction may write any mode but the halted one, so no fault may be there before.
    have running := Mode.ne_halted_of_isLive live
    have unfaulted : ¬ machine.fault ≠ Fault.clear.code :=
      fun recorded => running (agrees.halted_iff.mpr recorded)
    have kept : (machine.fetched.execute instruction).fault = machine.fault :=
      fault_execute accepted
    have goesOn : (machine.fetched.execute instruction).mode ≠ .halted :=
      mode_ne_halted_of_execute accepted running
    refine ⟨?_, ?_⟩
    · rw [kept]
      exact agrees.exists_fault
    · rw [kept]
      exact iff_of_false goesOn unfaulted

theorem isInvariant_agreesWithFault : IsInvariant AgreesWithFault where
  powerOn _ _ := ⟨⟨.clear, rfl⟩, iff_of_false (fun halted => nomatch halted) (fun ne => ne rfl)⟩
  step _ agrees := agrees.step
  selectResolution _ _ agrees := ⟨agrees.exists_fault, agrees.halted_iff⟩
  access _ _ _ _ _ _ _ agrees := ⟨agrees.exists_fault, agrees.halted_iff⟩

/-- A fault with a meaning is reported, as an error unless it is the clear one. -/
theorem recordedError_of_fault {fault : Fault} (recorded : fault.code = machine.fault) :
    ∃ error?, machine.recordedError = .ok error? ∧ (error?.isSome = true ↔ fault ≠ .clear) := by
  rw [recordedError, ← recorded, Fault.ofCode?_code]
  cases fault with
  | clear => exact ⟨_, rfl, by decide⟩
  | _ => exact ⟨_, rfl, iff_of_true rfl (by decide)⟩

/-! ## Machines that take no steps -/

/-- Whether a call switches the machine off and on. -/
def Call.isReset : Call → Bool
  | .reset _ _ => true
  | _ => false

theorem mode_perform_of_not_live (stopped : machine.mode.isLive = false) {call : Call}
    (kept : call.isReset = false) : (machine.perform call).mode = machine.mode := by
  rcases machine.perform_cases call with ⟨program, clearFlags, _, reset, -⟩ | ⟨count, -, same⟩ |
    ⟨resolution, same⟩ | ⟨_, _, _, _, _, same⟩
  · rw [reset] at kept
    cases kept
  · rw [same, run_of_not_live stopped]
  · rw [same]
    rfl
  · rw [same]

theorem mode_performAll_of_not_live (stopped : machine.mode.isLive = false)
    {history : List Call} (kept : ∀ call ∈ history, call.isReset = false) :
    (machine.performAll history).mode = machine.mode := by
  induction history generalizing machine with
  | nil => rfl
  | cons call history ih =>
    have here : (machine.perform call).mode = machine.mode :=
      mode_perform_of_not_live stopped (kept call (List.mem_cons_self ..))
    have later : ∀ call ∈ history, call.isReset = false :=
      fun call member => kept call (List.mem_cons_of_mem _ member)
    rw [performAll_cons, ih (by rw [here]; exact stopped) later, here]

/-- The mode and the recorded fault of a reachable machine have a meaning and agree: it
has halted exactly when a fault is recorded, and exactly then an error is reported.  A
machine that has halted or is done takes no steps, and histories without a reset leave
it in its mode.  A mode has a meaning by its type, while a fault is kept as a code, and only
histories tell that it is one of the known codes. -/
theorem mode_agrees_with_fault :
    (∀ machine : Machine, machine.IsReachable →
      Mode.ofCode? machine.mode.code = some machine.mode ∧
      (∃ fault, Fault.ofCode? machine.fault = some fault) ∧
      (machine.mode = .halted ↔ machine.fault ≠ Fault.clear.code) ∧
      ∃ error?, machine.recordedError = .ok error? ∧
        (error?.isSome = true ↔ machine.mode = .halted)) ∧
    (∀ machine : Machine, machine.mode = .halted ∨ machine.mode = .done →
      machine.step = machine ∧ (∀ count, machine.run count = machine) ∧
      ∀ history : List Call, (∀ call ∈ history, call.isReset = false) →
        (machine.performAll history).mode = machine.mode) := by
  refine ⟨?_, ?_⟩
  · intro machine reachable
    have agrees := isInvariant_agreesWithFault.of_isReachable reachable
    obtain ⟨fault, recorded⟩ := agrees.exists_fault
    obtain ⟨error?, reported, isError⟩ := recordedError_of_fault recorded
    have halted_iff : machine.mode = .halted ↔ fault ≠ .clear := by
      rw [agrees.halted_iff, ← recorded, Ne, Fault.code_inj]
    refine ⟨Mode.ofCode?_code _, ⟨fault, (Fault.ofCode?_eq_some_iff _ _).mpr recorded⟩,
      agrees.halted_iff, error?, reported, ?_⟩
    rw [isError, halted_iff]
  · intro machine stopped
    have notLive : machine.mode.isLive = false := Mode.isLive_eq_false_iff.mpr stopped
    exact ⟨step_of_not_live notLive, run_of_not_live notLive,
      fun _ kept => mode_performAll_of_not_live notLive kept⟩

/-- A program that begins with a word that is no instruction halts at once, and for
good. -/
theorem invalid_program_halts_for_good :
    let machine := (powerOn ⟨0, 0⟩ .standard).performAll
      [.load (.bytes [0xFF, 0xFF]) programStart, .step]
    machine.IsReachable ∧ machine.mode = .halted ∧
      (∃ error, machine.recordedError = .ok (some error)) ∧ machine.run 3 = machine ∧
      (machine.performAll [.tick, .run 2]).mode = .halted := by
  intro machine
  have reachable : machine.IsReachable := ⟨_, _, _, rfl⟩
  have halted : machine.mode = .halted := by
    show ((powerOn ⟨0, 0⟩ .standard).performAll _).mode = .halted
    rw [performAll_cons, performAll_cons, performAll_nil, perform_load_bytes _ (by decide)]
    show (step { powerOn ⟨0, 0⟩ .standard with memory := _ }).mode = .halted
    rw [step_of_unassigned rfl (by decide)]
    · rfl
    · show Instruction.decode ((Font.memory.write 0x200 [0xFF, 0xFF]).wordAt 0x200) = none
      rw [Memory.wordAt_write _ (by decide)]
      decide
  clear_value machine
  obtain ⟨-, -, -, error?, reported, isError⟩ := mode_agrees_with_fault.1 machine reachable
  obtain ⟨error, rfl⟩ := Option.isSome_iff_exists.mp (isError.mpr halted)
  obtain ⟨-, stays, modes⟩ := mode_agrees_with_fault.2 machine (.inl halted)
  refine ⟨reachable, halted, ⟨error, reported⟩, stays 3, ?_⟩
  rw [modes _ (by decide), halted]

end Machine

end Chip8
