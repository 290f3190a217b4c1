/-
# Invariants of sessions

A session does few things to its machine: it switches it off and on with a program, lets
it take steps, and passes inputs on.  So the machine of a reachable session is reachable,
and no host has written to its memory since its program was loaded.

`IsInvariant.of_isReachable` is the induction over the histories of a session.  Compared
with the invariants of machines in general, those of sessions may rest on what stands in
memory.
-/
import Chip8.Proofs.Session.Played
import Chip8.Proofs.Step

namespace Chip8

namespace Machine

theorem exists_restarted_with_memory (machine : Machine) (clearFlags : Bool) (memory : Memory) :
    ∃ flags, { machine.restarted clearFlags with memory := memory } =
      { powerOn machine.randomKey machine.dialect with memory := memory, flags := flags } := by
  cases clearFlags with
  | true =>
    rw [restarted_true]
    -- Otherwise the two memories would be compared byte by byte.
    generalize powerOn machine.randomKey machine.dialect = fresh
    exact ⟨fresh.flags, rfl⟩
  | false =>
    rw [restarted_false]
    generalize powerOn machine.randomKey machine.dialect = fresh
    exact ⟨machine.flags, rfl⟩

/-- A run takes some number of steps, none if it is refused. -/
theorem exists_perform_run (machine : Machine) (count : Int) :
    ∃ steps, machine.perform (.run count) = machine.run steps :=
  ⟨_, perform_of_steps? rfl⟩

/-- A call that a session makes switches the machine off and on, lets it run, or is an
input.  A call that fails lets it run for no step. -/
theorem perform_of_isOffered (machine : Machine) {call : Call} (offered : call.isOffered = true) :
    (∃ memory flags, machine.perform call =
      { powerOn machine.randomKey machine.dialect with memory := memory, flags := flags }) ∨
    (∃ count, machine.perform call = machine.run count) ∨
    (∃ registers delayTimer soundTimer keypad, machine.perform call =
      { machine with
        registers := registers
        delayTimer := delayTimer
        soundTimer := soundTimer
        keypad := keypad }) := by
  cases call with
  | reset program clearFlags =>
    cases applied : Call.apply machine (.reset program clearFlags) with
    | error cause => exact .inr (.inl ⟨0, by rw [perform, applied]; rfl⟩)
    | ok next =>
      obtain ⟨memory, rfl⟩ := exists_of_reset_eq_ok applied
      obtain ⟨flags, same⟩ := machine.exists_restarted_with_memory clearFlags memory
      rw [perform, applied]
      exact .inl ⟨memory, flags, same⟩
  | step => exact .inr (.inl ⟨1, rfl⟩)
  | run count => exact .inr (.inl (machine.exists_perform_run count))
  | tick => exact .inr (.inr (machine.perform_of_isInput rfl))
  | setKey index pressed => exact .inr (.inr (machine.perform_of_isInput rfl))
  | setRegister index value => exact .inr (.inr (machine.perform_of_isInput rfl))
  | _ => cases offered

end Machine

namespace Session

variable {session : Session}

/-! ## New sessions -/

/-- A new session in the standard dialect, with the seed zero and the usual frequencies. -/
def standard : Session where
  machine := .powerOn ⟨0, 0⟩ .standard
  program := none
  instructionsPerFrame := 11
  logger := defaultLogger
  transcript := []

theorem create_standard :
    create ⟨.custom .standard, 0, 700, 60, defaultLogger⟩ = .ok standard := by
  rfl

/-- A session that starts in the standard dialect is reachable. -/
theorem isReachable_performAll_standard (history : List Call) :
    (standard.performAll history).2.IsReachable :=
  ⟨_, _, history, create_standard, rfl⟩

/-- The session `standard` once it has loaded a program. -/
def loaded (bytes : List UInt8) : Session :=
  (standard.perform (.load (.bytes bytes) false)).2

theorem isReachable_loaded (bytes : List UInt8) : (loaded bytes).IsReachable :=
  isReachable_performAll_standard [.load (.bytes bytes) false]

theorem machine_loaded {bytes : List UInt8} (fits : programStart + bytes.length ≤ 4096) :
    (loaded bytes).machine =
      { Machine.powerOn ⟨0, 0⟩ .standard with memory := Font.memory.write programStart bytes } :=
  machine_perform_load_bytes standard fits false

theorem isClear_loaded {bytes : List UInt8} (fits : programStart + bytes.length ≤ 4096) :
    (loaded bytes).IsClear := by
  rw [isClear_iff, machine_loaded fits]
  rfl

/-! ### Programs of one word -/

section Word

variable (high low : UInt8)

theorem fits_word : programStart + [high, low].length ≤ 4096 := show 0x202 ≤ 4096 by decide

theorem isLive_loaded_word : (loaded [high, low]).machine.mode.isLive = true := by
  rw [machine_loaded (fits_word high low)]
  rfl

theorem pc_loaded_word : (loaded [high, low]).machine.pc = 0x200 := by
  rw [machine_loaded (fits_word high low)]
  rfl

theorem pc_loaded_word_inside : (loaded [high, low]).machine.pc.toNat + 2 ≤ 4096 := by
  rw [pc_loaded_word]
  decide

theorem wordAtPc_loaded_word :
    (loaded [high, low]).machine.wordAtPc = high.toUInt16 <<< 8 ||| low.toUInt16 := by
  rw [machine_loaded (fits_word high low)]
  exact Font.memory.wordAt_write (by decide) high low

/-- The first step carries out the instruction that a program consists of. -/
theorem step_loaded_of_decode {instruction : Instruction}
    (decoded : Instruction.decode (high.toUInt16 <<< 8 ||| low.toUInt16) = some instruction) :
    (loaded [high, low]).machine.step =
      (loaded [high, low]).machine.fetched.execute instruction := by
  rw [← wordAtPc_loaded_word] at decoded
  exact Machine.step_of_decode (isLive_loaded_word high low) (pc_loaded_word_inside high low)
    decoded

variable (unassigned : Instruction.decode (high.toUInt16 <<< 8 ||| low.toUInt16) = none)

include unassigned

theorem step_loaded_of_unassigned :
    (loaded [high, low]).machine.step =
      (loaded [high, low]).machine.fetched.halt .invalidOpcode
        (high.toUInt16 <<< 8 ||| low.toUInt16).toNat := by
  rw [← wordAtPc_loaded_word] at unassigned ⊢
  exact Machine.step_of_unassigned (isLive_loaded_word high low) (pc_loaded_word_inside high low)
    unassigned

theorem recordedError_step_loaded_of_unassigned :
    (loaded [high, low]).machine.step.recordedError =
      .ok (some (.invalidOpcode (high.toUInt16 <<< 8 ||| low.toUInt16).toNat (some 0x200))) := by
  rw [← wordAtPc_loaded_word] at unassigned ⊢
  rw [Machine.recordedError_step_of_unassigned (isLive_loaded_word high low)
    (pc_loaded_word_inside high low) unassigned, pc_loaded_word]
  rfl

end Word

theorem machine_of_create {options : SessionOptions} {fresh : Session}
    (created : create options = .ok fresh) :
    ∃ dialect, fresh.machine = .powerOn (.ofSeed options.seed) dialect := by
  unfold create at created
  split at created
  · cases created
  · obtain ⟨dialect, -, created⟩ := bind_eq_ok_iff.mp created
    obtain ⟨randomKey, seeded, created⟩ := bind_eq_ok_iff.mp created
    obtain ⟨_, -, seeded⟩ := bind_eq_ok_iff.mp seeded
    have same := Except.ok.inj created
    have key := Except.ok.inj seeded
    exact ⟨dialect, by rw [← same, key]⟩

/-- The machine of a reachable session was switched on and then only called as a session
calls it. -/
theorem IsReachable.exists_history (reachable : session.IsReachable) :
    ∃ randomKey dialect, ∃ history : List Machine.Call,
      (∀ played ∈ history, played.isOffered = true) ∧
      session.machine = (Machine.powerOn randomKey dialect).performAll history := by
  obtain ⟨options, fresh, calls, created, rfl⟩ := reachable
  obtain ⟨dialect, switchedOn⟩ := machine_of_create created
  refine ⟨.ofSeed options.seed, dialect, fresh.playedAll calls, isOffered_of_mem_playedAll, ?_⟩
  rw [machine_performAll, switchedOn]

/-- The machine of a reachable session is reachable. -/
theorem IsReachable.machine (reachable : session.IsReachable) : session.machine.IsReachable := by
  obtain ⟨randomKey, dialect, history, -, played⟩ := reachable.exists_history
  exact ⟨randomKey, dialect, history, played⟩

/-- A property that the machine of a session has when it is switched on with whatever
program, and that neither steps nor inputs destroy. -/
structure IsInvariant (P : Machine → Prop) : Prop where
  /-- The flag registers may be older than the machine. -/
  restart : ∀ randomKey dialect memory flags,
    P { Machine.powerOn randomKey dialect with memory := memory, flags := flags }
  step : ∀ machine, machine.IsReachable → P machine → P machine.step
  input : ∀ machine registers delayTimer soundTimer keypad, P machine →
    P { machine with
      registers := registers
      delayTimer := delayTimer
      soundTimer := soundTimer
      keypad := keypad }

namespace IsInvariant

variable {P : Machine → Prop} {machine : Machine}

theorem run (invariant : IsInvariant P) (reachable : machine.IsReachable) (holds : P machine)
    (count : Nat) : P (machine.run count) := by
  induction count generalizing machine with
  | zero => exact holds
  | succ count ih => exact ih (reachable.perform .step) (invariant.step machine reachable holds)

theorem perform (invariant : IsInvariant P) (reachable : machine.IsReachable) (holds : P machine)
    {call : Machine.Call} (offered : call.isOffered = true) : P (machine.perform call) := by
  rcases machine.perform_of_isOffered offered with ⟨memory, flags, same⟩ | ⟨count, same⟩ |
    ⟨_, _, _, _, same⟩ <;> rw [same]
  · exact invariant.restart _ _ memory flags
  · exact invariant.run reachable holds count
  · exact invariant.input machine _ _ _ _ holds

theorem performAll (invariant : IsInvariant P) (reachable : machine.IsReachable)
    (holds : P machine) {history : List Machine.Call}
    (offered : ∀ call ∈ history, call.isOffered = true) : P (machine.performAll history) := by
  induction history generalizing machine with
  | nil => exact holds
  | cons call history ih =>
    obtain ⟨here, later⟩ := List.forall_mem_cons.mp offered
    exact ih (reachable.perform call) (invariant.perform reachable holds here) later

/-- An invariant holds of the machine of every reachable session. -/
theorem of_isReachable (invariant : IsInvariant P) (reachable : session.IsReachable) :
    P session.machine := by
  obtain ⟨randomKey, dialect, history, offered, played⟩ := reachable.exists_history
  have holds : P (Machine.powerOn randomKey dialect) := by
    have fresh := invariant.restart randomKey dialect
    generalize Machine.powerOn randomKey dialect = machine at fresh ⊢
    exact fresh machine.memory machine.flags
  rw [played]
  exact invariant.performAll (Machine.isReachable_powerOn randomKey dialect) holds offered

end IsInvariant

end Session

end Chip8
