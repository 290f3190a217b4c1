/-
# Lasting faults

A session whose machine has recorded a fault fails with the same error whenever it is to
execute something, until a program is loaded or the machine is reset.  The error is made
anew each time, from the fault, what the fault is about and the program counter; and
what still reaches the machine are inputs, which touch none of the three.

The main result is `recorded_fault_lasts`.
-/
import Chip8.Proofs.RunMode
import Chip8.Proofs.Session.Invariant

namespace Chip8

namespace Session

variable {session : Session} {call : Call} {error : Error}

/-- Whether a call switches the machine off and on.  Loading does so only when the
program can be read. -/
def Call.restarts : Call → Bool
  | .load program _ => (Memory.programBytes program programStart).isOk
  | .reset => true
  | _ => false

/-- Whether a call lets the machine execute instructions. -/
def Call.executes : Call → Bool
  | .step => true
  | .run cycles => 0 ≤ cycles
  | .runFrame => true
  | _ => false

/-- What a call passes on to the machine as an input. -/
def Call.input? : Call → Option Machine.Call
  | .tick => some .tick
  | .setKey index pressed => some (.setKey index pressed)
  | .setRegister index value => some (.setRegister index value)
  | _ => none

/-! ## One call -/

/-- With a recorded fault, nothing is executed. -/
theorem run_action_of_executes (faulted : session.machine.recordedError = .ok (some error))
    (executes : call.executes = true) :
    call.action.run session = .error error (session.reporting error) := by
  have fails {cycles : Int} (nonneg : 0 ≤ cycles) :
      (Session.run cycles).run session = .error error (session.reporting error) := by
    rw [run_eq_checked nonneg]
    exact run_check_bind_of_fault faulted _
  cases call with
  | step =>
    have failed : Session.step.run session = .error error (session.reporting error) :=
      run_check_bind_of_fault faulted _
    rw [Call.action, EStateM.run_bind, failed]
  | run cycles => rw [Call.action, EStateM.run_bind, fails (of_decide_eq_true executes)]
  | runFrame =>
    rw [Call.action, EStateM.run_bind, run_runFrame, fails (Int.natCast_nonneg _)]
  | _ => cases executes

/-- With a recorded fault, only inputs reach the machine. -/
theorem machine_perform_of_fault (faulted : session.machine.recordedError = .ok (some error))
    (kept : call.restarts = false) :
    (session.perform call).2.machine = session.machine.performAll call.input?.toList := by
  have faulty : ¬ session.IsClear := by
    intro clear
    rw [IsClear, faulted] at clear
    cases clear
  rw [machine_perform]
  cases call with
  | load program clearFlags =>
    cases read : Memory.programBytes program programStart with
    | ok bytes =>
      rw [Call.restarts, read] at kept
      cases kept
    | error cause =>
      rw [played, read]
      rfl
  | reset => cases kept
  | step =>
    rw [played, if_neg faulty]
    rfl
  | run cycles =>
    rw [played, if_neg fun goes => faulty goes.2]
    rfl
  | runFrame =>
    rw [played, if_neg faulty]
    rfl
  | _ => rfl

/-! ## Histories -/

/-- All that has changed of a machine over a history of calls are its timers, its keypad
and its registers, and each of these only if the history tells it to. -/
structure ChangedOnlyBy (history : List Call) (before after : Machine) : Prop where
  others : ∃ registers delayTimer soundTimer keypad, after =
    { before with
      registers := registers
      delayTimer := delayTimer
      soundTimer := soundTimer
      keypad := keypad }
  timers : .tick ∉ history →
    after.delayTimer = before.delayTimer ∧ after.soundTimer = before.soundTimer
  keypad : (∀ index pressed, .setKey index pressed ∉ history) → after.keypad = before.keypad
  registers : (∀ index value, .setRegister index value ∉ history) →
    after.registers = before.registers

namespace ChangedOnlyBy

variable {history : List Call} {before middle after : Machine}

theorem refl (history : List Call) (machine : Machine) : ChangedOnlyBy history machine machine :=
  ⟨⟨_, _, _, _, rfl⟩, fun _ => ⟨rfl, rfl⟩, fun _ => rfl, fun _ => rfl⟩

theorem cons (first : ChangedOnlyBy [call] before middle)
    (rest : ChangedOnlyBy history middle after) : ChangedOnlyBy (call :: history) before after where
  others := by
    obtain ⟨_, _, _, _, here⟩ := first.others
    obtain ⟨_, _, _, _, later⟩ := rest.others
    rw [later, here]
    exact ⟨_, _, _, _, rfl⟩
  timers silent := by
    rw [← List.singleton_append, List.mem_append, not_or] at silent
    have here := first.timers silent.1
    have later := rest.timers silent.2
    exact ⟨later.1.trans here.1, later.2.trans here.2⟩
  keypad silent := by
    have here := first.keypad fun index pressed member =>
      silent index pressed (List.mem_append_left history member)
    have later := rest.keypad fun index pressed member =>
      silent index pressed (List.mem_cons_of_mem call member)
    exact later.trans here
  registers silent := by
    have here := first.registers fun index value member =>
      silent index value (List.mem_append_left history member)
    have later := rest.registers fun index value member =>
      silent index value (List.mem_cons_of_mem call member)
    exact later.trans here

/-- The report of a fault does not depend on what may have changed. -/
theorem recordedError (changed : ChangedOnlyBy history before after) :
    after.recordedError = before.recordedError := by
  obtain ⟨_, _, _, _, same⟩ := changed.others
  rw [same]
  rfl

end ChangedOnlyBy

theorem changedOnlyBy_input (machine : Machine) (call : Call) :
    ChangedOnlyBy [call] machine (machine.performAll call.input?.toList) := by
  cases call with
  | tick =>
    refine ⟨⟨_, _, _, _, rfl⟩, ?_, fun _ => rfl, fun _ => rfl⟩
    exact fun silent => absurd (List.mem_singleton_self _) silent
  | setKey index pressed =>
    show ChangedOnlyBy _ machine (machine.perform (.setKey index pressed))
    rw [Machine.perform]
    cases applied : Machine.Call.apply machine (.setKey index pressed) with
    | error cause => exact .refl _ _
    | ok next =>
      obtain ⟨key, -, rfl⟩ := map_eq_ok_iff.mp applied
      refine ⟨⟨_, _, _, _, rfl⟩, fun _ => ⟨rfl, rfl⟩, ?_, fun _ => rfl⟩
      exact fun silent => absurd (List.mem_singleton_self _) (silent index pressed)
  | setRegister index value =>
    show ChangedOnlyBy _ machine (machine.perform (.setRegister index value))
    rw [Machine.perform]
    cases applied : Machine.Call.apply machine (.setRegister index value) with
    | error cause => exact .refl _ _
    | ok next =>
      obtain ⟨x, -, rfl⟩ := map_eq_ok_iff.mp applied
      refine ⟨⟨_, _, _, _, rfl⟩, fun _ => ⟨rfl, rfl⟩, fun _ => rfl, ?_⟩
      exact fun silent => absurd (List.mem_singleton_self _) (silent index value)
  | _ => exact .refl _ _

theorem changedOnlyBy_perform (faulted : session.machine.recordedError = .ok (some error))
    (kept : call.restarts = false) :
    ChangedOnlyBy [call] session.machine (session.perform call).2.machine := by
  rw [machine_perform_of_fault faulted kept]
  exact changedOnlyBy_input _ _

section History

variable {history : List Call} (kept : ∀ call ∈ history, call.restarts = false)

include kept

theorem changedOnlyBy_performAll (faulted : session.machine.recordedError = .ok (some error)) :
    ChangedOnlyBy history session.machine (session.performAll history).2.machine := by
  induction history generalizing session with
  | nil => exact .refl _ _
  | cons call history ih =>
    obtain ⟨here, later⟩ := List.forall_mem_cons.mp kept
    have first := changedOnlyBy_perform faulted here
    exact first.cons (ih later (first.recordedError.trans faulted))

theorem machine_performAll_of_fault (faulted : session.machine.recordedError = .ok (some error)) :
    (session.performAll history).2.machine =
      session.machine.performAll (history.filterMap Call.input?) := by
  induction history generalizing session with
  | nil => rfl
  | cons call history ih =>
    obtain ⟨here, later⟩ := List.forall_mem_cons.mp kept
    have first := changedOnlyBy_perform faulted here
    have parts : (call :: history).filterMap Call.input? =
        call.input?.toList ++ history.filterMap Call.input? := by
      rw [List.filterMap_cons]
      cases call.input? <;> rfl
    rw [performAll_cons_snd, ih later (first.recordedError.trans faulted),
      machine_perform_of_fault faulted here, parts, Machine.performAll_append]

end History

/-- The fault of a reachable session's machine is reported for as long as no program is
loaded and the machine is not reset: whatever is called, each step, run and frame
fails with the same error and leaves the machine as it is, so that a frame does not
even count the timers down.  The machine changes as the inputs that it gets tell it,
and in no other way. -/
theorem recorded_fault_lasts (reachable : session.IsReachable)
    (recorded : session.machine.fault ≠ Fault.clear.code) :
    ∃ error, session.machine.recordedError = .ok (some error) ∧ error.kind?.isSome = true ∧
      ∀ history : List Call, (∀ call ∈ history, call.restarts = false) →
        let last := (session.performAll history).2
        (∀ call : Call, call.executes = true →
          (last.perform call).1 = .error error ∧
            (last.perform call).2.machine = last.machine) ∧
        last.machine = session.machine.performAll (history.filterMap Call.input?) ∧
        ChangedOnlyBy history session.machine last.machine := by
  obtain ⟨fault, same⟩ :=
    (Machine.isInvariant_agreesWithFault.of_isReachable reachable.machine).exists_fault
  have reported : ∃ error, session.machine.recordedError = .ok (some error) ∧
      error.kind?.isSome = true := by
    rw [Machine.recordedError, ← same, Fault.ofCode?_code]
    cases fault with
    | clear => exact absurd same.symm recorded
    | _ => exact ⟨_, rfl, rfl⟩
  obtain ⟨error, faulted, kind⟩ := reported
  refine ⟨error, faulted, kind, ?_⟩
  intro history kept last
  have changed := changedOnlyBy_performAll kept faulted
  refine ⟨?_, machine_performAll_of_fault kept faulted, changed⟩
  intro call executes
  have failed := run_action_of_executes (changed.recordedError.trans faulted) executes
  rw [perform, failed]
  exact ⟨rfl, rfl⟩

/-- A word that is no instruction, met at the first step. -/
theorem frames_fail_after_invalid_word :
    let session := ((loaded [0xFF, 0xFF]).perform .step).2
    let last := (session.performAll
      [.run 3, .setRegister 1 7, .runFrame, .load .missing false, .setKey 0xB true]).2
    session.IsReachable ∧ session.machine.fault ≠ Fault.clear.code ∧
      (last.perform .runFrame).1 = .error (.invalidOpcode 0xFFFF (some 0x200)) := by
  intro session last
  have clear : (loaded [0xFF, 0xFF]).IsClear := isClear_loaded (by decide)
  have reachable : session.IsReachable := (isReachable_loaded _).perform .step
  have stepped : session.machine = (loaded [0xFF, 0xFF]).machine.step :=
    machine_perform_step clear
  have reported : session.machine.recordedError =
      .ok (some (.invalidOpcode 0xFFFF (some 0x200))) := by
    rw [stepped]
    exact recordedError_step_loaded_of_unassigned 0xFF 0xFF rfl
  have recorded : session.machine.fault ≠ Fault.clear.code := by
    rw [stepped, step_loaded_of_unassigned 0xFF 0xFF rfl]
    decide
  clear_value session
  obtain ⟨error, same, -, lasts⟩ := recorded_fault_lasts reachable recorded
  have kept : ∀ call ∈ [Call.run 3, .setRegister 1 7, .runFrame, .load .missing false,
      .setKey 0xB true], call.restarts = false := by
    decide
  obtain ⟨fails, -, -⟩ := lasts _ kept
  obtain rfl : Error.invalidOpcode 0xFFFF (some 0x200) = error :=
    Option.some.inj (Except.ok.inj (reported.symm.trans same))
  exact ⟨reachable, recorded, (fails .runFrame rfl).1⟩

end Session

end Chip8
