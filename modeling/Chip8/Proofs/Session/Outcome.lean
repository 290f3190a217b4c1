/-
# Outcomes of a session's actions

How the actions of a session end: with a value or an error, and with which session.  A
step and a run are the same action but for the number of steps, a `batch`, as long as the
number fits in 32 bits; both begin and end with a check for a recorded fault.
-/
import Chip8.Proofs.Invariant
import Chip8.Session.Call

namespace Chip8

/-- No error is reported exactly when no fault is recorded. -/
theorem Machine.recordedError_eq_ok_none_iff {machine : Machine} :
    machine.recordedError = .ok none ↔ machine.fault = Fault.clear.code := by
  rw [eq_comm (a := machine.fault), ← Fault.ofCode?_eq_some_iff, recordedError]
  cases Fault.ofCode? machine.fault with
  | none => simp
  | some fault => cases fault <;> simp

namespace Session

variable {α β : Type} {session : Session} {action : Action α}

/-! ## Checks -/

/-- The session as an action leaves it, whether the action fails or not. -/
def after (session : Session) (action : Action α) : Session :=
  match action.run session with
  | .ok _ next => next
  | .error _ next => next

theorem after_bind_pure (session : Session) (action : Action α) (shape : α → β) :
    session.after (do return shape (← action)) = session.after action := by
  rw [after, after, EStateM.run_bind]
  cases action.run session <;> rfl

theorem perform_snd (session : Session) (call : Call) :
    (session.perform call).2 = session.after call.action := by
  rw [perform, after]
  cases call.action.run session <;> rfl

theorem after_ask (session : Session) (question : Machine → Except Error α) :
    session.after (ask question) = session := by
  rw [after, ask, EStateM.run_bind, EStateM.run_get]
  dsimp only
  cases question session.machine <;> rfl

theorem machine_after_tryChange (session : Session) (move : Machine → Except Error Machine) :
    (session.after (tryChange move)).machine =
      match move session.machine with
      | .ok machine => machine
      | .error _ => session.machine := by
  rw [after, tryChange, EStateM.run_bind, EStateM.run_get]
  dsimp only
  cases move session.machine <;> rfl

theorem performAll_cons_fst (session : Session) (call : Call) (history : List Call) :
    (session.performAll (call :: history)).1 =
      (session.perform call).1 :: ((session.perform call).2.performAll history).1 :=
  rfl

theorem performAll_cons_snd (session : Session) (call : Call) (history : List Call) :
    (session.performAll (call :: history)).2 = ((session.perform call).2.performAll history).2 :=
  rfl

/-- The session once a fault has been reported. -/
def reporting (session : Session) (error : Error) : Session :=
  (session.note ⟨"ERROR", error.report⟩).note ⟨"DEBUG", session.machine.report⟩

/-- A check fails with the error that the recorded fault stands for, and reports it. -/
theorem run_check (session : Session) :
    check.run session =
      match session.machine.recordedError with
      | .ok none => .ok () session
      | .ok (some error) => .error error (session.reporting error)
      | .error cause => .error cause session := by
  rw [check, EStateM.run_bind, EStateM.run_get]
  dsimp only
  rcases session.machine.recordedError with cause | (_ | error)
  · rfl
  · rfl
  · rfl

/-- Whether a check lets the session go on. -/
def IsClear (session : Session) : Prop := session.machine.recordedError = .ok none

theorem isClear_iff : session.IsClear ↔ session.machine.fault = Fault.clear.code :=
  Machine.recordedError_eq_ok_none_iff

/-- What begins with a check fails with the error of a recorded fault, and does nothing
but report it. -/
theorem run_check_bind_of_fault {error : Error}
    (faulted : session.machine.recordedError = .ok (some error)) (next : Action α) :
    (do check; next).run session = .error error (session.reporting error) := by
  rw [EStateM.run_bind, run_check, faulted]

/-- A session that does not pass the check fails in the same way whatever was to come
after it. -/
theorem run_check_bind_of_not_isClear (faulted : ¬ session.IsClear) (first second : Action α) :
    (do check; first).run session = (do check; second).run session := by
  rw [EStateM.run_bind, EStateM.run_bind, run_check]
  rcases reported : session.machine.recordedError with cause | (_ | error)
  · rfl
  · exact absurd reported faulted
  · rfl

/-! ## Steps and runs -/

/-- A number of steps between two checks. -/
def batch (count : Nat) : Action Mode := do
  check
  change (·.run count)
  check
  status

/-- How a batch ends: with a check, and the mode of the machine if that is passed. -/
def settle : Action Mode := do
  check
  status

theorem run_settle_of_isClear (clear : session.IsClear) :
    settle.run session = .ok session.machine.mode session := by
  rw [settle, EStateM.run_bind, run_check, clear]
  rfl

theorem run_settle_of_fault {error : Error}
    (faulted : session.machine.recordedError = .ok (some error)) :
    settle.run session = .error error (session.reporting error) :=
  run_check_bind_of_fault faulted status

theorem exists_run_settle_of_not_isClear (faulted : ¬ session.IsClear) :
    ∃ error last, settle.run session = .error error last ∧ last.machine = session.machine := by
  rw [settle, EStateM.run_bind, run_check]
  rcases reported : session.machine.recordedError with cause | (_ | error)
  · exact ⟨_, _, rfl, rfl⟩
  · exact absurd reported faulted
  · exact ⟨_, _, rfl, rfl⟩

theorem machine_after_settle (session : Session) :
    (session.after settle).machine = session.machine := by
  rw [after, settle, EStateM.run_bind, run_check]
  rcases session.machine.recordedError with cause | (_ | error)
  · rfl
  · rfl
  · rfl

theorem run_batch_of_isClear (clear : session.IsClear) (count : Nat) :
    (batch count).run session =
      settle.run { session with machine := session.machine.run count } := by
  rw [batch, EStateM.run_bind, run_check, clear]
  rfl

theorem run_batch_of_not_isClear (faulted : ¬ session.IsClear) (count : Nat) :
    (batch count).run session = settle.run session :=
  run_check_bind_of_not_isClear faulted _ _

theorem step_eq_batch : Session.step = batch 1 := rfl

theorem run_eq_checked {cycles : Int} (nonneg : 0 ≤ cycles) :
    Session.run cycles = (do
      check
      tryChange (·.runChecked cycles)
      check
      status) :=
  if_neg (Int.not_lt.mpr nonneg)

theorem run_eq_throw {cycles : Int} (negative : cycles < 0) :
    Session.run cycles = throw (.negativeCycles cycles) :=
  if_pos negative

theorem tryChange_eq_change {move : Machine → Except Error Machine} {next : Machine → Machine}
    (moves : ∀ machine, move machine = .ok (next machine)) : tryChange move = change next := by
  funext session
  show (tryChange move).run session = _
  rw [tryChange, EStateM.run_bind, EStateM.run_get]
  dsimp only
  rw [moves]
  rfl

/-- A run whose length is a 32-bit number is a batch. -/
theorem run_eq_batch {cycles : Int} (nonneg : 0 ≤ cycles) (fits : Width.signed32.Holds cycles) :
    Session.run cycles = batch cycles.toNat := by
  rw [run_eq_checked nonneg, tryChange_eq_change fun machine => machine.runChecked_of_holds fits]
  rfl

/-- Beyond 32 bits a run is refused, unless a fault is to be reported before. -/
theorem run_run_of_not_holds {cycles : Int} (nonneg : 0 ≤ cycles)
    (wide : ¬ Width.signed32.Holds cycles) (clear : session.IsClear) :
    (Session.run cycles).run session = .error (.numberOutOfRange cycles) session := by
  rw [run_eq_checked nonneg, EStateM.run_bind, run_check, clear]
  dsimp only
  rw [EStateM.run_bind, tryChange, EStateM.run_bind, EStateM.run_get]
  dsimp only
  rw [Machine.runChecked_of_not_holds _ wide]
  rfl

/-- Before a session with a recorded fault does anything, it reports the fault, whatever
number of steps it is to run. -/
theorem run_run_of_not_isClear (faulted : ¬ session.IsClear) {cycles : Int}
    (nonneg : 0 ≤ cycles) (count : Nat) :
    (Session.run cycles).run session = (batch count).run session := by
  rw [run_eq_checked nonneg]
  exact run_check_bind_of_not_isClear faulted _ _

/-! ## Programs -/

/-- A program that can be read is loaded into a machine that was switched off and on. -/
theorem run_load (session : Session) {program : ByteData} {bytes : List UInt8}
    (read : Memory.programBytes program programStart = .ok bytes) (clearFlags : Bool) :
    (Session.load program clearFlags).run session =
      .ok () ({ session with
        machine := { session.machine.restarted clearFlags with
          memory := (session.machine.restarted clearFlags).memory.write programStart bytes }
        program := some bytes }.note
          ⟨"INFO", "Loaded ROM (" ++ toString bytes.length ++ " bytes)"⟩) := by
  have reset : session.machine.reset (some (.bytes bytes)) clearFlags = _ :=
    (session.machine.restarted clearFlags).load_bytes (Memory.fits_of_programBytes read)
  rw [Session.load, read]
  dsimp only
  rw [EStateM.run_bind, tryChange, EStateM.run_bind, EStateM.run_get]
  dsimp only
  rw [reset]
  rfl

theorem machine_perform_load_bytes (session : Session) {bytes : List UInt8}
    (fits : programStart + bytes.length ≤ 4096) (clearFlags : Bool) :
    (session.perform (.load (.bytes bytes) clearFlags)).2.machine =
      { session.machine.restarted clearFlags with
        memory := (session.machine.restarted clearFlags).memory.write programStart bytes } := by
  rw [perform_snd, Call.action, after, EStateM.run_bind,
    run_load session (Memory.programBytes_bytes fits)]
  rfl

theorem run_load_of_error (session : Session) {program : ByteData} {cause : Error}
    (unread : Memory.programBytes program programStart = .error cause) (clearFlags : Bool) :
    (Session.load program clearFlags).run session = .error cause session := by
  rw [Session.load, unread]
  rfl

end Session

end Chip8
