/-
# Calls that a session makes

What each call of a session makes of the machine, as calls of the machine: `played` lists
them, and `machine_perform` says that they are all that happens to it.  So a history of a
session is a history of its machine, `playedAll`, and what holds of all histories of machines
carries over.

A session does not pass everything on.  It refuses some calls itself, among them those that
are to execute something while a fault is recorded, and a frame in which a fault comes up
ends without a tick.
-/
import Chip8.Proofs.Session.Ensures

namespace Chip8

namespace Session

variable {session : Session}

instance (session : Session) : Decidable session.IsClear :=
  decidable_of_iff _ isClear_iff.symm

/-- The session after a number of steps, before it looks for a fault. -/
def afterSteps (session : Session) (count : Nat) : Session :=
  { session with machine := session.machine.run count }

/-- The calls of the machine that a frame consists of: a run, and a tick if no fault has come
up in it.  A frame of more instructions than a run can have is refused. -/
def frame (session : Session) : List Machine.Call :=
  if Width.signed32.Holds session.instructionsPerFrame then
    .run session.instructionsPerFrame ::
      if (session.afterSteps session.instructionsPerFrame).IsClear then [.tick] else []
  else []

/-- The calls of the machine that a call of the session makes, in order. -/
def played (session : Session) : Call → List Machine.Call
  | .load program clearFlags =>
    match Memory.programBytes program programStart with
    | .ok bytes => [.reset (some (.bytes bytes)) clearFlags]
    | .error _ => []
  | .reset => [.reset (session.program.map ByteData.bytes) false]
  | .step => if session.IsClear then [.step] else []
  | .run cycles => if 0 ≤ cycles ∧ session.IsClear then [.run cycles] else []
  | .runFrame => if session.IsClear then session.frame else []
  | .tick => [.tick]
  | .setRegister index value => [.setRegister index value]
  | .setKey index pressed => [.setKey index pressed]
  | _ => []

/-- The calls of the machine that a history of calls of the session makes, in order. -/
def playedAll (session : Session) : List Call → List Machine.Call
  | [] => []
  | call :: history => session.played call ++ (session.perform call).2.playedAll history

/-! ## Programs -/

theorem machine_after_load (session : Session) (program : ByteData) (clearFlags : Bool) :
    (session.after (Session.load program clearFlags)).machine =
      session.machine.performAll (session.played (.load program clearFlags)) := by
  rw [played, after]
  cases read : Memory.programBytes program programStart with
  | error cause =>
    rw [run_load_of_error session read]
    rfl
  | ok bytes =>
    have reset : session.machine.reset (some (.bytes bytes)) clearFlags = _ :=
      (session.machine.restarted clearFlags).load_bytes (Memory.fits_of_programBytes read)
    rw [run_load session read, Machine.performAll_cons, Machine.perform, Machine.Call.apply, reset]
    rfl

theorem machine_after_reset (session : Session) :
    (session.after Session.reset).machine =
      session.machine.perform (.reset (session.program.map ByteData.bytes) false) := by
  rw [after, Session.reset, EStateM.run_bind, EStateM.run_get]
  dsimp only
  rw [EStateM.run_bind, tryChange, EStateM.run_bind, EStateM.run_get]
  dsimp only
  rw [Machine.perform, Machine.Call.apply]
  cases session.machine.reset (session.program.map ByteData.bytes) false <;> rfl

/-! ## Steps and runs -/

theorem machine_after_batch (session : Session) (count : Nat) :
    (session.after (batch count)).machine =
      if session.IsClear then session.machine.run count else session.machine := by
  by_cases clear : session.IsClear
  · rw [after, run_batch_of_isClear clear, if_pos clear]
    exact machine_after_settle (session.afterSteps count)
  · rw [after, run_batch_of_not_isClear clear, if_neg clear]
    exact machine_after_settle session

theorem machine_after_step (session : Session) :
    (session.after Session.step).machine = session.machine.performAll (session.played .step) := by
  rw [step_eq_batch, machine_after_batch, played]
  by_cases clear : session.IsClear
  · rw [if_pos clear, if_pos clear]
    rfl
  · rw [if_neg clear, if_neg clear]
    rfl

theorem machine_after_run (session : Session) (cycles : Int) :
    (session.after (Session.run cycles)).machine =
      session.machine.performAll (session.played (.run cycles)) := by
  rw [played]
  by_cases nonneg : 0 ≤ cycles
  · by_cases clear : session.IsClear
    · rw [if_pos ⟨nonneg, clear⟩, Machine.performAll_cons, Machine.perform_of_steps? rfl]
      by_cases fits : Width.signed32.Holds cycles
      · rw [run_eq_batch nonneg fits, machine_after_batch, if_pos clear, if_pos fits]
        rfl
      · rw [after, run_run_of_not_holds nonneg fits clear, if_neg fits]
        rfl
    · rw [if_neg fun goes => clear goes.2, after, run_run_of_not_isClear clear nonneg 0,
        run_batch_of_not_isClear clear]
      exact machine_after_settle session
  · rw [if_neg fun goes => nonneg goes.1, run_eq_throw (Int.not_le.mp nonneg)]
    rfl

/-- A frame is a run, after which the timers count down if it has succeeded. -/
theorem run_runFrame (session : Session) :
    Session.runFrame.run session =
      match (Session.run session.instructionsPerFrame).run session with
      | .ok mode next => .ok mode { next with machine := next.machine.tick }
      | .error error last => .error error last := by
  rw [Session.runFrame, EStateM.run_bind, EStateM.run_get]
  dsimp only
  rw [EStateM.run_bind]
  cases (Session.run session.instructionsPerFrame).run session <;> rfl

theorem machine_after_runFrame (session : Session) :
    (session.after Session.runFrame).machine =
      session.machine.performAll (session.played .runFrame) := by
  have nonneg : (0 : Int) ≤ session.instructionsPerFrame := Int.natCast_nonneg _
  rw [played, after, run_runFrame]
  by_cases clear : session.IsClear
  · rw [if_pos clear, frame]
    by_cases fits : Width.signed32.Holds session.instructionsPerFrame
    · rw [run_eq_batch nonneg fits, run_batch_of_isClear clear, if_pos fits,
        Machine.performAll_cons, Machine.perform_of_steps? rfl, if_pos fits]
      by_cases passed : (session.afterSteps session.instructionsPerFrame).IsClear
      · have settled := run_settle_of_isClear passed
        rw [afterSteps] at settled
        rw [Int.toNat_natCast, settled, if_pos passed]
        rfl
      · obtain ⟨error, last, failed, same⟩ := exists_run_settle_of_not_isClear passed
        rw [afterSteps] at failed
        rw [Int.toNat_natCast, failed, if_neg passed]
        exact same
    · rw [if_neg fits, run_run_of_not_holds nonneg fits clear]
      rfl
  · obtain ⟨error, last, failed, same⟩ := exists_run_settle_of_not_isClear clear
    rw [if_neg clear, run_run_of_not_isClear clear nonneg 0, run_batch_of_not_isClear clear, failed]
    exact same

/-! ## All calls -/

/-- All that a call of a session does to the machine is what it plays. -/
theorem machine_perform (session : Session) (call : Call) :
    (session.perform call).2.machine = session.machine.performAll (session.played call) := by
  have replied {α : Type} {action : Action α} {shape : α → Reply} {calls : List Machine.Call}
      (plays : (session.after action).machine = session.machine.performAll calls) :
      (session.after (do return shape (← action))).machine = session.machine.performAll calls := by
    rw [after_bind_pure, plays]
  have asked {α : Type} {question : Machine → Except Error α} {shape : α → Reply} :
      (session.after (do return shape (← ask question))).machine = session.machine := by
    rw [after_bind_pure, after_ask]
  rw [perform_snd]
  cases call with
  | load program clearFlags => exact replied (session.machine_after_load program clearFlags)
  | reset => exact replied session.machine_after_reset
  | step => exact replied session.machine_after_step
  | run cycles => exact replied (session.machine_after_run cycles)
  | runFrame => exact replied session.machine_after_runFrame
  | setRegister index value => exact replied (machine_after_tryChange session _)
  | setKey index pressed => exact replied (machine_after_tryChange session _)
  | getRegister index => exact asked
  | isPressed index => exact asked
  | picture scale colours room => exact asked
  | recordedError => exact asked
  | _ => rfl

/-- Without a recorded fault, a step of the session is a step of its machine. -/
theorem machine_perform_step (clear : session.IsClear) :
    (session.perform .step).2.machine = session.machine.step := by
  rw [machine_perform, played, if_pos clear]
  rfl

/-- All that a history of a session does to the machine is what its calls play. -/
theorem machine_performAll (session : Session) (history : List Call) :
    (session.performAll history).2.machine =
      session.machine.performAll (session.playedAll history) := by
  induction history generalizing session with
  | nil => rfl
  | cons call history ih =>
    rw [performAll_cons_snd, ih, machine_perform, playedAll, Machine.performAll_append]

/-- A session switches its machine off and on, lets it take steps, or passes inputs on. -/
theorem isOffered_of_mem_played {call : Call} :
    ∀ played ∈ session.played call, played.isOffered = true := by
  rw [← List.all_eq_true]
  cases call with
  | load program clearFlags =>
    rw [played]
    cases Memory.programBytes program programStart <;> rfl
  | step =>
    rw [played]
    split <;> rfl
  | run cycles =>
    rw [played]
    split <;> rfl
  | runFrame =>
    rw [played, frame]
    split
    · split
      · split <;> rfl
      · rfl
    · rfl
  | _ => rfl

theorem isOffered_of_mem_playedAll {history : List Call} :
    ∀ played ∈ session.playedAll history, played.isOffered = true := by
  induction history generalizing session with
  | nil => exact List.forall_mem_nil _
  | cons call history ih =>
    exact List.forall_mem_append.mpr ⟨isOffered_of_mem_played, ih⟩

end Session

end Chip8
