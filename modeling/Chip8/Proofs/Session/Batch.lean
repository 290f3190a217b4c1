/-
# Batches of steps

A run of a session looks for a recorded fault before all its steps and after them, but
not in between.  Single steps look around each one.  Both come to the same: a fault is
recorded by the last step that does anything, so the steps of the run that follow it
leave the machine, and with it the report, as they are.

The main result is `run_agrees_with_single_steps`.  It holds as far as a run goes at all:
a number of steps beyond 32 bits is refused.
-/
import Chip8.Proofs.Session.Invariant

namespace Chip8

theorem Width.signed32_holds_of_le {number : Int} (positive : 1 ≤ number)
    (fits : number ≤ 0x7FFFFFFF) : Width.signed32.Holds number :=
  signed32_holds_of_nonneg (Int.le_of_lt positive) fits

namespace Machine

variable {machine : Machine}

/-- A step that records a fault is the last one that does anything. -/
theorem clear_or_stopped_step (clear : machine.fault = Fault.clear.code) :
    machine.step.fault = Fault.clear.code ∨ machine.step.mode.isLive = false := by
  refine machine.step_elim ?stopped ?outside ?refused ?executed
  case stopped => exact fun _ => .inl clear
  case outside => exact fun _ _ => .inr rfl
  case refused => exact fun _ _ _ _ _ => .inr rfl
  case executed =>
    intro _ _ instruction _ accepted
    left
    rw [fault_execute accepted]
    exact clear

theorem clear_or_stopped_run (clear : machine.fault = Fault.clear.code) (count : Nat) :
    (machine.run count).fault = Fault.clear.code ∨ (machine.run count).mode.isLive = false := by
  induction count generalizing machine with
  | zero => exact .inl clear
  | succ count ih =>
    rcases clear_or_stopped_step clear with goesOn | stopped
    · exact ih goesOn
    · rw [run, run_of_not_live stopped]
      exact .inr stopped

end Machine

namespace Session

variable {session : Session}

/-- Take single steps, one after the other, and stop at the first error. -/
def stepRepeatedly : Nat → Action Mode
  | 0 => status
  | 1 => Session.step
  | count + 2 => do
    let _ ← Session.step
    stepRepeatedly (count + 1)

/-! ## Batches follow each other -/

/-- The check at the end of a batch may be left out when another batch follows, since
that one does nothing to a machine with a fault. -/
theorem run_settle_bind_batch (count : Nat)
    (stays : ¬ session.IsClear → session.machine.run count = session.machine) :
    (do let _ ← settle; batch count).run session =
      settle.run { session with machine := session.machine.run count } := by
  rw [EStateM.run_bind]
  by_cases clear : session.IsClear
  · rw [run_settle_of_isClear clear]
    exact run_batch_of_isClear clear count
  · rw [stays clear]
    obtain ⟨error, last, failed, -⟩ := exists_run_settle_of_not_isClear clear
    rw [failed]

theorem batch_add (first second : Nat) :
    batch (first + second) = (do let _ ← batch first; batch second) := by
  funext session
  show (batch (first + second)).run session = EStateM.run _ session
  by_cases clear : session.IsClear
  · let halfway : Session := { session with machine := session.machine.run first }
    have stays : ¬ halfway.IsClear → halfway.machine.run second = halfway.machine := by
      intro faulted
      rcases Machine.clear_or_stopped_run (isClear_iff.mp clear) first with unfaulted | stopped
      · exact absurd (isClear_iff.mpr unfaulted) faulted
      · exact Machine.run_of_not_live stopped second
    have parts : session.machine.run (first + second) = halfway.machine.run second :=
      session.machine.run_add first second
    have followed := run_settle_bind_batch second stays
    rw [EStateM.run_bind, ← run_batch_of_isClear clear, ← EStateM.run_bind] at followed
    rw [followed, run_batch_of_isClear clear, parts]
  · obtain ⟨error, last, failed, -⟩ := exists_run_settle_of_not_isClear clear
    rw [EStateM.run_bind, run_batch_of_not_isClear clear, run_batch_of_not_isClear clear, failed]

theorem stepRepeatedly_eq_batch {count : Nat} (positive : 1 ≤ count) :
    stepRepeatedly count = batch count := by
  obtain ⟨more, rfl⟩ := Nat.exists_eq_add_of_le' positive
  clear positive
  induction more with
  | zero => exact step_eq_batch
  | succ more ih =>
    calc stepRepeatedly (more + 2)
        = (do let _ ← Session.step; stepRepeatedly (more + 1)) := rfl
      _ = (do let _ ← batch 1; batch (more + 1)) := by rw [ih, step_eq_batch]
      _ = batch (1 + (more + 1)) := (batch_add _ _).symm
      _ = batch (more + 2) := by rw [Nat.add_comm]

/-- A batch leaves a session alone whose machine takes no steps. -/
theorem run_batch_of_stopped (clear : session.IsClear)
    (stopped : session.machine.mode.isLive = false) (count : Nat) :
    (batch count).run session = .ok session.machine.mode session := by
  rw [run_batch_of_isClear clear, Machine.run_of_not_live stopped]
  exact run_settle_of_isClear clear

/-! ## Runs and single steps -/

/-- A run is the same as single steps that stop at the first error: both end with the
same value or error and leave the same session.  Two runs are the same as one of their
joint length.  Without a recorded fault, this goes as far as the numbers of steps have
32 bits; a longer run is refused and leaves the session as it is. -/
theorem run_agrees_with_single_steps (session : Session) :
    (∀ cycles : Int, 1 ≤ cycles → cycles ≤ 0x7FFFFFFF ∨ ¬ session.IsClear →
      (Session.run cycles).run session = (stepRepeatedly cycles.toNat).run session) ∧
    (∀ first second : Int, 1 ≤ first → 1 ≤ second →
      first + second ≤ 0x7FFFFFFF ∨ ¬ session.IsClear →
      (Session.run (first + second)).run session =
        (do let _ ← Session.run first; Session.run second : Action Mode).run session) ∧
    (∀ cycles : Int, 0x7FFFFFFF < cycles → session.IsClear →
      (Session.run cycles).run session = .error (.numberOutOfRange cycles) session) := by
  refine ⟨?_, ?_, ?_⟩
  · intro cycles positive short
    rw [stepRepeatedly_eq_batch (by omega)]
    rcases short with fits | faulted
    · rw [run_eq_batch (by omega) (Width.signed32_holds_of_le positive fits)]
    · exact run_run_of_not_isClear faulted (by omega) _
  · intro first second firstPositive secondPositive short
    rcases short with fits | faulted
    · have joint : (first + second).toNat = first.toNat + second.toNat := by omega
      rw [run_eq_batch (by omega) (Width.signed32_holds_of_le (by omega) fits), joint, batch_add,
        run_eq_batch (by omega) (Width.signed32_holds_of_le firstPositive (by omega)),
        run_eq_batch (by omega) (Width.signed32_holds_of_le secondPositive (by omega))]
    · obtain ⟨error, last, failed, -⟩ := exists_run_settle_of_not_isClear faulted
      have fails {cycles : Int} (nonneg : 0 ≤ cycles) :
          (Session.run cycles).run session = .error error last := by
        rw [run_run_of_not_isClear faulted nonneg 0, run_batch_of_not_isClear faulted, failed]
      rw [EStateM.run_bind, fails (by omega), fails (by omega)]
  · intro cycles long clear
    apply run_run_of_not_holds (by omega) _ clear
    exact fun held => absurd held.2 (Int.not_le.mpr long)

/-- A program whose first word is no instruction: of three steps the first one fails. -/
theorem run_fails_as_first_step_does :
    let session := loaded [0xFF, 0xFF]
    (Session.run 3).run session = (stepRepeatedly 3).run session ∧
      (Session.run (1 + 2)).run session =
        (do let _ ← Session.run 1; Session.run 2 : Action Mode).run session ∧
      (Session.run 0x80000000).run session =
        .error (.numberOutOfRange 0x80000000) session ∧
      ∃ last,
        (stepRepeatedly 3).run session = .error (.invalidOpcode 0xFFFF (some 0x200)) last := by
  intro session
  have clear : session.IsClear := isClear_loaded (by decide)
  have halted : session.machine.step = session.machine.fetched.halt .invalidOpcode 0xFFFF :=
    step_loaded_of_unassigned 0xFF 0xFF rfl
  have reported : session.machine.step.recordedError =
      .ok (some (.invalidOpcode 0xFFFF (some 0x200))) :=
    recordedError_step_loaded_of_unassigned 0xFF 0xFF rfl
  clear_value session
  have ran : session.machine.run 3 = session.machine.step := by
    rw [Machine.run, halted, Machine.run_of_not_live rfl]
  obtain ⟨single, joint, wide⟩ := run_agrees_with_single_steps session
  refine ⟨single 3 (by decide) (.inl (by decide)),
    joint 1 2 (by decide) (by decide) (.inl (by decide)), wide _ (by decide) clear, ?_⟩
  rw [stepRepeatedly_eq_batch (by decide), run_batch_of_isClear clear, ran]
  exact ⟨_, run_settle_of_fault reported⟩

/-- A machine that is done would stay done for any number of single steps. -/
theorem wide_run_of_done_machine_is_refused :
    let session := ((loaded [0x00, 0xFD]).perform .step).2
    session.IsReachable ∧ Fault.ofCode? session.machine.fault = some .clear ∧
      (stepRepeatedly 0x80000000).run session = .ok .done session ∧
      (Session.run 0x80000000).run session =
        .error (.numberOutOfRange 0x80000000) session := by
  intro session
  have reachable : session.IsReachable := (isReachable_loaded _).perform .step
  have clear : (loaded [0x00, 0xFD]).IsClear := isClear_loaded (by decide)
  have exited : session.machine =
      { (loaded [0x00, 0xFD]).machine.fetched with mode := .done } := by
    have decoded : Instruction.decode 0x00FD = some .exit := rfl
    have exits (machine : Machine) : machine.execute .exit = { machine with mode := .done } := rfl
    rw [machine_perform_step clear, step_loaded_of_decode 0x00 0xFD decoded, exits]
  have unfaulted : session.IsClear := by
    have kept (machine : Machine) :
        ({ machine.fetched with mode := .done } : Machine).fault = machine.fault := rfl
    rw [isClear_iff, exited, kept]
    exact isClear_iff.mp clear
  have done : session.machine.mode = .done := by rw [exited]
  have stopped : session.machine.mode.isLive = false := by
    rw [done]
    rfl
  clear_value session
  refine ⟨reachable, (Fault.ofCode?_eq_some_iff _ _).mpr (isClear_iff.mp unfaulted).symm, ?_, ?_⟩
  · rw [stepRepeatedly_eq_batch (by decide), run_batch_of_stopped unfaulted stopped, done]
  · exact run_run_of_not_holds (by decide) (by decide) unfaulted

end Session

end Chip8
