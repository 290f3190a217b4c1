/-
# Sessions that are alike

A session answers a call from its machine, its program and the length of its frames, and
what becomes of these three depends on nothing else.  In particular nothing that a session
does depends on its logger or on what was written before.

Actions with this property are closed under sequencing, so that `respects_action` goes
through the calls as the actions are built.  The length of frames counts only where frames
are run; `Alike` and `Respects` say under which condition it is looked at.
-/
import Chip8.Proofs.Session.Outcome

namespace Chip8.Session

variable {α β : Type} {frames : Prop} {first second : Session}

/-- Two sessions have the same machine and the same program and, if this is asked for, frames
of the same length. -/
structure Alike (frames : Prop) (first second : Session) : Prop where
  machine : first.machine = second.machine
  program : first.program = second.program
  pace : frames → first.instructionsPerFrame = second.instructionsPerFrame

/-- Two actions ended in the same way, with sessions that are alike. -/
def EndAlike (frames : Prop) :
    EStateM.Result Error Session α → EStateM.Result Error Session α → Prop
  | .ok value first, .ok other second => value = other ∧ Alike frames first second
  | .error error first, .error other second => error = other ∧ Alike frames first second
  | _, _ => False

/-- An action ends in the same way from sessions that are alike. -/
def Respects (frames : Prop) (action : Action α) : Prop :=
  ∀ first second, Alike frames first second →
    EndAlike frames (action.run first) (action.run second)

/-! ## Actions -/

theorem respects_pure (value : α) : Respects frames (pure value) :=
  fun _ _ alike => ⟨rfl, alike⟩

theorem respects_throw (cause : Error) : Respects frames (throw cause : Action α) :=
  fun _ _ alike => ⟨rfl, alike⟩

theorem respects_note (entry : LogEntry) : Respects frames (modify (·.note entry)) :=
  fun _ _ alike => ⟨rfl, alike.machine, alike.program, alike.pace⟩

theorem respects_change (move : Machine → Machine) : Respects frames (change move) :=
  fun _ _ alike => ⟨rfl, congrArg move alike.machine, alike.program, alike.pace⟩

/-- Actions that follow each other respect likeness when each of them does. -/
theorem Respects.bind {action : Action α} {next : α → Action β} (here : Respects frames action)
    (later : ∀ value, Respects frames (next value)) : Respects frames (action >>= next) := by
  intro first second alike
  have ended := here first second alike
  rw [EStateM.run_bind, EStateM.run_bind]
  cases firstEnd : action.run first <;> cases secondEnd : action.run second <;>
    rw [firstEnd, secondEnd] at ended
  case ok.ok value middle other middleToo =>
    obtain ⟨rfl, alike⟩ := ended
    exact later value middle middleToo alike
  case error.error => exact ended
  all_goals exact ended.elim

/-- An action may go on from what sessions that are alike have in common. -/
theorem respects_get {next : Session → Action α}
    (same : ∀ first second, Alike frames first second → next first = next second)
    (later : ∀ session, Respects frames (next session)) :
    Respects frames (do next (← get)) := by
  intro first second alike
  rw [EStateM.run_bind, EStateM.run_bind, EStateM.run_get, EStateM.run_get]
  dsimp only
  rw [same first second alike]
  exact later second first second alike

theorem respects_tryChange (move : Machine → Except Error Machine) :
    Respects frames (tryChange move) := by
  refine respects_get ?_ ?_
  · intro first second alike
    rw [alike.machine]
  · intro session
    cases move session.machine with
    | ok machine => exact respects_change _
    | error cause => exact respects_throw cause

theorem respects_ask (question : Machine → Except Error α) : Respects frames (ask question) := by
  refine respects_get ?_ ?_
  · intro first second alike
    rw [alike.machine]
  · intro session
    cases question session.machine with
    | ok answer => exact respects_pure answer
    | error cause => exact respects_throw cause

/-- What is read off the machine is the same in sessions that are alike. -/
theorem respects_look (look : Machine → α) :
    Respects frames (do return look (← get).machine) := by
  refine respects_get ?_ fun _ => respects_pure _
  intro first second alike
  rw [alike.machine]

theorem respects_check : Respects frames check := by
  refine respects_get ?_ ?_
  · intro first second alike
    rw [alike.machine]
  · intro session
    dsimp only
    rcases session.machine.recordedError with cause | (_ | error)
    · exact respects_throw cause
    · exact respects_pure ()
    · exact (respects_note _).bind fun _ => (respects_note _).bind fun _ => respects_throw error

/-! ## Calls -/

theorem respects_load (program : ByteData) (clearFlags : Bool) :
    Respects frames (Session.load program clearFlags) := by
  unfold Session.load
  split
  · exact respects_throw _
  · rename_i bytes _
    refine (respects_tryChange _).bind fun _ => Respects.bind ?_ fun _ => respects_note _
    exact fun _ _ alike => ⟨rfl, alike.machine, rfl, alike.pace⟩

theorem respects_reset : Respects frames Session.reset := by
  refine respects_get ?_ fun _ => (respects_tryChange _).bind fun _ => respects_note _
  intro first second alike
  rw [alike.program]

theorem respects_status : Respects frames status := respects_look Machine.mode

theorem respects_step : Respects frames Session.step :=
  respects_check.bind fun _ => (respects_change _).bind fun _ => respects_check.bind fun _ =>
    respects_status

theorem respects_run (cycles : Int) : Respects frames (Session.run cycles) := by
  by_cases negative : cycles < 0
  · rw [run_eq_throw negative]
    exact respects_throw _
  · rw [run_eq_checked (Int.not_lt.mp negative)]
    exact respects_check.bind fun _ => (respects_tryChange _).bind fun _ =>
      respects_check.bind fun _ => respects_status

theorem respects_runFrame (paced : frames) : Respects frames Session.runFrame := by
  refine respects_get ?_ fun _ => (respects_run _).bind fun _ => (respects_change _).bind fun _ =>
    respects_pure _
  intro first second alike
  rw [alike.pace paced]

/-- Each call respects likeness, when the length of frames is looked at if frames are run. -/
theorem respects_action (call : Call) (paced : call = .runFrame → frames) :
    Respects frames call.action := by
  cases call with
  | load program clearFlags =>
    exact (respects_load program clearFlags).bind fun _ => respects_pure _
  | reset => exact respects_reset.bind fun _ => respects_pure _
  | step => exact respects_step.bind fun _ => respects_pure _
  | run cycles => exact (respects_run cycles).bind fun _ => respects_pure _
  | runFrame => exact (respects_runFrame (paced rfl)).bind fun _ => respects_pure _
  | tick => exact (respects_change _).bind fun _ => respects_pure _
  | getRegister index => exact (respects_ask _).bind fun _ => respects_pure _
  | setRegister index value => exact (respects_tryChange _).bind fun _ => respects_pure _
  | setKey index pressed => exact (respects_tryChange _).bind fun _ => respects_pure _
  | isPressed index => exact (respects_ask _).bind fun _ => respects_pure _
  | lowestKey => exact respects_look fun machine => Reply.key machine.keypad.lowest?
  | soundActive => exact respects_look fun machine => Reply.truth machine.soundActive
  | screen =>
    exact respects_look fun machine =>
      Reply.screen machine.resolution (machine.screen.active machine.resolution)
  | picture scale colours room => exact (respects_ask _).bind fun _ => respects_pure _
  | status => exact respects_status.bind fun _ => respects_pure _
  | recordedError => exact (respects_ask _).bind fun _ => respects_pure _

theorem Alike.perform (alike : Alike frames first second) (call : Call)
    (paced : call = .runFrame → frames) :
    (first.perform call).1 = (second.perform call).1 ∧
      Alike frames (first.perform call).2 (second.perform call).2 := by
  have ended := respects_action call paced first second alike
  rw [Session.perform, Session.perform]
  cases firstEnd : call.action.run first <;> cases secondEnd : call.action.run second <;>
    rw [firstEnd, secondEnd] at ended
  case ok.ok => exact ⟨congrArg Except.ok ended.1, ended.2⟩
  case error.error => exact ⟨congrArg Except.error ended.1, ended.2⟩
  all_goals exact ended.elim

/-- Sessions that are alike have the same outcomes over every history of calls, and are alike
after it. -/
theorem Alike.performAll (alike : Alike frames first second) {history : List Call}
    (paced : .runFrame ∈ history → frames) :
    (first.performAll history).1 = (second.performAll history).1 ∧
      Alike frames (first.performAll history).2 (second.performAll history).2 := by
  induction history generalizing first second with
  | nil => exact ⟨rfl, alike⟩
  | cons call history ih =>
    obtain ⟨outcome, next⟩ := alike.perform call fun frame =>
      paced (frame ▸ List.mem_cons_self)
    obtain ⟨outcomes, last⟩ := ih next fun later => paced (List.mem_cons_of_mem call later)
    refine ⟨?_, last⟩
    rw [performAll_cons_fst, performAll_cons_fst, outcome, outcomes]

end Chip8.Session
