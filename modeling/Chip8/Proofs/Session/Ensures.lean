/-
# What actions ensure

All that an action of a session can do is to call the machine, to write to the transcript
and, when it loads, to store the program.  So a relation between sessions that can be
chained holds between the session before a call and the session after it as soon as it
allows these three moves; `ensures_action` goes through the calls once for all such
relations.
-/
import Chip8.Proofs.Session.Outcome

namespace Chip8

namespace Machine

/-- Whether a call is one that a session makes of its machine: it switches the machine
off and on, lets it take steps, or is an input. -/
def Call.isOffered : Call → Bool
  | .reset _ _ => true
  | .step => true
  | .run _ => true
  | call => call.isInput

end Machine

namespace Session

/-- Whether a call is one to load a program. -/
def Call.isLoad : Call → Bool
  | .load _ _ => true
  | _ => false

variable {α β : Type} {R : Session → Session → Prop} {action : Action α}

/-- A relation between the session before an action and the session after it, whether the
action fails or not. -/
def Ensures (R : Session → Session → Prop) (action : Action α) : Prop :=
  ∀ session : Session, R session (session.after action)

/-- A relation allows any number of calls of the machine and of messages. -/
structure Allows (R : Session → Session → Prop) : Prop where
  refl : ∀ session, R session session
  trans : ∀ {first second third}, R first second → R second third → R first third
  call : ∀ (session : Session) (call : Machine.Call), call.isOffered = true →
    R session { session with machine := session.machine.perform call }
  note : ∀ session entry, R session (session.note entry)

section Actions

variable (allows : Allows R)

include allows

theorem ensures_pure (value : α) : Ensures R (pure value) := allows.refl

theorem ensures_throw (cause : Error) : Ensures R (throw cause : Action α) := allows.refl

theorem ensures_get : Ensures R (get : Action Session) := allows.refl

theorem ensures_note (entry : LogEntry) : Ensures R (modify (·.note entry)) :=
  fun session => allows.note session entry

/-- Actions that follow each other ensure what each of them ensures. -/
theorem Ensures.bind {next : α → Action β} (first : Ensures R action)
    (rest : ∀ value, Ensures R (next value)) : Ensures R (action >>= next) := by
  intro session
  have here := first session
  simp only [after, EStateM.run_bind] at here ⊢
  cases outcome : action.run session with
  | error cause last =>
    rw [outcome] at here
    exact here
  | ok value middle =>
    rw [outcome] at here
    exact allows.trans here (rest value middle)

theorem ensures_check : Ensures R check := by
  intro session
  rw [after, run_check]
  rcases session.machine.recordedError with cause | (_ | error)
  · exact allows.refl session
  · exact allows.refl session
  · exact allows.trans (allows.note session _) (allows.note _ _)

theorem ensures_ask (question : Machine → Except Error α) : Ensures R (ask question) := by
  intro session
  rw [after_ask]
  exact allows.refl session

/-- Changing the machine as a call does is allowed, also when the call fails. -/
theorem ensures_tryChange (call : Machine.Call) (offered : call.isOffered = true) :
    Ensures R (tryChange fun machine => call.apply machine) := by
  intro session
  have allowed := allows.call session call offered
  rw [Machine.perform] at allowed
  rw [after, tryChange, EStateM.run_bind, EStateM.run_get]
  dsimp only
  cases applied : call.apply session.machine with
  | error cause => exact allows.refl session
  | ok next =>
    rw [applied] at allowed
    exact allowed

theorem ensures_change (call : Machine.Call) (offered : call.isOffered = true)
    {move : Machine → Machine} (moves : ∀ machine, call.apply machine = .ok (move machine)) :
    Ensures R (change move) := by
  rw [← tryChange_eq_change moves]
  exact ensures_tryChange allows call offered

/-! ## Calls -/

theorem ensures_load (store : ∀ (session : Session) (bytes : List UInt8),
    R session { session with program := some bytes }) (program : ByteData) (clearFlags : Bool) :
    Ensures R (Session.load program clearFlags) := by
  unfold Session.load
  split
  · exact ensures_throw allows _
  · rename_i bytes _
    refine .bind allows (ensures_tryChange allows (.reset (some (.bytes bytes)) clearFlags) rfl) ?_
    intro _
    refine .bind allows (fun session => store session bytes) ?_
    intro _
    exact ensures_note allows _

theorem ensures_reset : Ensures R Session.reset := by
  refine .bind allows (ensures_get allows) ?_
  intro session
  refine .bind allows
    (ensures_tryChange allows (.reset (session.program.map ByteData.bytes) false) rfl) ?_
  intro _
  exact ensures_note allows _

theorem ensures_status : Ensures R status :=
  .bind allows (ensures_get allows) fun _ => ensures_pure allows _

theorem ensures_step : Ensures R Session.step :=
  .bind allows (ensures_check allows) fun _ =>
    .bind allows (ensures_change allows .step rfl fun _ => rfl) fun _ =>
      .bind allows (ensures_check allows) fun _ => ensures_status allows

theorem ensures_run (cycles : Int) : Ensures R (Session.run cycles) := by
  by_cases negative : cycles < 0
  · rw [run_eq_throw negative]
    exact ensures_throw allows _
  · rw [run_eq_checked (Int.not_lt.mp negative)]
    exact .bind allows (ensures_check allows) fun _ =>
      .bind allows (ensures_tryChange allows (.run cycles) rfl) fun _ =>
        .bind allows (ensures_check allows) fun _ => ensures_status allows

theorem ensures_tick : Ensures R Session.tick := ensures_change allows .tick rfl fun _ => rfl

theorem ensures_runFrame : Ensures R Session.runFrame :=
  .bind allows (ensures_get allows) fun _ => .bind allows (ensures_run allows _) fun _ =>
    .bind allows (ensures_tick allows) fun _ => ensures_pure allows _

/-- A call ensures every relation that allows what it is made of. -/
theorem ensures_action (call : Call) (store : call.isLoad = true →
    ∀ (session : Session) (bytes : List UInt8), R session { session with program := some bytes }) :
    Ensures R call.action := by
  have replied {β : Type} {action : Action β} (ensured : Ensures R action) (shape : β → Reply) :
      Ensures R (do return shape (← action)) :=
    .bind allows ensured fun _ => ensures_pure allows _
  cases call with
  | load program clearFlags => exact replied (ensures_load allows (store rfl) program clearFlags) _
  | reset => exact replied (ensures_reset allows) _
  | step => exact replied (ensures_step allows) _
  | run cycles => exact replied (ensures_run allows cycles) _
  | runFrame => exact replied (ensures_runFrame allows) _
  | tick => exact replied (ensures_tick allows) _
  | getRegister index => exact replied (ensures_ask allows _) _
  | setRegister index value =>
    exact replied (ensures_tryChange allows (.setRegister index value) rfl) _
  | setKey index pressed =>
    exact replied (ensures_tryChange allows (.setKey index pressed) rfl) _
  | isPressed index => exact replied (ensures_ask allows _) _
  | lowestKey => exact replied (ensures_get allows) _
  | soundActive => exact replied (ensures_get allows) _
  | screen => exact replied (ensures_get allows) _
  | picture scale colours room => exact replied (ensures_ask allows _) _
  | status => exact replied (ensures_status allows) _
  | recordedError => exact replied (ensures_ask allows _) _

end Actions

end Session

end Chip8
