/-
# Calls of a session

What a front end asks of a session, as data, and what it is told.  Two sessions can
so be compared over the same history of calls.
-/
import Chip8.Session

namespace Chip8.Session

/-- Something that a front end asks of a session. -/
inductive Call where
  | load (program : ByteData) (clearFlags : Bool)
  | reset
  | step
  | run (cycles : Int)
  | runFrame
  | tick
  | getRegister (index : Int)
  | setRegister (index value : Int)
  | setKey (index : Int) (pressed : Bool)
  | isPressed (index : Int)
  | lowestKey
  | soundActive
  | screen
  | picture (scale : Int) (colours : Palette.Choice) (room : Nat := usualRoom)
  | status
  | recordedError
deriving DecidableEq, Repr

/-- What a front end is told. -/
inductive Reply where
  | nothing
  | mode (mode : Mode)
  | value (value : UInt8)
  | truth (value : Bool)
  | key (key : Option (Fin 16))
  | screen (resolution : Resolution) (pixels : Bitmap resolution.width resolution.height)
  | picture (picture : Picture)
  | fault (error : Option Error)
deriving DecidableEq

/-- What a session does when it is called. -/
def Call.action : Call → Action Reply
  | .load program clearFlags => do
    Session.load program clearFlags
    return .nothing
  | .reset => do
    Session.reset
    return .nothing
  | .step => return .mode (← Session.step)
  | .run cycles => return .mode (← Session.run cycles)
  | .runFrame => return .mode (← Session.runFrame)
  | .tick => do
    Session.tick
    return .nothing
  | .getRegister index => return .value (← Session.getRegister index)
  | .setRegister index value => do
    Session.setRegister index value
    return .nothing
  | .setKey index pressed => do
    Session.setKey index pressed
    return .nothing
  | .isPressed index => return .truth (← Session.isPressed index)
  | .lowestKey => return .key (← get).machine.keypad.lowest?
  | .soundActive => return .truth (← get).machine.soundActive
  | .screen => do
    let machine := (← get).machine
    return .screen machine.resolution (machine.screen.active machine.resolution)
  | .picture scale colours room => return .picture (← Session.picture scale colours room)
  | .status => return .mode (← Session.status)
  | .recordedError => return .fault (← Session.recordedError)

/-- The outcome of a call: a reply or an error, and the session as it has become. -/
def perform (session : Session) (call : Call) : Except Error Reply × Session :=
  match call.action.run session with
  | .ok reply next => (.ok reply, next)
  | .error error next => (.error error, next)

/-- The outcomes of a history of calls, in order, and the session after it. -/
def performAll (session : Session) : List Call → List (Except Error Reply) × Session
  | [] => ([], session)
  | call :: history =>
    let (outcome, next) := session.perform call
    let (outcomes, last) := performAll next history
    (outcome :: outcomes, last)

/-- Whether some history of calls leads from a new session to this one. -/
def IsReachable (session : Session) : Prop :=
  ∃ options fresh history, create options = .ok fresh ∧ session = (fresh.performAll history).2

/-- A history that follows another one goes on from where that one ended. -/
theorem performAll_append (session : Session) (first second : List Call) :
    (session.performAll (first ++ second)).2 =
      ((session.performAll first).2.performAll second).2 := by
  induction first generalizing session with
  | nil => rfl
  | cons call first ih => exact ih (session.perform call).2

/-- A call leads from a reachable session to a reachable one. -/
theorem IsReachable.perform {session : Session} (reachable : session.IsReachable) (call : Call) :
    (session.perform call).2.IsReachable := by
  obtain ⟨options, fresh, history, created, rfl⟩ := reachable
  exact ⟨options, fresh, history ++ [call], created, by rw [performAll_append]; rfl⟩

end Chip8.Session
