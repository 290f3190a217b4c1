/-
# Calls of a machine

What a host asks of a machine, as data.  A call either changes the machine or
fails; a machine whose call failed is as it was before.  Histories are lists of
calls, and a machine that some history leads to is reachable.
-/
import Chip8.Machine.Access

namespace Chip8.Machine

/-- Something that a host asks of a machine. -/
inductive Call where
  | load (program : ByteData) (origin : Int)
  | reset (program : Option ByteData) (clearFlags : Bool)
  | step
  | run (count : Int)
  | tick
  | setKey (index : Int) (pressed : Bool)
  | setRegister (index value : Int)
  | setDelay (value : Int)
  | setSound (value : Int)
  | setResolution (setting : Setting)
deriving DecidableEq, Repr

/-- The machine after a call, unless the call fails. -/
def Call.apply (machine : Machine) : Call → Except Error Machine
  | .load program origin => machine.load program origin
  | .reset program clearFlags => machine.reset program clearFlags
  | .step => .ok machine.step
  | .run count => machine.runChecked count
  | .tick => .ok machine.tick
  | .setKey index pressed => machine.setKey index pressed
  | .setRegister index value => machine.setRegister index value
  | .setDelay value => machine.setDelay value
  | .setSound value => machine.setSound value
  | .setResolution setting => machine.setResolution setting

/-- The machine after a call; a failed call leaves it as it was. -/
def perform (machine : Machine) (call : Call) : Machine :=
  match call.apply machine with
  | .ok next => next
  | .error _ => machine

/-- The machine after a history of calls. -/
def performAll (machine : Machine) (history : List Call) : Machine :=
  history.foldl perform machine

/-- Whether some history of calls leads from a machine that was just switched on to
this one. -/
def IsReachable (machine : Machine) : Prop :=
  ∃ randomKey dialect history, machine = (powerOn randomKey dialect).performAll history

@[simp]
theorem performAll_nil (machine : Machine) : machine.performAll [] = machine := rfl

@[simp]
theorem performAll_cons (machine : Machine) (call : Call) (history : List Call) :
    machine.performAll (call :: history) = (machine.perform call).performAll history := rfl

/-- A history that follows another one goes on from where that one ended. -/
theorem performAll_append (machine : Machine) (first second : List Call) :
    machine.performAll (first ++ second) = (machine.performAll first).performAll second := by
  simp [performAll]

/-- A machine that was just switched on is reachable. -/
theorem isReachable_powerOn (randomKey : RandomKey) (dialect : Dialect) :
    (powerOn randomKey dialect).IsReachable :=
  ⟨randomKey, dialect, [], rfl⟩

/-- A call leads from a reachable machine to a reachable one. -/
theorem IsReachable.perform {machine : Machine} (reachable : machine.IsReachable) (call : Call) :
    (machine.perform call).IsReachable := by
  obtain ⟨randomKey, dialect, history, rfl⟩ := reachable
  exact ⟨randomKey, dialect, history ++ [call], by rw [performAll_append]; rfl⟩

end Chip8.Machine
