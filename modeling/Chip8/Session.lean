/-
# Sessions

A session is a machine as a front end drives it.  It keeps the program that was
loaded last, runs a frame's worth of instructions at a time, and turns a recorded
fault into an error each time something is to be executed.  What it reports goes
through its logger into a transcript.
-/
import Chip8.Machine.Access
import Chip8.Machine.Report
import Chip8.Log
import Chip8.Picture

namespace Chip8

/-- A machine together with what a front end needs to know about it. -/
structure Session where
  machine : Machine
  /-- The program that was loaded last. -/
  program : Option (List UInt8)
  instructionsPerFrame : Nat
  logger : Logger
  /-- The lines that were written so far. -/
  transcript : List String
deriving DecidableEq

/-- How a front end sets a session up. -/
structure SessionOptions where
  dialect : Dialect.Choice
  seed : Int
  instructionFrequency : Int
  timerFrequency : Int
  logger : Logger
deriving DecidableEq

namespace Session

/-- The stamp in front of the lines of a logger that tells the time.  A session
keeps no clock. -/
def timeStamp : String := "[TIME]"

/-- The logger of a session that is given none: it reports warnings and worse. -/
def defaultLogger : Logger := ⟨"Machine", "WARNING", false, timeStamp⟩

/-- The number of instructions between two ticks of the timers, at least one. -/
def frameLength (instructionFrequency timerFrequency : Int) : Nat :=
  max 1 (instructionFrequency / timerFrequency).toNat

/-- Set a session up.  The frequencies are checked before the dialect, and the seed
last. -/
def create (options : SessionOptions) : Except Error Session := do
  if options.instructionFrequency ≤ 0 ∨ options.timerFrequency ≤ 0 then
    throw .frequencyNotPositive
  let dialect ← options.dialect.resolve
  let randomKey ← RandomKey.ofSeed? options.seed
  return {
    machine := .powerOn randomKey dialect
    program := none
    instructionsPerFrame := frameLength options.instructionFrequency options.timerFrequency
    logger := options.logger
    transcript := [] }

/-- Write a message. -/
def note (session : Session) (entry : LogEntry) : Session :=
  { session with transcript := session.transcript ++ session.logger.lines [entry] }

/-- Something that a front end does with a session: it ends with a result or with
an error, and in both cases with the session as it has become. -/
abbrev Action (α : Type) := EStateM Error Session α

/-- Change the machine. -/
def change (move : Machine → Machine) : Action Unit :=
  modify fun session => { session with machine := move session.machine }

/-- Change the machine, unless that fails. -/
def tryChange (move : Machine → Except Error Machine) : Action Unit := do
  match move (← get).machine with
  | .ok machine => change fun _ => machine
  | .error error => throw error

/-- Ask the machine something. -/
def ask {α : Type} (question : Machine → Except Error α) : Action α := do
  match question (← get).machine with
  | .ok answer => return answer
  | .error error => throw error

/-- Fail when the machine has recorded a fault, and report the failure: the error
itself, and the registers for those who look for its cause. -/
def check : Action Unit := do
  let machine := (← get).machine
  match machine.recordedError with
  | .error error => throw error
  | .ok none => return ()
  | .ok (some error) =>
    modify (·.note ⟨"ERROR", error.report⟩)
    modify (·.note ⟨"DEBUG", machine.report⟩)
    throw error

/-- The mode of the machine. -/
def status : Action Mode := return (← get).machine.mode

/-- Load a program into a machine that was switched off and on. -/
def load (program : ByteData) (clearFlags : Bool) : Action Unit := do
  match Memory.programBytes program programStart with
  | .error error => throw error
  | .ok bytes =>
    tryChange fun machine => machine.reset (some (.bytes bytes)) clearFlags
    modify fun session => { session with program := some bytes }
    modify (·.note ⟨"INFO", "Loaded ROM (" ++ toString bytes.length ++ " bytes)"⟩)

/-- Switch the machine off and on and load the last program again, if there is
one. -/
def reset : Action Unit := do
  let program := (← get).program
  tryChange fun machine => machine.reset (program.map ByteData.bytes) false
  modify (·.note ⟨"INFO", "Machine reset"⟩)

/-- Execute one instruction. -/
def step : Action Mode := do
  check
  change Machine.step
  check
  status

/-- Execute a number of instructions, fewer when the machine halts or is done.  A
negative number is refused before a recorded fault is reported, and one beyond 32
bits after it. -/
def run (cycles : Int) : Action Mode := do
  if cycles < 0 then throw (.negativeCycles cycles)
  check
  tryChange (·.runChecked cycles)
  check
  status

/-- Count the timers down. -/
def tick : Action Unit := change Machine.tick

/-- Execute the instructions of a frame, and count the timers down unless a fault
came up. -/
def runFrame : Action Mode := do
  let mode ← run (← get).instructionsPerFrame
  tick
  return mode

/-- The mode and the registers after each of a number of steps. -/
def trace : Nat → Action (List String)
  | 0 => return []
  | count + 1 => do
    let mode ← step
    let line := mode.name ++ " " ++ (← get).machine.report
    let rest ← trace count
    return line :: rest

/-- The value of a register. -/
def getRegister (index : Int) : Action UInt8 := ask (·.getRegister index)

/-- Write a register. -/
def setRegister (index value : Int) : Action Unit := tryChange (·.setRegister index value)

/-- Press or release a key. -/
def setKey (index : Int) (pressed : Bool) : Action Unit := tryChange (·.setKey index pressed)

/-- Whether a key is pressed. -/
def isPressed (index : Int) : Action Bool := ask (·.isPressed index)

/-- The picture of the active part of the screen, on a host with some room. -/
def picture (scale : Int) (colours : Palette.Choice) (room : Nat) : Action Picture :=
  ask fun machine =>
    Picture.ofBitmap? (machine.screen.active machine.resolution) scale colours room

/-- The error that the recorded fault stands for, if a fault is recorded. -/
def recordedError : Action (Option Error) := ask Machine.recordedError

end Session

end Chip8
