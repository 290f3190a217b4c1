/-
# Host access

What a host may do to a machine from outside: load a program, switch it off and on,
run it, count the timers down, press keys, and read and write registers.  An index
or a setting that makes no sense is refused, and the machine stays as it is.
-/
import Chip8.Machine.Cycle
import Chip8.ByteData

namespace Chip8.Machine

/-- Copy a program into memory from `origin` on. -/
def load (machine : Machine) (program : ByteData) (origin : Int) : Except Error Machine := do
  let bytes ← Memory.programBytes program origin
  let memory ← machine.memory.load bytes origin
  return { machine with memory := memory }

/-- Switch a machine off and on.  The random key and the dialect stay, and so do
the flag registers unless they are to be cleared.  Then a program is loaded, if one
is given. -/
def reset (machine : Machine) (program : Option ByteData) (clearFlags : Bool) :
    Except Error Machine :=
  let fresh := powerOn machine.randomKey machine.dialect
  let kept := if clearFlags then fresh else { fresh with flags := machine.flags }
  match program with
  | none => .ok kept
  | some data => kept.load data programStart

/-- Take a number of steps, which must be a 32-bit number; a negative number takes
none. -/
def runChecked (machine : Machine) (count : Int) : Except Error Machine := do
  Width.signed32.check count
  return machine.run count.toNat

theorem runChecked_of_holds (machine : Machine) {count : Int}
    (fits : Width.signed32.Holds count) :
    machine.runChecked count = .ok (machine.run count.toNat) := by
  rw [runChecked, (Width.check_eq_ok_iff _ _).mpr fits]
  rfl

theorem runChecked_of_not_holds (machine : Machine) {count : Int}
    (wide : ¬ Width.signed32.Holds count) :
    machine.runChecked count = .error (.numberOutOfRange count) := by
  rw [runChecked, Width.check, if_neg wide]
  rfl

/-- The register of an index, if there is one. -/
def registerOfIndex (index : Int) : Except Error Register :=
  if inRange : 0 ≤ index ∧ index < 16 then
    .ok ⟨index.toNat, Keypad.toNat_lt_of_inRange inRange⟩
  else .error (.invalidRegister index)

/-- The value of the register of an index. -/
def getRegister (machine : Machine) (index : Int) : Except Error UInt8 :=
  (registerOfIndex index).map machine.v

/-- Write the register of an index; of the value the low eight bits count. -/
def setRegister (machine : Machine) (index value : Int) : Except Error Machine :=
  (registerOfIndex index).map fun x => machine.write x (UInt8.ofInt value)

/-- Press or release the key of an index. -/
def setKey (machine : Machine) (index : Int) (pressed : Bool) : Except Error Machine :=
  (Keypad.ofIndex index).map fun key =>
    { machine with keypad := machine.keypad.set key pressed }

/-- Whether the key of an index is pressed. -/
def isPressed (machine : Machine) (index : Int) : Except Error Bool :=
  (Keypad.ofIndex index).map machine.keypad.isPressed

/-- One less, or zero. -/
def countDown (timer : UInt8) : UInt8 := if timer = 0 then 0 else timer - 1

/-- Count both timers down. -/
def tick (machine : Machine) : Machine :=
  { machine with
    delayTimer := countDown machine.delayTimer
    soundTimer := countDown machine.soundTimer }

/-- Set the delay timer to a 32-bit number, of which the low eight bits count. -/
def setDelay (machine : Machine) (value : Int) : Except Error Machine := do
  Width.signed32.check value
  return { machine with delayTimer := UInt8.ofInt value }

/-- Set the sound timer to a 32-bit number, of which the low eight bits count. -/
def setSound (machine : Machine) (value : Int) : Except Error Machine := do
  Width.signed32.check value
  return { machine with soundTimer := UInt8.ofInt value }

/-- Whether a tone is to be heard. -/
def soundActive (machine : Machine) : Bool := machine.soundTimer != 0

/-- Select the resolution that a setting names. -/
def setResolution (machine : Machine) (setting : Setting) : Except Error Machine :=
  (Resolution.ofSetting setting).map machine.selectResolution

/-- Write one byte of memory. -/
def writeByte (machine : Machine) (address value : Int) : Except Error Machine :=
  (machine.memory.writeByte address value).map fun memory => { machine with memory := memory }

/-- A run of bytes of memory.  Its start and its length must be 32-bit numbers; a
negative length gives no bytes. -/
def readSpan (machine : Machine) (start length : Int) : Except Error (List UInt8) := do
  Width.signed32.check start
  Width.signed32.check length
  return machine.memory.span start length.toNat

/-- Apply a change when a range of addresses ends within memory, and halt otherwise.
Both numbers of the range must be 32-bit numbers. -/
def guard (machine : Machine) (start length : Int) (change : Machine → Machine) :
    Except Error Machine := do
  Width.signed32.check start
  Width.signed32.check length
  return machine.guardRange start length change

/-- Draw a sprite of a host, and say whether a lit pixel went out.  The position must
consist of 32-bit numbers, unless the sprite has no rows and nothing is drawn. -/
def drawNumbers (machine : Machine) (x y : Int) (wide : Bool) (numbers : List Int) :
    Except Error (Machine × Bool) := do
  let sprite ← Sprite.ofNumbers wide numbers
  if sprite.rows.isEmpty then return (machine, false)
  Width.signed32.check x
  Width.signed32.check y
  let drawn := machine.screen.draw machine.resolution x y sprite
  return ({ machine with screen := drawn.1 }, drawn.2)

/-- Move the picture down by a 32-bit number of rows. -/
def scrollDown (machine : Machine) (rows : Int) : Except Error Machine := do
  Width.signed32.check rows
  return { machine with screen := machine.screen.scrollDown machine.resolution rows }

/-- Execute a 32-bit number, which need not be a 16-bit word. -/
def executeChecked (machine : Machine) (number : Int) : Except Error Machine := do
  Width.signed32.check number
  return machine.executeNumber number

/-- Record the mode of a code, which must fit in a byte and have a meaning. -/
def setMode (machine : Machine) (code : Int) : Except Error Machine := do
  Width.byte.check code
  match Mode.ofCode? (UInt8.ofInt code) with
  | some mode => return { machine with mode := mode }
  | none => throw (.unknownMode (UInt8.ofInt code))

/-- Stop execution and record a fault by its code, which must fit in a byte but need
not have a meaning, and a 32-bit number that it is about. -/
def haltWithCode (machine : Machine) (code info : Int) : Except Error Machine := do
  Width.byte.check code
  Width.signed32.check info
  return { machine with mode := .halted, fault := UInt8.ofInt code, faultInfo := info }

/-- The error that the recorded fault stands for, if a fault is recorded.  A code
without a meaning is an error of its own.  An invalid opcode stood two bytes before
the program counter; the other faults name what they are about themselves. -/
def recordedError (machine : Machine) : Except Error (Option Error) :=
  match Fault.ofCode? machine.fault with
  | none => .error (.unknownFault machine.fault)
  | some .clear => .ok none
  | some .addressOutOfRange => .ok (some (.addressOutOfRange machine.faultInfo))
  | some .stackOverflow => .ok (some (.stackOverflow (some machine.faultInfo)))
  | some .stackUnderflow => .ok (some (.stackUnderflow (some machine.faultInfo)))
  | some .invalidOpcode =>
    .ok (some (.invalidOpcode machine.faultInfo (some (machine.pc.toNat - 2))))
  | some .invalidRegister => .ok (some (.invalidRegister machine.faultInfo))

/-- Fail with the error that the recorded fault stands for. -/
def raiseFault (machine : Machine) : Except Error Unit :=
  match machine.recordedError with
  | .error error => .error error
  | .ok none => .ok ()
  | .ok (some error) => .error error

end Chip8.Machine
