/-
# Machine

The whole state of a machine, and the few moves that instructions are made of:
writing a register, halting with a fault, and doing something only when a range of
addresses lies in memory.
-/
import Chip8.Dialect
import Chip8.Fault
import Chip8.Font
import Chip8.CallStack
import Chip8.Keypad
import Chip8.RandomKey
import Chip8.Instruction
import Chip8.Screen

namespace Chip8

/-- Whether a machine goes on. -/
inductive Mode where
  | running
  | waitingForKey
  | halted
  | done
deriving DecidableEq, Repr

namespace Mode

/-- The name of a mode in reports. -/
def name : Mode → String
  | .running => "RUNNING"
  | .waitingForKey => "WAITING_FOR_KEY"
  | .halted => "HALTED"
  | .done => "DONE"

/-- The byte that records a mode. -/
def code : Mode → UInt8
  | .running => 0
  | .waitingForKey => 1
  | .halted => 2
  | .done => 3

/-- The mode that a byte records, if the byte has a meaning. -/
def ofCode? (code : UInt8) : Option Mode :=
  [running, waitingForKey, halted, done].find? fun mode => mode.code == code

/-- Reading a recorded mode gives it back. -/
theorem ofCode?_code (mode : Mode) : ofCode? mode.code = some mode := by
  cases mode <;> rfl

/-- Whether a machine in this mode executes further instructions. -/
def isLive : Mode → Bool
  | .running => true
  | .waitingForKey => true
  | .halted => false
  | .done => false

end Mode

/-- The register that instructions report to. -/
abbrev flagRegister : Register := ⟨15, by decide⟩

/-- The state of a machine. -/
structure Machine where
  memory : Memory
  /-- The address of the next instruction. -/
  pc : UInt16
  /-- The index register, which points at data in memory. -/
  index : UInt16
  /-- The registers `V0` to `VF`. -/
  registers : Vector UInt8 16
  stack : CallStack
  delayTimer : UInt8
  soundTimer : UInt8
  keypad : Keypad
  screen : Screen
  resolution : Resolution
  /-- Registers that outlive a reset. -/
  flags : Vector UInt8 8
  mode : Mode
  /-- The code of the recorded fault. -/
  fault : UInt8
  /-- What the recorded fault is about: an address, a word or a register. -/
  faultInfo : Int
  randomKey : RandomKey
  dialect : Dialect
deriving DecidableEq

namespace Machine

/-- A machine that was just switched on, with its random key and its dialect. -/
def powerOn (randomKey : RandomKey) (dialect : Dialect) : Machine where
  memory := Font.memory
  pc := UInt16.ofNat programStart
  index := 0
  registers := Vector.replicate 16 0
  stack := .empty
  delayTimer := 0
  soundTimer := 0
  keypad := .released
  screen := .blank
  resolution := .standard
  flags := Vector.replicate 8 0
  mode := .running
  fault := Fault.clear.code
  faultInfo := 0
  randomKey := randomKey
  dialect := dialect

/-- The value of a register. -/
def v (machine : Machine) (x : Register) : UInt8 := machine.registers[x]

/-- Write a register. -/
def write (machine : Machine) (x : Register) (value : UInt8) : Machine :=
  { machine with registers := machine.registers.set x.val value }

/-- Write a truth value to the flag register, as one or zero. -/
def writeFlag (machine : Machine) (value : Bool) : Machine :=
  machine.write flagRegister value.toUInt8

/-- Skip the next instruction when a condition holds. -/
def skipIf (machine : Machine) (condition : Bool) : Machine :=
  if condition then { machine with pc := machine.pc + 2 } else machine

/-- Stop execution and record why. -/
def halt (machine : Machine) (fault : Fault) (info : Int) : Machine :=
  { machine with mode := .halted, fault := fault.code, faultInfo := info }

/-- Apply a change when `length` bytes from `start` on end within memory, and halt
otherwise.  The end of the range is reckoned in 32 bits.  The fault names the first
address that is out of range. -/
def guardRange (machine : Machine) (start length : Int) (change : Machine → Machine) : Machine :=
  if wrap32 (start + length) > 4096 then
    machine.halt .addressOutOfRange (max start 4096)
  else change machine

/-- A register that was written reads as the value; every other register is as
before. -/
theorem v_write (machine : Machine) (x k : Register) (value : UInt8) :
    (machine.write x value).v k = if x = k then value else machine.v k := by
  simp only [v, write, Fin.getElem_fin, Vector.getElem_set, Fin.ext_iff]

/-- Short ranges from 16-bit addresses are checked as plain sums. -/
theorem guardRange_of_short (machine : Machine) (start : UInt16) (length : Nat)
    (short : length ≤ 4096) (change : Machine → Machine) :
    machine.guardRange start.toNat length change =
      if 4096 < start.toNat + length then
        machine.halt .addressOutOfRange (max start.toNat 4096)
      else change machine := by
  have bound := UInt16.toNat_lt start
  unfold guardRange
  rw [wrap32_of_bounds (by omega) (by omega)]
  by_cases past : 4096 < start.toNat + length
  · rw [if_pos past, if_pos (by omega)]
  · rw [if_neg past, if_neg (by omega)]

end Machine

end Chip8
