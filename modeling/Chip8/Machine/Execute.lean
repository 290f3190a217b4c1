/-
# Execution of instructions

What each instruction does to a machine whose program counter already points
behind it.  An instruction that cannot be carried out halts the machine and
changes nothing else.
-/
import Chip8.Machine
import Chip8.Instruction.Operation
import Chip8.Screen.Sprite
import Chip8.Screen.Scroll

namespace Chip8

/-- The value of an operation on two registers, and what it reports to the flag
register, if it reports anything.  Sums report a carry, differences report that
nothing was borrowed, shifts report the bit that fell out, and the logic operations
clear the flag in the dialects that say so. -/
def Arithmetic.apply (operation : Arithmetic) (dialect : Dialect) (a b : UInt8) :
    UInt8 × Option UInt8 :=
  let cleared := if dialect.logicClearsVF then some 0 else none
  let source := if dialect.shiftReadsVY then b else a
  match operation with
  | .load => (b, none)
  | .or => (a ||| b, cleared)
  | .and => (a &&& b, cleared)
  | .xor => (a ^^^ b, cleared)
  | .add => (a + b, some (decide (255 < a.toNat + b.toNat)).toUInt8)
  | .subtract => (a - b, some (decide (b ≤ a)).toUInt8)
  | .shiftRight => (source >>> 1, some (source &&& 1))
  | .subtractFrom => (b - a, some (decide (a ≤ b)).toUInt8)
  | .shiftLeft => (source <<< 1, some (source >>> 7))

namespace Machine

/-- The address of the instruction that is being executed, as 16-bit arithmetic
gives it. -/
def currentAddress (machine : Machine) : UInt16 := machine.pc - 2

/-- Combine two registers.  The value is written before the flag, so that the flag
stands when both go to the same register. -/
def combine (machine : Machine) (operation : Arithmetic) (x y : Register) : Machine :=
  match operation.apply machine.dialect (machine.v x) (machine.v y) with
  | (value, none) => machine.write x value
  | (value, some flag) => (machine.write x value).write flagRegister flag

/-- Jump to a subroutine, and remember where to go on. -/
def callSubroutine (machine : Machine) (target : Address) : Machine :=
  match machine.stack.push machine.pc with
  | (_, true) => machine.halt .stackOverflow machine.currentAddress.toNat
  | (stack, false) => { machine with stack := stack, pc := UInt16.ofNat target.val }

/-- Return from a subroutine. -/
def returnFromSubroutine (machine : Machine) : Machine :=
  match machine.stack.pop with
  | (_, _, true) => machine.halt .stackUnderflow machine.currentAddress.toNat
  | (stack, address, false) => { machine with stack := stack, pc := address }

/-- The register whose value a jump with an offset adds: `V0`, or in some dialects the
register that the address itself names. -/
def offsetRegister (machine : Machine) (base : Address) : Register :=
  if machine.dialect.jumpAddsVX then ⟨base.val / 256, by have := base.isLt; omega⟩
  else ⟨0, by decide⟩

/-- Jump to an address plus a register. -/
def jumpWithOffset (machine : Machine) (base : Address) : Machine :=
  let offset := machine.v (machine.offsetRegister base)
  { machine with pc := UInt16.ofNat (base.val + offset.toNat) }

/-- Select a resolution, which clears the screen. -/
def selectResolution (machine : Machine) (resolution : Resolution) : Machine :=
  { machine with resolution := resolution, screen := .blank }

/-- The number of bytes of the sprite that a digit of the draw instruction
announces: wide sprites have sixteen rows of two bytes. -/
def spriteLength (rows : Fin 16) : Nat := if rows.val = 0 then 32 else rows.val

/-- The number of rows of that sprite. -/
def spriteHeight (rows : Fin 16) : Nat := if rows.val = 0 then 16 else rows.val

/-- The row patterns that stand at the index register.  The bytes of a sprite of sixteen
rows are read in any case, even where the announced sprite is lower. -/
def spriteTable (machine : Machine) (rows : Fin 16) : Sprite :=
  let bytes := machine.memory.span machine.index.toNat 32
  if rows.val = 0 then .ofBytes true bytes else .ofBytes false (bytes.take 16)

/-- Draw the sprite that the index register points at, and report whether a lit
pixel went out. -/
def drawSprite (machine : Machine) (x y : Register) (rows : Fin 16) : Machine :=
  machine.guardRange machine.index.toNat (spriteLength rows) fun machine =>
    let table := machine.spriteTable rows
    let drawn := machine.screen.blit machine.resolution (machine.v x).toNat (machine.v y).toNat
      table.rows (spriteHeight rows) table.width
    { machine with screen := drawn.1 }.writeFlag drawn.2

/-- Go on with the lowest pressed key, or wait and execute the instruction once
more. -/
def waitForKey (machine : Machine) (x : Register) : Machine :=
  match machine.keypad.lowest? with
  | some key => { machine.write x (UInt8.ofNat key.val) with mode := .running }
  | none => { machine with pc := machine.currentAddress, mode := .waitingForKey }

/-- Add a register to the index register. -/
def addToIndex (machine : Machine) (x : Register) : Machine :=
  let total := machine.index.toNat + (machine.v x).toNat
  let moved := { machine with index := UInt16.ofNat total }
  if machine.dialect.indexOverflowSetsVF then moved.writeFlag (decide (4095 < total)) else moved

/-- The three decimal digits of a byte. -/
def decimalDigits (value : UInt8) : List UInt8 := [value / 100, value / 10 % 10, value % 10]

/-- Move the index register behind the registers that were transferred, in the
dialects that do so. -/
def advanceIndex (machine : Machine) (x : Register) : Machine :=
  if machine.dialect.transferAdvancesIndex then
    { machine with index := machine.index + UInt16.ofNat (x.val + 1) }
  else machine

/-- Store the decimal digits of a register at the index register. -/
def storeDecimal (machine : Machine) (x : Register) : Machine :=
  machine.guardRange machine.index.toNat 3 fun machine =>
    { machine with
      memory := machine.memory.write machine.index.toNat (decimalDigits (machine.v x)) }

/-- The sixteen bytes that are written from the index register on when registers are stored:
the first registers, and for the others the bytes that stand there already. -/
def storedWindow (machine : Machine) (x : Register) : List UInt8 :=
  let found := machine.memory.span machine.index.toNat 16
  List.zipWith (fun k byte => if k ≤ x then machine.v k else byte) (List.finRange 16) found

/-- What a store writes at each place of its sixteen bytes. -/
theorem getElem?_storedWindow (machine : Machine) (x k : Register) :
    (machine.storedWindow x)[k.val]? =
      some (if k ≤ x then machine.v k
        else machine.memory.byteAt (machine.index.toNat + k.val)) := by
  have bound := UInt16.toNat_lt machine.index
  have register : (List.finRange 16)[k.val]? = some k := by simp
  rw [storedWindow, List.getElem?_zipWith, register,
    Memory.getElem?_span _ k.isLt (by have := k.isLt; omega)]

theorem length_storedWindow (machine : Machine) (x : Register) :
    (machine.storedWindow x).length = 16 := by
  simp [storedWindow, Memory.span]

/-- Store the first registers at the index register.  Sixteen bytes are written whatever the
number of registers is; those past the end of the memory are dropped. -/
def storeRegisters (machine : Machine) (x : Register) : Machine :=
  machine.guardRange machine.index.toNat (x.val + 1) fun machine =>
    { machine with
      memory := machine.memory.write machine.index.toNat (machine.storedWindow x) }.advanceIndex x

/-- Load the first registers from the index register. -/
def loadRegisters (machine : Machine) (x : Register) : Machine :=
  machine.guardRange machine.index.toNat (x.val + 1) fun machine =>
    { machine with
      registers := Vector.ofFn fun k =>
        if k ≤ x then machine.memory.byteAt (machine.index.toNat + k.val)
        else machine.v k }.advanceIndex x

/-- Save the first registers in the flag registers, of which there are eight. -/
def saveFlags (machine : Machine) (x : Register) : Machine :=
  if 8 ≤ x.val then machine.halt .invalidRegister x.val
  else
    { machine with
      flags := Vector.ofFn fun k =>
        if k.val ≤ x.val then machine.v (k.castLE (by decide)) else machine.flags[k] }

/-- Restore the first registers from the flag registers. -/
def restoreFlags (machine : Machine) (x : Register) : Machine :=
  if 8 ≤ x.val then machine.halt .invalidRegister x.val
  else
    { machine with
      registers := Vector.ofFn fun k =>
        if k ≤ x then machine.flags[k.val]?.getD (machine.v k) else machine.v k }

/-- Execute one instruction. -/
def execute (machine : Machine) : Instruction → Machine
  | .clear => { machine with screen := .blank }
  | .ret => machine.returnFromSubroutine
  | .sys _ => machine
  | .scrollDown rows =>
    { machine with screen := machine.screen.scrollDown machine.resolution rows.val }
  | .scrollRight => { machine with screen := machine.screen.scrollRight machine.resolution }
  | .scrollLeft => { machine with screen := machine.screen.scrollLeft machine.resolution }
  | .exit => { machine with mode := .done }
  | .low => machine.selectResolution .standard
  | .high => machine.selectResolution .extended
  | .jump target => { machine with pc := UInt16.ofNat target.val }
  | .call target => machine.callSubroutine target
  | .skipIfByte x byte => machine.skipIf (machine.v x == byte)
  | .skipUnlessByte x byte => machine.skipIf (machine.v x != byte)
  | .skipIfEqual x y => machine.skipIf (machine.v x == machine.v y)
  | .skipUnlessEqual x y => machine.skipIf (machine.v x != machine.v y)
  | .jumpOffset base => machine.jumpWithOffset base
  | .loadByte x byte => machine.write x byte
  | .addByte x byte => machine.write x (machine.v x + byte)
  | .loadIndex value => { machine with index := UInt16.ofNat value.val }
  | .random x mask =>
    { machine.write x (machine.randomKey.byte &&& mask) with
      randomKey := machine.randomKey.next }
  | .arithmetic operation x y => machine.combine operation x y
  | .draw x y rows => machine.drawSprite x y rows
  | .skipIfKey x => machine.skipIf (machine.keypad.isPressed (Keypad.ofByte (machine.v x)))
  | .skipUnlessKey x => machine.skipIf (!machine.keypad.isPressed (Keypad.ofByte (machine.v x)))
  | .waitKey x => machine.waitForKey x
  | .readDelay x => machine.write x machine.delayTimer
  | .setDelay x => { machine with delayTimer := machine.v x }
  | .setSound x => { machine with soundTimer := machine.v x }
  | .addIndex x => machine.addToIndex x
  | .smallDigit x =>
    { machine with
      index := UInt16.ofNat (Font.smallStart + (machine.v x).toNat % 16 * Font.smallRows) }
  | .largeDigit x =>
    { machine with
      index := UInt16.ofNat (Font.largeStart + (machine.v x).toNat % 16 * Font.largeRows) }
  | .storeDecimal x => machine.storeDecimal x
  | .storeRegisters x => machine.storeRegisters x
  | .loadRegisters x => machine.loadRegisters x
  | .saveFlags x => machine.saveFlags x
  | .restoreFlags x => machine.restoreFlags x

/-- Execute a word, or halt when it is no instruction. -/
def executeWord (machine : Machine) (word : Word) : Machine :=
  match Instruction.decode word with
  | some instruction => machine.execute instruction
  | none => machine.halt .invalidOpcode word.toNat

/-- Execute a number that need not be a 16-bit word.  What is to be done is looked up at the
place of the number in the list of all words, while the operands are the low digits of the
number itself.  A fault names the number. -/
def executeNumber (machine : Machine) (number : Int) : Machine :=
  match Instruction.decode (Word.atPlace number) with
  | some listed =>
    machine.execute (listed.operation.instruction (Word.fields (UInt16.ofInt number)))
  | none => machine.halt .invalidOpcode number

end Machine

end Chip8
