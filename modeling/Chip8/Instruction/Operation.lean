/-
# Operations

An operation is an instruction without its operands.  The digits of a word can be read as each
kind of operand, and an operation becomes an instruction once it is given such digits; it
takes those that it has a use for.
-/
import Chip8.Instruction.Encoding

namespace Chip8

/-- What an instruction does, without its operands. -/
inductive Operation where
  | clear
  | ret
  | sys
  | scrollDown
  | scrollRight
  | scrollLeft
  | exit
  | low
  | high
  | jump
  | call
  | skipIfByte
  | skipUnlessByte
  | skipIfEqual
  | skipUnlessEqual
  | jumpOffset
  | loadByte
  | addByte
  | loadIndex
  | random
  | arithmetic (operation : Arithmetic)
  | draw
  | skipIfKey
  | skipUnlessKey
  | waitKey
  | readDelay
  | setDelay
  | setSound
  | addIndex
  | smallDigit
  | largeDigit
  | storeDecimal
  | storeRegisters
  | loadRegisters
  | saveFlags
  | restoreFlags
deriving DecidableEq, Repr

/-- A value for each kind of operand. -/
structure Fields where
  x : Register
  y : Register
  n : Fin 16
  nn : UInt8
  nnn : Address
deriving DecidableEq, Repr

/-- The digits of a word, read as each kind of operand. -/
def Word.fields (word : Word) : Fields := ⟨word.x, word.y, word.n, word.nn, word.nnn⟩

namespace Operation

/-- The instruction that an operation is with operands.  It takes those that its pattern has
places for. -/
def instruction (fields : Fields) : Operation → Instruction
  | .clear => .clear
  | .ret => .ret
  | .sys => .sys fields.nnn
  | .scrollDown => .scrollDown fields.n
  | .scrollRight => .scrollRight
  | .scrollLeft => .scrollLeft
  | .exit => .exit
  | .low => .low
  | .high => .high
  | .jump => .jump fields.nnn
  | .call => .call fields.nnn
  | .skipIfByte => .skipIfByte fields.x fields.nn
  | .skipUnlessByte => .skipUnlessByte fields.x fields.nn
  | .skipIfEqual => .skipIfEqual fields.x fields.y
  | .skipUnlessEqual => .skipUnlessEqual fields.x fields.y
  | .jumpOffset => .jumpOffset fields.nnn
  | .loadByte => .loadByte fields.x fields.nn
  | .addByte => .addByte fields.x fields.nn
  | .loadIndex => .loadIndex fields.nnn
  | .random => .random fields.x fields.nn
  | .arithmetic operation => .arithmetic operation fields.x fields.y
  | .draw => .draw fields.x fields.y fields.n
  | .skipIfKey => .skipIfKey fields.x
  | .skipUnlessKey => .skipUnlessKey fields.x
  | .waitKey => .waitKey fields.x
  | .readDelay => .readDelay fields.x
  | .setDelay => .setDelay fields.x
  | .setSound => .setSound fields.x
  | .addIndex => .addIndex fields.x
  | .smallDigit => .smallDigit fields.x
  | .largeDigit => .largeDigit fields.x
  | .storeDecimal => .storeDecimal fields.x
  | .storeRegisters => .storeRegisters fields.x
  | .loadRegisters => .loadRegisters fields.x
  | .saveFlags => .saveFlags fields.x
  | .restoreFlags => .restoreFlags fields.x

end Operation

/-- The operation of an instruction. -/
def Instruction.operation : Instruction → Operation
  | .clear => .clear
  | .ret => .ret
  | .sys _ => .sys
  | .scrollDown _ => .scrollDown
  | .scrollRight => .scrollRight
  | .scrollLeft => .scrollLeft
  | .exit => .exit
  | .low => .low
  | .high => .high
  | .jump _ => .jump
  | .call _ => .call
  | .skipIfByte _ _ => .skipIfByte
  | .skipUnlessByte _ _ => .skipUnlessByte
  | .skipIfEqual _ _ => .skipIfEqual
  | .skipUnlessEqual _ _ => .skipUnlessEqual
  | .jumpOffset _ => .jumpOffset
  | .loadByte _ _ => .loadByte
  | .addByte _ _ => .addByte
  | .loadIndex _ => .loadIndex
  | .random _ _ => .random
  | .arithmetic operation _ _ => .arithmetic operation
  | .draw _ _ _ => .draw
  | .skipIfKey _ => .skipIfKey
  | .skipUnlessKey _ => .skipUnlessKey
  | .waitKey _ => .waitKey
  | .readDelay _ => .readDelay
  | .setDelay _ => .setDelay
  | .setSound _ => .setSound
  | .addIndex _ => .addIndex
  | .smallDigit _ => .smallDigit
  | .largeDigit _ => .largeDigit
  | .storeDecimal _ => .storeDecimal
  | .storeRegisters _ => .storeRegisters
  | .loadRegisters _ => .loadRegisters
  | .saveFlags _ => .saveFlags
  | .restoreFlags _ => .restoreFlags

namespace Word

/-- The place of a number in the list of all words.  A number below zero counts from the end of
the list, and one that is still no place there stands for the nearest end. -/
def atPlace (number : Int) : Word :=
  let place := if number < 0 then number + 0x10000 else number
  UInt16.ofInt (max 0 (min place 0xFFFF))

end Word

end Chip8
