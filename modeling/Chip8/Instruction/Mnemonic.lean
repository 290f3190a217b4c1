/-
# Mnemonics

An instruction is written as a short name followed by its operands, which are
separated by commas.  A word that is no instruction is written as data.
-/
import Chip8.Instruction.Encoding
import Chip8.Text.Hex

namespace Chip8

/-- An operand as it is written. -/
inductive Operand where
  | register (x : Register)
  | digit (value : Fin 16)
  | byte (value : UInt8)
  | address (value : Address)
  | word (value : Word)
  | named (name : String)
deriving DecidableEq, Repr

namespace Operand

/-- The text of an operand: registers after a `V`, numbers in base sixteen after
`0x` with as many digits as their kind has. -/
def text : Operand → String
  | .register x => "V" ++ Text.Hex.text 1 x.val
  | .digit value => "0x" ++ Text.Hex.text 1 value.val
  | .byte value => "0x" ++ Text.Hex.text 2 value.toNat
  | .address value => "0x" ++ Text.Hex.text 3 value.val
  | .word value => "0x" ++ Text.Hex.text 4 value.toNat
  | .named name => name

end Operand

namespace Arithmetic

/-- The short name of an operation. -/
def mnemonic : Arithmetic → String
  | .load => "LD"
  | .or => "OR"
  | .and => "AND"
  | .xor => "XOR"
  | .add => "ADD"
  | .subtract => "SUB"
  | .shiftRight => "SHR"
  | .subtractFrom => "SUBN"
  | .shiftLeft => "SHL"

end Arithmetic

namespace Instruction

open Operand in
/-- The short name of an instruction and its operands. -/
def parts : Instruction → String × List Operand
  | .clear => ("CLS", [])
  | .ret => ("RET", [])
  | .sys target => ("SYS", [address target])
  | .scrollDown rows => ("SCD", [digit rows])
  | .scrollRight => ("SCR", [])
  | .scrollLeft => ("SCL", [])
  | .exit => ("EXIT", [])
  | .low => ("LOW", [])
  | .high => ("HIGH", [])
  | .jump target => ("JP", [address target])
  | .call target => ("CALL", [address target])
  | .skipIfByte x value => ("SE", [register x, byte value])
  | .skipUnlessByte x value => ("SNE", [register x, byte value])
  | .skipIfEqual x y => ("SE", [register x, register y])
  | .skipUnlessEqual x y => ("SNE", [register x, register y])
  | .jumpOffset base => ("JP", [register 0, address base])
  | .loadByte x value => ("LD", [register x, byte value])
  | .addByte x value => ("ADD", [register x, byte value])
  | .loadIndex value => ("LD", [named "I", address value])
  | .random x mask => ("RND", [register x, byte mask])
  | .arithmetic operation x y => (operation.mnemonic, [register x, register y])
  | .draw x y rows => ("DRW", [register x, register y, digit rows])
  | .skipIfKey x => ("SKP", [register x])
  | .skipUnlessKey x => ("SKNP", [register x])
  | .waitKey x => ("LD", [register x, named "K"])
  | .readDelay x => ("LD", [register x, named "DT"])
  | .setDelay x => ("LD", [named "DT", register x])
  | .setSound x => ("LD", [named "ST", register x])
  | .addIndex x => ("ADD", [named "I", register x])
  | .smallDigit x => ("LD", [named "F", register x])
  | .largeDigit x => ("LD", [named "HF", register x])
  | .storeDecimal x => ("LD", [named "B", register x])
  | .storeRegisters x => ("LD", [named "[I]", register x])
  | .loadRegisters x => ("LD", [register x, named "[I]"])
  | .saveFlags x => ("LD", [named "R", register x])
  | .restoreFlags x => ("LD", [register x, named "R"])

end Instruction

namespace Mnemonic

/-- A short name followed by operands. -/
def line (name : String) (operands : List Operand) : String :=
  if operands.isEmpty then name
  else name ++ " " ++ String.intercalate ", " (operands.map Operand.text)

/-- The short name and the operands of any word. -/
def partsOfWord (word : Word) : String × List Operand :=
  match Instruction.decode word with
  | some instruction => instruction.parts
  | none => ("DW", [.word word])

/-- The text of a word: an instruction, or data. -/
def ofWord (word : Word) : String :=
  line (partsOfWord word).1 (partsOfWord word).2

/-- The text of a single byte, which is always data. -/
def ofByte (byte : UInt8) : String := line "DB" [.byte byte]

end Mnemonic

end Chip8
