/-
# Encoding of instructions

Every instruction has a word, and a word stands for at most one instruction.
`Instruction.decode` reads a word by its family and then by its low digits;
`Instruction.encode` fills the pattern of an instruction with its operands.
-/
import Chip8.Instruction

namespace Chip8

namespace Arithmetic

/-- The lowest digit of the words of an operation. -/
def code : Arithmetic → Nat
  | .load => 0x0
  | .or => 0x1
  | .and => 0x2
  | .xor => 0x3
  | .add => 0x4
  | .subtract => 0x5
  | .shiftRight => 0x6
  | .subtractFrom => 0x7
  | .shiftLeft => 0xE

/-- The operation of a lowest digit. -/
def ofCode? : Nat → Option Arithmetic
  | 0x0 => some .load
  | 0x1 => some .or
  | 0x2 => some .and
  | 0x3 => some .xor
  | 0x4 => some .add
  | 0x5 => some .subtract
  | 0x6 => some .shiftRight
  | 0x7 => some .subtractFrom
  | 0xE => some .shiftLeft
  | _ => none

/-- Reading the digit of an operation gives it back. -/
theorem ofCode?_code (operation : Arithmetic) : ofCode? operation.code = some operation := by
  cases operation <;> rfl

end Arithmetic

namespace Instruction

/-- The instruction of a word of the family zero, given its low twelve bits.  What
has no meaning of its own there calls a routine of the host computer. -/
def decodeSystem (operand : Address) : Instruction :=
  match operand.val with
  | 0x0E0 => .clear
  | 0x0EE => .ret
  | 0x0FB => .scrollRight
  | 0x0FC => .scrollLeft
  | 0x0FD => .exit
  | 0x0FE => .low
  | 0x0FF => .high
  | value =>
    if value / 16 = 0x0C then .scrollDown ⟨value % 16, by omega⟩ else .sys operand

/-- The instruction of a word of the family `F`, given its register and its low
byte. -/
def decodeMiscellaneous (x : Register) (byte : Nat) : Option Instruction :=
  match byte with
  | 0x07 => some (.readDelay x)
  | 0x0A => some (.waitKey x)
  | 0x15 => some (.setDelay x)
  | 0x18 => some (.setSound x)
  | 0x1E => some (.addIndex x)
  | 0x29 => some (.smallDigit x)
  | 0x30 => some (.largeDigit x)
  | 0x33 => some (.storeDecimal x)
  | 0x55 => some (.storeRegisters x)
  | 0x65 => some (.loadRegisters x)
  | 0x75 => some (.saveFlags x)
  | 0x85 => some (.restoreFlags x)
  | _ => none

/-- The instruction of a word, if it is one. -/
def decode (word : Word) : Option Instruction :=
  match word.family.val with
  | 0x0 => some (decodeSystem word.nnn)
  | 0x1 => some (.jump word.nnn)
  | 0x2 => some (.call word.nnn)
  | 0x3 => some (.skipIfByte word.x word.nn)
  | 0x4 => some (.skipUnlessByte word.x word.nn)
  | 0x5 => if word.n.val = 0 then some (.skipIfEqual word.x word.y) else none
  | 0x6 => some (.loadByte word.x word.nn)
  | 0x7 => some (.addByte word.x word.nn)
  | 0x8 => (Arithmetic.ofCode? word.n.val).map fun operation => .arithmetic operation word.x word.y
  | 0x9 => if word.n.val = 0 then some (.skipUnlessEqual word.x word.y) else none
  | 0xA => some (.loadIndex word.nnn)
  | 0xB => some (.jumpOffset word.nnn)
  | 0xC => some (.random word.x word.nn)
  | 0xD => some (.draw word.x word.y word.n)
  | 0xE =>
    if word.nn = 0x9E then some (.skipIfKey word.x)
    else if word.nn = 0xA1 then some (.skipUnlessKey word.x)
    else none
  | _ => decodeMiscellaneous word.x word.nn.toNat

theorem decode_call {word : Word} (family : word.family.val = 0x2) :
    decode word = some (.call word.nnn) := by
  rw [decode.eq_def, family]
  rfl

theorem decode_draw {word : Word} (family : word.family.val = 0xD) :
    decode word = some (.draw word.x word.y word.n) := by
  rw [decode.eq_def, family]
  rfl

theorem decode_miscellaneous {word : Word} (family : word.family.val = 0xF) :
    decode word = decodeMiscellaneous word.x word.nn.toNat := by
  rw [decode.eq_def, family]
  rfl

/-- The number of a word with a family and twelve further bits. -/
def withAddress (family : Nat) (operand : Address) : Nat := family * 4096 + operand.val

/-- The number of a word with a family, a register and a byte. -/
def withByte (family : Nat) (x : Register) (byte : Nat) : Nat :=
  family * 4096 + x.val * 256 + byte

/-- The number of a word with a family, two registers and a digit. -/
def withRegisters (family : Nat) (x y : Register) (digit : Nat) : Nat :=
  family * 4096 + x.val * 256 + y.val * 16 + digit

/-- The number of an instruction's word. -/
def number : Instruction → Nat
  | .clear => 0x00E0
  | .ret => 0x00EE
  | .sys target => withAddress 0x0 target
  | .scrollDown rows => 0x00C0 + rows.val
  | .scrollRight => 0x00FB
  | .scrollLeft => 0x00FC
  | .exit => 0x00FD
  | .low => 0x00FE
  | .high => 0x00FF
  | .jump target => withAddress 0x1 target
  | .call target => withAddress 0x2 target
  | .skipIfByte x byte => withByte 0x3 x byte.toNat
  | .skipUnlessByte x byte => withByte 0x4 x byte.toNat
  | .skipIfEqual x y => withRegisters 0x5 x y 0
  | .loadByte x byte => withByte 0x6 x byte.toNat
  | .addByte x byte => withByte 0x7 x byte.toNat
  | .arithmetic operation x y => withRegisters 0x8 x y operation.code
  | .skipUnlessEqual x y => withRegisters 0x9 x y 0
  | .loadIndex value => withAddress 0xA value
  | .jumpOffset base => withAddress 0xB base
  | .random x mask => withByte 0xC x mask.toNat
  | .draw x y rows => withRegisters 0xD x y rows.val
  | .skipIfKey x => withByte 0xE x 0x9E
  | .skipUnlessKey x => withByte 0xE x 0xA1
  | .readDelay x => withByte 0xF x 0x07
  | .waitKey x => withByte 0xF x 0x0A
  | .setDelay x => withByte 0xF x 0x15
  | .setSound x => withByte 0xF x 0x18
  | .addIndex x => withByte 0xF x 0x1E
  | .smallDigit x => withByte 0xF x 0x29
  | .largeDigit x => withByte 0xF x 0x30
  | .storeDecimal x => withByte 0xF x 0x33
  | .storeRegisters x => withByte 0xF x 0x55
  | .loadRegisters x => withByte 0xF x 0x65
  | .saveFlags x => withByte 0xF x 0x75
  | .restoreFlags x => withByte 0xF x 0x85

/-- The word of an instruction. -/
def encode (instruction : Instruction) : Word := UInt16.ofNat instruction.number

/-- Whether an instruction is what its own word stands for.  Only calls of host
routines can fail to be: some of their words have another meaning. -/
def IsCanonical : Instruction → Prop
  | .sys target => decodeSystem target = .sys target
  | _ => True

end Instruction

end Chip8
