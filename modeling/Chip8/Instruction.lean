/-
# Instructions

The instruction set of the machine, with the operands that each instruction
carries: register numbers of four bits, bytes, and addresses of twelve bits.
-/
import Chip8.Memory

namespace Chip8

/-- A 16-bit word, as it is fetched from memory. -/
abbrev Word := UInt16

/-- The number of a register. -/
abbrev Register := Fin 16

namespace Word

/-- The highest four bits, which tell the families of instructions apart. -/
def family (word : Word) : Fin 16 :=
  ⟨word.toNat / 4096, by have := UInt16.toNat_lt word; omega⟩

/-- The second group of four bits: the first register of an instruction. -/
def x (word : Word) : Register := ⟨word.toNat / 256 % 16, by omega⟩

/-- The third group of four bits: the second register of an instruction. -/
def y (word : Word) : Register := ⟨word.toNat / 16 % 16, by omega⟩

/-- The lowest four bits. -/
def n (word : Word) : Fin 16 := ⟨word.toNat % 16, by omega⟩

/-- The low byte. -/
def nn (word : Word) : UInt8 := UInt8.ofNat (word.toNat % 256)

/-- The lowest twelve bits. -/
def nnn (word : Word) : Address := ⟨word.toNat % 4096, by omega⟩

end Word

/-- What an instruction of the family `8XYN` does with two registers. -/
inductive Arithmetic where
  | load
  | or
  | and
  | xor
  | add
  | subtract
  | shiftRight
  | subtractFrom
  | shiftLeft
deriving DecidableEq, Repr

/-- The instructions of the machine. -/
inductive Instruction where
  /-- `00E0`: clear the screen. -/
  | clear
  /-- `00EE`: return from a subroutine. -/
  | ret
  /-- `0NNN`: call a routine of the host computer, which is ignored. -/
  | sys (target : Address)
  /-- `00CN`: scroll down. -/
  | scrollDown (rows : Fin 16)
  /-- `00FB`: scroll to the right. -/
  | scrollRight
  /-- `00FC`: scroll to the left. -/
  | scrollLeft
  /-- `00FD`: stop for good. -/
  | exit
  /-- `00FE`: select the standard resolution. -/
  | low
  /-- `00FF`: select the extended resolution. -/
  | high
  /-- `1NNN`: jump. -/
  | jump (target : Address)
  /-- `2NNN`: call a subroutine. -/
  | call (target : Address)
  /-- `3XNN`: skip if `VX` is the byte. -/
  | skipIfByte (x : Register) (byte : UInt8)
  /-- `4XNN`: skip unless `VX` is the byte. -/
  | skipUnlessByte (x : Register) (byte : UInt8)
  /-- `5XY0`: skip if `VX` is `VY`. -/
  | skipIfEqual (x y : Register)
  /-- `9XY0`: skip unless `VX` is `VY`. -/
  | skipUnlessEqual (x y : Register)
  /-- `BNNN`: jump to the address plus a register. -/
  | jumpOffset (base : Address)
  /-- `6XNN`: set `VX` to the byte. -/
  | loadByte (x : Register) (byte : UInt8)
  /-- `7XNN`: add the byte to `VX`. -/
  | addByte (x : Register) (byte : UInt8)
  /-- `ANNN`: set the index register. -/
  | loadIndex (value : Address)
  /-- `CXNN`: set `VX` to a random byte within a mask. -/
  | random (x : Register) (mask : UInt8)
  /-- `8XYN`: combine `VX` and `VY`. -/
  | arithmetic (operation : Arithmetic) (x y : Register)
  /-- `DXYN`: draw a sprite of `N` rows, or a wide one when `N` is zero. -/
  | draw (x y : Register) (rows : Fin 16)
  /-- `EX9E`: skip if the key in `VX` is pressed. -/
  | skipIfKey (x : Register)
  /-- `EXA1`: skip unless the key in `VX` is pressed. -/
  | skipUnlessKey (x : Register)
  /-- `FX0A`: wait for a key. -/
  | waitKey (x : Register)
  /-- `FX07`: set `VX` to the delay timer. -/
  | readDelay (x : Register)
  /-- `FX15`: set the delay timer. -/
  | setDelay (x : Register)
  /-- `FX18`: set the sound timer. -/
  | setSound (x : Register)
  /-- `FX1E`: add `VX` to the index register. -/
  | addIndex (x : Register)
  /-- `FX29`: point the index register at a small digit. -/
  | smallDigit (x : Register)
  /-- `FX30`: point the index register at a large digit. -/
  | largeDigit (x : Register)
  /-- `FX33`: store the three decimal digits of `VX`. -/
  | storeDecimal (x : Register)
  /-- `FX55`: store `V0` to `VX` in memory. -/
  | storeRegisters (x : Register)
  /-- `FX65`: load `V0` to `VX` from memory. -/
  | loadRegisters (x : Register)
  /-- `FX75`: save `V0` to `VX` in the flag registers. -/
  | saveFlags (x : Register)
  /-- `FX85`: restore `V0` to `VX` from the flag registers. -/
  | restoreFlags (x : Register)
deriving DecidableEq, Repr

end Chip8
