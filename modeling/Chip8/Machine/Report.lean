/-
# Register line

One line shows the registers of a machine: the program counter, the index register,
both timers, the depth of the stack, the mode, and `V0` to `VF`.
-/
import Chip8.Machine
import Chip8.Text.Hex

namespace Chip8.Machine

/-- The fields of the register line, in their order. -/
def reportFields (machine : Machine) : List String :=
  ["PC=" ++ Text.Hex.text 4 machine.pc.toNat,
   "I=" ++ Text.Hex.text 4 machine.index.toNat,
   "DT=" ++ Text.Hex.text 2 machine.delayTimer.toNat,
   "ST=" ++ Text.Hex.text 2 machine.soundTimer.toNat,
   "SP=" ++ toString machine.stack.pointer.toNat,
   machine.mode.name] ++
  (List.finRange 16).map fun x =>
    "V" ++ Text.Hex.text 1 x.val ++ "=" ++ Text.Hex.text 2 (machine.v x).toNat

/-- The register line: its fields, separated by single spaces. -/
def report (machine : Machine) : String := String.intercalate " " machine.reportFields

end Chip8.Machine
