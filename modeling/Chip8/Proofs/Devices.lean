/-
# Devices

Memory, keypad, timers, flag registers and the random source lie around the processor,
and few instructions reach them.  `devices_execute` says once what every instruction does
to them; the dialect, which no instruction changes, is counted among them.
-/
import Chip8.Proofs.Control

namespace Chip8

/-- What lies around the processor of a machine. -/
structure Devices where
  memory : Memory
  keypad : Keypad
  delayTimer : UInt8
  soundTimer : UInt8
  flags : Vector UInt8 8
  randomKey : RandomKey
  dialect : Dialect
deriving DecidableEq

namespace Memory

/-- Memories with the same bytes are the same. -/
theorem eq_of_cells {first second : Memory}
    (same : ∀ address, first.cell address = second.cell address) : first = second :=
  Vector.ext fun address inside => same ⟨address, inside⟩

theorem byteAt_eq_cell (memory : Memory) {address : Nat} (inside : address < 4096) :
    memory.byteAt address = memory.cell ⟨address, inside⟩ := by
  have here : min address 4095 = address := by omega
  simp only [byteAt, here]
  rfl

/-- Cells within a written run hold its bytes. -/
theorem cell_write_of_inside (memory : Memory) {address : Address} {start k : Nat}
    {bytes : List UInt8} {byte : UInt8} (inside : bytes[k]? = some byte)
    (here : address.val = start + k) : (memory.write start bytes).cell address = byte := by
  show (memory.write start bytes)[address.val] = byte
  rw [getElem_write, if_pos (by omega), show address.val - start = k by omega, inside,
    Option.getD_some]

/-- Cells outside a written run are as before. -/
theorem cell_write_of_outside (memory : Memory) {address : Address} {start : Nat}
    {bytes : List UInt8} (outside : address.val < start ∨ start + bytes.length ≤ address.val) :
    (memory.write start bytes).cell address = memory.cell address := by
  show (memory.write start bytes)[address.val] = memory[address.val]
  rw [getElem_write]
  rcases outside with before | behind
  · rw [if_neg (Nat.not_le.mpr before)]
  · rw [if_pos (by omega), List.getElem?_eq_none (by omega), Option.getD_none]

end Memory

namespace Machine

variable {machine : Machine} {instruction : Instruction}

/-- The devices of a machine. -/
def devices (machine : Machine) : Devices :=
  ⟨machine.memory, machine.keypad, machine.delayTimer, machine.soundTimer, machine.flags,
    machine.randomKey, machine.dialect⟩

theorem flags_le_registers : 8 ≤ 16 := by decide

/-- The flag registers once the registers up to `x` were saved in them. -/
def flagsSaved (machine : Machine) (x : Register) : Vector UInt8 8 :=
  Vector.ofFn fun k =>
    if k.val ≤ x.val then machine.v (k.castLE flags_le_registers) else machine.flags.get k

/-- The devices after an instruction that can be carried out. -/
def devicesAfter (machine : Machine) : Instruction → Devices
  | .storeDecimal x =>
    { machine.devices with
      memory := machine.memory.write machine.index.toNat (decimalDigits (machine.v x)) }
  | .storeRegisters x =>
    { machine.devices with
      memory := machine.memory.write machine.index.toNat
        (machine.registers.toList.take (x.val + 1)) }
  | .saveFlags x => { machine.devices with flags := machine.flagsSaved x }
  | .setDelay x => { machine.devices with delayTimer := machine.v x }
  | .setSound x => { machine.devices with soundTimer := machine.v x }
  | .random _ _ => { machine.devices with randomKey := machine.randomKey.next }
  | _ => machine.devices

theorem length_take_registers (machine : Machine) (x : Register) :
    (machine.registers.toList.take (x.val + 1)).length = x.val + 1 := by
  rw [List.length_take, Vector.length_toList]
  exact Nat.min_eq_left x.isLt

theorem devices_of_others (machine : Machine) (pc index : UInt16) (registers : Vector UInt8 16)
    (stack : CallStack) (screen : Screen) (resolution : Resolution) (mode : Mode) :
    { machine with
      pc := pc
      index := index
      registers := registers
      stack := stack
      screen := screen
      resolution := resolution
      mode := mode }.devices = machine.devices :=
  rfl

theorem devices_skipIf (machine : Machine) (condition : Bool) :
    (machine.skipIf condition).devices = machine.devices := by
  unfold skipIf
  split <;> rfl

theorem devices_advanceIndex (machine : Machine) (x : Register) :
    (machine.advanceIndex x).devices = machine.devices := by
  unfold advanceIndex
  split <;> rfl

/-- An instruction that can be carried out does this to the devices. -/
theorem devices_execute (accepted : machine.faultOf? instruction = none) :
    (machine.execute instruction).devices = machine.devicesAfter instruction := by
  cases instruction with
  | ret =>
    show machine.returnFromSubroutine.devices = machine.devices
    unfold returnFromSubroutine
    split <;> rfl
  | call target =>
    show (machine.callSubroutine target).devices = machine.devices
    unfold callSubroutine
    split <;> rfl
  | waitKey x =>
    show (machine.waitForKey x).devices = machine.devices
    unfold waitForKey
    split <;> rfl
  | skipIfByte x byte => exact machine.devices_skipIf _
  | skipUnlessByte x byte => exact machine.devices_skipIf _
  | skipIfEqual x y => exact machine.devices_skipIf _
  | skipUnlessEqual x y => exact machine.devices_skipIf _
  | skipIfKey x => exact machine.devices_skipIf _
  | skipUnlessKey x => exact machine.devices_skipIf _
  | arithmetic operation x y =>
    show (machine.combine operation x y).devices = machine.devices
    unfold combine
    split <;> rfl
  | addIndex x =>
    show (machine.addToIndex x).devices = machine.devices
    unfold addToIndex
    split <;> rfl
  | draw x y rows =>
    show (machine.drawSprite x y rows).devices = machine.devices
    rw [drawSprite_of_inside accepted]
    exact machine.devices_of_others _ _ _ _ _ _ _
  | storeDecimal x =>
    show (machine.storeDecimal x).devices = _
    rw [storeDecimal_of_inside accepted]
    rfl
  | storeRegisters x =>
    show (machine.storeRegisters x).devices = _
    rw [storeRegisters_of_inside accepted, devices_advanceIndex]
    rfl
  | loadRegisters x =>
    show (machine.loadRegisters x).devices = machine.devices
    rw [loadRegisters_of_inside accepted, devices_advanceIndex]
    exact machine.devices_of_others _ _ _ _ _ _ _
  | saveFlags x =>
    show (machine.saveFlags x).devices = _
    rw [saveFlags, if_neg (not_le_of_flagsFault? accepted)]
    rfl
  | restoreFlags x =>
    show (machine.restoreFlags x).devices = machine.devices
    rw [restoreFlags, if_neg (not_le_of_flagsFault? accepted)]
    exact machine.devices_of_others _ _ _ _ _ _ _
  | random x mask => rfl
  | setDelay x => rfl
  | setSound x => rfl
  | _ => exact machine.devices_of_others _ _ _ _ _ _ _

theorem memory_execute (accepted : machine.faultOf? instruction = none) :
    (machine.execute instruction).memory = (machine.devicesAfter instruction).memory :=
  congrArg Devices.memory (devices_execute accepted)

end Machine

end Chip8
