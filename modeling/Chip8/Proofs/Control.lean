/-
# Control

Whether and where a machine goes on is decided by five of its fields.  They are its
control part.  This module says once what every instruction does to that part, and
which instructions cannot be carried out: `execute_of_faultOf?_eq_some` and
`control_execute` are the rules from which the later modules reason.  The lemmas that
end in `of_inside` say what the instructions do that reach into memory, once it is known
that they can.

Targets are reckoned in whole numbers without a bound, so that it is a separate
question whether 16 bits hold them.
-/
import Chip8.Machine.Cycle
import Chip8.Proofs.CallStack

namespace Chip8

/-- The part of a machine that decides whether and where it goes on. -/
structure Control where
  pc : UInt16
  stack : CallStack
  mode : Mode
  /-- The code of the recorded fault. -/
  fault : UInt8
  faultInfo : Int
deriving DecidableEq

namespace Machine

/-- The control part of a machine. -/
def control (machine : Machine) : Control :=
  ⟨machine.pc, machine.stack, machine.mode, machine.fault, machine.faultInfo⟩

/-! ## What keeps an instruction from being carried out -/

/-- The fault of an access to `length` bytes from the index register on, if they do
not all lie in memory. -/
def rangeFault? (machine : Machine) (length : Nat) : Option (Fault × Int) :=
  if 4096 < machine.index.toNat + length then
    some (.addressOutOfRange, max machine.index.toNat 4096)
  else none

/-- The fault of an access to the flag registers up to `x`, of which there are
eight. -/
def flagsFault? (x : Register) : Option (Fault × Int) :=
  if 8 ≤ x.val then some (.invalidRegister, x.val) else none

/-- The fault of an instruction and what it is about, if the instruction cannot be
carried out.  The program counter of the machine already points behind it. -/
def faultOf? (machine : Machine) : Instruction → Option (Fault × Int)
  | .call _ =>
    if machine.stack.isFull then some (.stackOverflow, machine.currentAddress.toNat) else none
  | .ret =>
    if machine.stack.isEmpty then some (.stackUnderflow, machine.currentAddress.toNat) else none
  | .draw _ _ rows => machine.rangeFault? (spriteLength rows)
  | .storeDecimal _ => machine.rangeFault? 3
  | .storeRegisters x => machine.rangeFault? (x.val + 1)
  | .loadRegisters x => machine.rangeFault? (x.val + 1)
  | .saveFlags x => flagsFault? x
  | .restoreFlags x => flagsFault? x
  | _ => none

theorem spriteLength_le (rows : Fin 16) : spriteLength rows ≤ 4096 := by
  unfold spriteLength
  split <;> omega

theorem rangeFault?_eq_some_iff {machine : Machine} {length : Nat} {fault : Fault} {info : Int} :
    machine.rangeFault? length = some (fault, info) ↔
      4096 < machine.index.toNat + length ∧ .addressOutOfRange = fault ∧
        max (machine.index.toNat : Int) 4096 = info := by
  rw [rangeFault?, Option.ite_none_right_eq_some, Option.some.injEq, Prod.mk.injEq]

theorem flagsFault?_eq_some_iff {x : Register} {fault : Fault} {info : Int} :
    flagsFault? x = some (fault, info) ↔
      8 ≤ x.val ∧ .invalidRegister = fault ∧ (x.val : Int) = info := by
  rw [flagsFault?, Option.ite_none_right_eq_some, Option.some.injEq, Prod.mk.injEq]

theorem faultOf?_call_eq_some_iff {machine : Machine} {target : Address} {fault : Fault}
    {info : Int} :
    machine.faultOf? (.call target) = some (fault, info) ↔
      machine.stack.isFull = true ∧ .stackOverflow = fault ∧
        (machine.currentAddress.toNat : Int) = info := by
  rw [faultOf?.eq_def, Option.ite_none_right_eq_some, Option.some.injEq, Prod.mk.injEq]

theorem faultOf?_ret_eq_some_iff {machine : Machine} {fault : Fault} {info : Int} :
    machine.faultOf? .ret = some (fault, info) ↔
      machine.stack.isEmpty = true ∧ .stackUnderflow = fault ∧
        (machine.currentAddress.toNat : Int) = info := by
  rw [faultOf?.eq_def, Option.ite_none_right_eq_some, Option.some.injEq, Prod.mk.injEq]

/-- The faults of words that are instructions. -/
theorem mem_of_faultOf? {machine : Machine} {instruction : Instruction} {fault : Fault}
    {info : Int} (refused : machine.faultOf? instruction = some (fault, info)) :
    fault ∈ [.addressOutOfRange, .stackOverflow, .stackUnderflow, .invalidRegister] := by
  cases instruction with
  | call target =>
    obtain ⟨-, rfl, -⟩ := faultOf?_call_eq_some_iff.mp refused
    decide
  | ret =>
    obtain ⟨-, rfl, -⟩ := faultOf?_ret_eq_some_iff.mp refused
    decide
  | draw | storeDecimal | storeRegisters | loadRegisters =>
    obtain ⟨-, rfl, -⟩ := rangeFault?_eq_some_iff.mp refused
    decide
  | saveFlags | restoreFlags =>
    obtain ⟨-, rfl, -⟩ := flagsFault?_eq_some_iff.mp refused
    decide
  | _ => cases refused

theorem isFull_eq_false_of_accepted {machine : Machine} {target : Address}
    (accepted : machine.faultOf? (.call target) = none) : machine.stack.isFull = false := by
  simpa [faultOf?.eq_def] using accepted

theorem isEmpty_eq_false_of_accepted {machine : Machine}
    (accepted : machine.faultOf? .ret = none) : machine.stack.isEmpty = false := by
  simpa [faultOf?.eq_def] using accepted

theorem guardRange_of_rangeFault?_eq_some {machine : Machine} {length : Nat} {fault : Fault}
    {info : Int} (refused : machine.rangeFault? length = some (fault, info))
    (short : length ≤ 4096) {size : Int} (counted : size = length)
    (change : Machine → Machine) :
    machine.guardRange machine.index.toNat size change = machine.halt fault info := by
  obtain ⟨past, rfl, rfl⟩ := rangeFault?_eq_some_iff.mp refused
  rw [counted, guardRange_of_short _ _ _ short, if_pos past]

theorem guardRange_of_rangeFault?_eq_none {machine : Machine} {length : Nat}
    (inside : machine.rangeFault? length = none) (short : length ≤ 4096) {size : Int}
    (counted : size = length) (change : Machine → Machine) :
    machine.guardRange machine.index.toNat size change = change machine := by
  rw [rangeFault?, ite_eq_right_iff] at inside
  have fits : ¬ 4096 < machine.index.toNat + length := fun past => nomatch inside past
  rw [counted, guardRange_of_short _ _ _ short, if_neg fits]

theorem not_le_of_flagsFault? {x : Register} (accepted : flagsFault? x = none) :
    ¬ 8 ≤ x.val := by
  rw [flagsFault?, ite_eq_right_iff] at accepted
  exact fun past => nomatch accepted past

theorem drawSprite_of_inside {machine : Machine} {rows : Fin 16}
    (inside : machine.rangeFault? (spriteLength rows) = none) (x y : Register) :
    machine.drawSprite x y rows =
      let table := machine.spriteTable rows
      let drawn := machine.screen.blit machine.resolution (machine.v x).toNat (machine.v y).toNat
        table.rows (spriteHeight rows) table.width
      { machine with screen := drawn.1 }.writeFlag drawn.2 :=
  guardRange_of_rangeFault?_eq_none inside (spriteLength_le rows) rfl _

theorem storeDecimal_of_inside {machine : Machine} (inside : machine.rangeFault? 3 = none)
    (x : Register) :
    machine.storeDecimal x =
      { machine with
        memory := machine.memory.write machine.index.toNat (decimalDigits (machine.v x)) } :=
  guardRange_of_rangeFault?_eq_none inside (by omega) (show (3 : Int) = (3 : Nat) from rfl) _

theorem getElem?_take_registers (machine : Machine) {x k : Register} (within : k ≤ x) :
    (machine.registers.toList.take (x.val + 1))[k.val]? = some (machine.v k) := by
  rw [List.getElem?_take_of_lt (Nat.lt_succ_of_le within), Vector.getElem?_toList,
    Vector.getElem?_eq_getElem k.isLt]
  rfl

theorem getElem?_take_registers_eq_none (machine : Machine) {x : Register} {k : Nat}
    (behind : x.val < k) : (machine.registers.toList.take (x.val + 1))[k]? = none := by
  rw [List.getElem?_eq_none_iff, List.length_take]
  omega

/-- Of the sixteen bytes of a store only those change the memory that come from a register.
The others are written back where they were read; at the end of the memory the last byte stands
for those that could not be read, and it is not written. -/
theorem write_storedWindow (machine : Machine) (x : Register) :
    machine.memory.write machine.index.toNat (machine.storedWindow x) =
      machine.memory.write machine.index.toNat (machine.registers.toList.take (x.val + 1)) := by
  apply Vector.ext
  intro address inBounds
  rw [Memory.getElem_write, Memory.getElem_write]
  by_cases before : machine.index.toNat ≤ address
  case neg => rw [if_neg before, if_neg before]
  rw [if_pos before, if_pos before]
  obtain ⟨k, rfl⟩ := Nat.exists_eq_add_of_le before
  rw [Nat.add_sub_cancel_left]
  by_cases inside : k < 16
  case neg =>
    have beyond : (machine.storedWindow x)[k]? = none := by
      rw [List.getElem?_eq_none_iff, length_storedWindow]
      omega
    rw [beyond, machine.getElem?_take_registers_eq_none (by omega)]
  have window := machine.getElem?_storedWindow x ⟨k, inside⟩
  rw [window]
  by_cases within : (⟨k, inside⟩ : Register) ≤ x
  · rw [machine.getElem?_take_registers within, if_pos within]
  · rw [machine.getElem?_take_registers_eq_none (Fin.not_le.mp within), if_neg within,
      Option.getD_some, Option.getD_none, Memory.byteAt]
    have here : min (machine.index.toNat + k) 4095 = machine.index.toNat + k := by omega
    simp only [here]

/-- A store that is not refused writes the registers and nothing else. -/
theorem storeRegisters_of_inside {machine : Machine} {x : Register}
    (inside : machine.rangeFault? (x.val + 1) = none) :
    machine.storeRegisters x =
      { machine with
        memory := machine.memory.write machine.index.toNat
          (machine.registers.toList.take (x.val + 1)) }.advanceIndex x := by
  rw [← machine.write_storedWindow x]
  exact guardRange_of_rangeFault?_eq_none inside (by omega) (Int.natCast_succ _).symm _

theorem loadRegisters_of_inside {machine : Machine} {x : Register}
    (inside : machine.rangeFault? (x.val + 1) = none) :
    machine.loadRegisters x =
      { machine with
        registers := Vector.ofFn fun k =>
          if k ≤ x then machine.memory.byteAt (machine.index.toNat + k.val)
          else machine.v k }.advanceIndex x :=
  guardRange_of_rangeFault?_eq_none inside (by omega) (Int.natCast_succ _).symm _

/-- An instruction that cannot be carried out halts the machine and does nothing
else. -/
theorem execute_of_faultOf?_eq_some {machine : Machine} {instruction : Instruction}
    {fault : Fault} {info : Int} (refused : machine.faultOf? instruction = some (fault, info)) :
    machine.execute instruction = machine.halt fault info := by
  cases instruction with
  | call target =>
    obtain ⟨full, rfl, rfl⟩ := faultOf?_call_eq_some_iff.mp refused
    show machine.callSubroutine target = _
    rw [callSubroutine, CallStack.push_of_isFull full]
  | ret =>
    obtain ⟨unused, rfl, rfl⟩ := faultOf?_ret_eq_some_iff.mp refused
    show machine.returnFromSubroutine = _
    rw [returnFromSubroutine, CallStack.pop_of_isEmpty unused]
  | draw x y rows =>
    show machine.drawSprite x y rows = _
    unfold drawSprite
    exact guardRange_of_rangeFault?_eq_some refused (spriteLength_le rows) rfl _
  | storeDecimal x =>
    show machine.storeDecimal x = _
    unfold storeDecimal
    exact guardRange_of_rangeFault?_eq_some refused (by omega) rfl _
  | storeRegisters x =>
    show machine.storeRegisters x = _
    unfold storeRegisters
    exact guardRange_of_rangeFault?_eq_some refused (by omega) rfl _
  | loadRegisters x =>
    show machine.loadRegisters x = _
    unfold loadRegisters
    exact guardRange_of_rangeFault?_eq_some refused (by omega) rfl _
  | saveFlags x =>
    obtain ⟨past, rfl, rfl⟩ := flagsFault?_eq_some_iff.mp refused
    show machine.saveFlags x = _
    rw [saveFlags, if_pos past]
  | restoreFlags x =>
    obtain ⟨past, rfl, rfl⟩ := flagsFault?_eq_some_iff.mp refused
    show machine.restoreFlags x = _
    rw [restoreFlags, if_pos past]
  | _ => cases refused

/-! ## What an instruction does to the control part -/

/-- Whether an instruction skips the next one. -/
def skips (machine : Machine) : Instruction → Bool
  | .skipIfByte x byte => machine.v x == byte
  | .skipUnlessByte x byte => machine.v x != byte
  | .skipIfEqual x y => machine.v x == machine.v y
  | .skipUnlessEqual x y => machine.v x != machine.v y
  | .skipIfKey x => machine.keypad.isPressed (Keypad.ofByte (machine.v x))
  | .skipUnlessKey x => !machine.keypad.isPressed (Keypad.ofByte (machine.v x))
  | _ => false

/-- Where a machine goes on after an instruction, reckoned in whole numbers. -/
def target (machine : Machine) : Instruction → Int
  | .ret => machine.stack.pop.2.1.toNat
  | .jump address => address.val
  | .call address => address.val
  | .jumpOffset base => base.val + (machine.v (machine.offsetRegister base)).toNat
  | .waitKey _ =>
    if machine.keypad.lowest?.isNone then machine.pc.toNat - 2 else machine.pc.toNat
  | instruction =>
    if machine.skips instruction then machine.pc.toNat + 2 else machine.pc.toNat

/-- The call stack after an instruction. -/
def stackAfter (machine : Machine) : Instruction → CallStack
  | .ret => machine.stack.pop.1
  | .call _ => (machine.stack.push machine.pc).1
  | _ => machine.stack

/-- The mode after an instruction. -/
def modeAfter (machine : Machine) : Instruction → Mode
  | .exit => .done
  | .waitKey _ => if machine.keypad.lowest?.isNone then .waitingForKey else .running
  | _ => machine.mode

/-- The control part after an instruction that can be carried out.  Of the target the
low sixteen bits count. -/
def controlAfter (machine : Machine) (instruction : Instruction) : Control where
  pc := UInt16.ofInt (machine.target instruction)
  stack := machine.stackAfter instruction
  mode := machine.modeAfter instruction
  fault := machine.fault
  faultInfo := machine.faultInfo

theorem control_of_unchanged {machine next : Machine} (same : next.control = machine.control) :
    next.control = { machine.control with pc := UInt16.ofInt machine.pc.toNat } := by
  rw [same, ofInt_toNat]
  rfl

theorem control_of_data (machine : Machine) (memory : Memory) (index : UInt16)
    (registers : Vector UInt8 16) (delayTimer soundTimer : UInt8) (screen : Screen)
    (resolution : Resolution) (flags : Vector UInt8 8) (randomKey : RandomKey) :
    { machine with
      memory := memory
      index := index
      registers := registers
      delayTimer := delayTimer
      soundTimer := soundTimer
      screen := screen
      resolution := resolution
      flags := flags
      randomKey := randomKey }.control =
      { machine.control with pc := UInt16.ofInt machine.pc.toNat } :=
  control_of_unchanged rfl

theorem control_combine (machine : Machine) (operation : Arithmetic) (x y : Register) :
    (machine.combine operation x y).control = machine.control := by
  unfold combine
  split <;> rfl

theorem control_addToIndex (machine : Machine) (x : Register) :
    (machine.addToIndex x).control = machine.control := by
  unfold addToIndex
  split <;> rfl

theorem control_advanceIndex (machine : Machine) (x : Register) :
    (machine.advanceIndex x).control = machine.control := by
  unfold advanceIndex
  split <;> rfl

theorem control_skipIf (machine : Machine) (condition : Bool) :
    (machine.skipIf condition).control =
      { machine.control with
        pc := UInt16.ofInt (if condition then machine.pc.toNat + 2 else machine.pc.toNat) } := by
  cases condition with
  | false =>
    show machine.control = { machine.control with pc := UInt16.ofInt machine.pc.toNat }
    rw [ofInt_toNat]
    rfl
  | true =>
    show { machine.control with pc := machine.pc + 2 } =
      { machine.control with pc := UInt16.ofInt (machine.pc.toNat + 2) }
    rw [UInt16.ofInt_add, ofInt_toNat]
    rfl

theorem control_callSubroutine {machine : Machine} (room : machine.stack.isFull = false)
    (address : Address) :
    (machine.callSubroutine address).control = machine.controlAfter (.call address) := by
  rw [callSubroutine, CallStack.push_of_not_isFull room, ← ofInt_natCast]
  rfl

theorem control_returnFromSubroutine {machine : Machine} (used : machine.stack.isEmpty = false) :
    machine.returnFromSubroutine.control = machine.controlAfter .ret := by
  rw [returnFromSubroutine, CallStack.pop_of_not_isEmpty used]
  show Control.mk machine.stack.pop.2.1 _ _ _ _ =
    Control.mk (UInt16.ofInt machine.stack.pop.2.1.toNat) _ _ _ _
  rw [ofInt_toNat]
  rfl

theorem control_jumpWithOffset (machine : Machine) (base : Address) :
    (machine.jumpWithOffset base).control = machine.controlAfter (.jumpOffset base) := by
  show Control.mk (UInt16.ofNat (base.val + (machine.v (machine.offsetRegister base)).toNat))
      _ _ _ _ = _
  rw [← ofInt_natCast]
  rfl

theorem control_waitForKey (machine : Machine) (x : Register) :
    (machine.waitForKey x).control = machine.controlAfter (.waitKey x) := by
  cases found : machine.keypad.lowest? with
  | none =>
    simp only [waitForKey, controlAfter, target, stackAfter, modeAfter, found]
    simp only [control, currentAddress, Option.isNone_none, ↓reduceIte, Int.sub_eq_add_neg,
      UInt16.ofInt_add, ofInt_toNat, UInt16.sub_eq_add_neg]
    rfl
  | some key =>
    simp only [waitForKey, controlAfter, target, stackAfter, modeAfter, found]
    simp only [control, Option.isNone_some, Bool.false_eq_true, ↓reduceIte, ofInt_toNat]
    rfl

/-- An instruction that can be carried out does this to the control part. -/
theorem control_execute {machine : Machine} {instruction : Instruction}
    (accepted : machine.faultOf? instruction = none) :
    (machine.execute instruction).control = machine.controlAfter instruction := by
  cases instruction with
  | ret => exact control_returnFromSubroutine (isEmpty_eq_false_of_accepted accepted)
  | call address => exact control_callSubroutine (isFull_eq_false_of_accepted accepted) address
  | jump address =>
    show Control.mk (UInt16.ofNat address.val) _ _ _ _ = _
    rw [← ofInt_natCast]
    rfl
  | jumpOffset base => exact machine.control_jumpWithOffset base
  | waitKey x => exact machine.control_waitForKey x
  | exit =>
    show Control.mk machine.pc _ _ _ _ = Control.mk (UInt16.ofInt machine.pc.toNat) _ _ _ _
    rw [ofInt_toNat]
    rfl
  | skipIfByte x byte => exact machine.control_skipIf _
  | skipUnlessByte x byte => exact machine.control_skipIf _
  | skipIfEqual x y => exact machine.control_skipIf _
  | skipUnlessEqual x y => exact machine.control_skipIf _
  | skipIfKey x => exact machine.control_skipIf _
  | skipUnlessKey x => exact machine.control_skipIf _
  | arithmetic operation x y => exact control_of_unchanged (machine.control_combine operation x y)
  | addIndex x =>
    show (machine.addToIndex x).control = _
    exact control_of_unchanged (machine.control_addToIndex x)
  | draw x y rows =>
    show (machine.drawSprite x y rows).control = _
    rw [drawSprite_of_inside accepted]
    exact machine.control_of_data _ _ _ _ _ _ _ _ _
  | storeDecimal x =>
    show (machine.storeDecimal x).control = _
    rw [storeDecimal_of_inside accepted]
    exact machine.control_of_data _ _ _ _ _ _ _ _ _
  | storeRegisters x =>
    show (machine.storeRegisters x).control = _
    rw [storeRegisters_of_inside accepted, control_advanceIndex]
    exact machine.control_of_data _ _ _ _ _ _ _ _ _
  | loadRegisters x =>
    show (machine.loadRegisters x).control = _
    rw [loadRegisters_of_inside accepted, control_advanceIndex]
    exact machine.control_of_data _ _ _ _ _ _ _ _ _
  | saveFlags x =>
    show (machine.saveFlags x).control = _
    rw [saveFlags, if_neg (not_le_of_flagsFault? accepted)]
    exact machine.control_of_data _ _ _ _ _ _ _ _ _
  | restoreFlags x =>
    show (machine.restoreFlags x).control = _
    rw [restoreFlags, if_neg (not_le_of_flagsFault? accepted)]
    exact machine.control_of_data _ _ _ _ _ _ _ _ _
  | _ => exact machine.control_of_data _ _ _ _ _ _ _ _ _

section Accepted

variable {machine : Machine} {instruction : Instruction}

theorem pc_execute (accepted : machine.faultOf? instruction = none) :
    (machine.execute instruction).pc = UInt16.ofInt (machine.target instruction) :=
  congrArg Control.pc (control_execute accepted)

theorem stack_execute (accepted : machine.faultOf? instruction = none) :
    (machine.execute instruction).stack = machine.stackAfter instruction :=
  congrArg Control.stack (control_execute accepted)

theorem mode_execute (accepted : machine.faultOf? instruction = none) :
    (machine.execute instruction).mode = machine.modeAfter instruction :=
  congrArg Control.mode (control_execute accepted)

theorem fault_execute (accepted : machine.faultOf? instruction = none) :
    (machine.execute instruction).fault = machine.fault :=
  congrArg Control.fault (control_execute accepted)

theorem faultInfo_execute (accepted : machine.faultOf? instruction = none) :
    (machine.execute instruction).faultInfo = machine.faultInfo :=
  congrArg Control.faultInfo (control_execute accepted)

/-- An instruction that can be carried out halts no machine. -/
theorem mode_ne_halted_of_execute (accepted : machine.faultOf? instruction = none)
    (running : machine.mode ≠ .halted) : (machine.execute instruction).mode ≠ .halted := by
  rw [mode_execute accepted, modeAfter.eq_def]
  split
  · decide
  · split <;> decide
  · exact running

end Accepted

end Machine

end Chip8
