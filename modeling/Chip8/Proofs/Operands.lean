/-
# Operands

The index register and the registers `V0` to `VF` are what instructions compute with.
`operands_execute` says once what every instruction does to them.
-/
import Chip8.Proofs.Control

namespace Chip8

/-- The registers of a machine that instructions compute with. -/
structure Operands where
  index : UInt16
  registers : Vector UInt8 16
deriving DecidableEq

namespace Machine

variable {machine : Machine} {instruction : Instruction}

/-! ## Registers -/

/-- Machines whose registers read the same have the same registers. -/
theorem registers_eq_of_v {first second : Machine} (same : ∀ k, first.v k = second.v k) :
    first.registers = second.registers := by
  apply Vector.ext
  exact fun k bound => same ⟨k, bound⟩

theorem combine_eq (machine : Machine) (operation : Arithmetic) (x y : Register) :
    machine.combine operation x y =
      { machine with registers := (machine.combine operation x y).registers } := by
  unfold combine
  split <;> rfl

/-- The value of an operation is in its first register unless the flag is there. -/
theorem v_combine (machine : Machine) (operation : Arithmetic) {x y k : Register}
    (other : flagRegister ≠ k) :
    (machine.combine operation x y).v k =
      if x = k then (operation.apply machine.dialect (machine.v x) (machine.v y)).1
      else machine.v k := by
  rw [combine]
  rcases operation.apply machine.dialect (machine.v x) (machine.v y) with ⟨value, _ | flag⟩
  · exact machine.v_write x k value
  · dsimp only
    rw [v_write, if_neg other, v_write]

/-! ## What an instruction does to the operands -/

/-- The operands of a machine. -/
def operands (machine : Machine) : Operands := ⟨machine.index, machine.registers⟩

/-- The index register after the first registers up to `x` were transferred. -/
def indexAfterTransfer (machine : Machine) (x : Register) : UInt16 :=
  if machine.dialect.transferAdvancesIndex then machine.index + UInt16.ofNat (x.val + 1)
  else machine.index

theorem advanceIndex_eq (machine : Machine) (x : Register) :
    machine.advanceIndex x = { machine with index := machine.indexAfterTransfer x } := by
  unfold advanceIndex indexAfterTransfer
  split <;> rfl

/-- The registers once those up to `x` were restored from the flag registers. -/
def registersRestored (machine : Machine) (x : Register) : Vector UInt8 16 :=
  Vector.ofFn fun k => if k ≤ x then machine.flags[k.val]?.getD (machine.v k) else machine.v k

/-- What the draw instruction does to the screen, and whether a lit pixel goes out. -/
def drawn (machine : Machine) (x y : Register) (rows : Fin 16) : Screen × Bool :=
  machine.screen.blit machine.resolution (machine.v x).toNat (machine.v y).toNat
    (machine.spriteTable rows).rows (spriteHeight rows) (machine.spriteTable rows).width

/-- The operands after an instruction that can be carried out. -/
def operandsAfter (machine : Machine) : Instruction → Operands
  | .loadByte x byte => (machine.write x byte).operands
  | .addByte x byte => (machine.write x (machine.v x + byte)).operands
  | .loadIndex value => { machine.operands with index := UInt16.ofNat value.val }
  | .random x mask => (machine.write x (machine.randomKey.byte &&& mask)).operands
  | .arithmetic operation x y => (machine.combine operation x y).operands
  | .draw x y rows => (machine.writeFlag (machine.drawn x y rows).2).operands
  | .waitKey x =>
    match machine.keypad.lowest? with
    | some key => (machine.write x (UInt8.ofNat key.val)).operands
    | none => machine.operands
  | .readDelay x => (machine.write x machine.delayTimer).operands
  | .addIndex x => (machine.addToIndex x).operands
  | .smallDigit x =>
    { machine.operands with
      index := UInt16.ofNat (Font.smallStart + (machine.v x).toNat % 16 * Font.smallRows) }
  | .largeDigit x =>
    { machine.operands with
      index := UInt16.ofNat (Font.largeStart + (machine.v x).toNat % 16 * Font.largeRows) }
  | .storeRegisters x => { machine.operands with index := machine.indexAfterTransfer x }
  | .loadRegisters x =>
    ⟨machine.indexAfterTransfer x, Vector.ofFn fun k =>
      if k ≤ x then machine.memory.byteAt (machine.index.toNat + k.val) else machine.v k⟩
  | .restoreFlags x => { machine.operands with registers := machine.registersRestored x }
  | _ => machine.operands

theorem operands_of_others (machine : Machine) (memory : Memory) (pc : UInt16)
    (stack : CallStack) (delayTimer soundTimer : UInt8) (screen : Screen)
    (resolution : Resolution) (flags : Vector UInt8 8) (mode : Mode) (randomKey : RandomKey) :
    { machine with
      memory := memory
      pc := pc
      stack := stack
      delayTimer := delayTimer
      soundTimer := soundTimer
      screen := screen
      resolution := resolution
      flags := flags
      mode := mode
      randomKey := randomKey }.operands = machine.operands :=
  rfl

theorem operands_writeFlag_of_screen (machine : Machine) (screen : Screen) (value : Bool) :
    ({ machine with screen := screen }.writeFlag value).operands =
      (machine.writeFlag value).operands :=
  rfl

theorem operands_skipIf (machine : Machine) (condition : Bool) :
    (machine.skipIf condition).operands = machine.operands := by
  unfold skipIf
  split <;> rfl

theorem operands_advanceIndex (machine : Machine) (memory : Memory)
    (registers : Vector UInt8 16) (x : Register) :
    ({ machine with memory := memory, registers := registers }.advanceIndex x).operands =
      ⟨machine.indexAfterTransfer x, registers⟩ := by
  unfold advanceIndex indexAfterTransfer
  split <;> rfl

/-- An instruction that can be carried out does this to the operands. -/
theorem operands_execute (accepted : machine.faultOf? instruction = none) :
    (machine.execute instruction).operands = machine.operandsAfter instruction := by
  cases instruction with
  | ret =>
    show machine.returnFromSubroutine.operands = machine.operands
    unfold returnFromSubroutine
    split <;> rfl
  | call target =>
    show (machine.callSubroutine target).operands = machine.operands
    unfold callSubroutine
    split <;> rfl
  | waitKey x =>
    show (machine.waitForKey x).operands = _
    rw [waitForKey, operandsAfter.eq_def]
    dsimp only
    cases machine.keypad.lowest? <;> rfl
  | skipIfByte x byte => exact machine.operands_skipIf _
  | skipUnlessByte x byte => exact machine.operands_skipIf _
  | skipIfEqual x y => exact machine.operands_skipIf _
  | skipUnlessEqual x y => exact machine.operands_skipIf _
  | skipIfKey x => exact machine.operands_skipIf _
  | skipUnlessKey x => exact machine.operands_skipIf _
  | draw x y rows =>
    show (machine.drawSprite x y rows).operands = _
    rw [drawSprite_of_inside accepted]
    exact machine.operands_writeFlag_of_screen _ _
  | storeDecimal x =>
    show (machine.storeDecimal x).operands = machine.operands
    rw [storeDecimal_of_inside accepted]
    exact machine.operands_of_others _ _ _ _ _ _ _ _ _ _
  | storeRegisters x =>
    show (machine.storeRegisters x).operands = _
    rw [storeRegisters_of_inside accepted]
    exact machine.operands_advanceIndex _ _ x
  | loadRegisters x =>
    show (machine.loadRegisters x).operands = _
    rw [loadRegisters_of_inside accepted]
    exact machine.operands_advanceIndex _ _ x
  | saveFlags x =>
    show (machine.saveFlags x).operands = machine.operands
    rw [saveFlags, if_neg (not_le_of_flagsFault? accepted)]
    exact machine.operands_of_others _ _ _ _ _ _ _ _ _ _
  | restoreFlags x =>
    show (machine.restoreFlags x).operands = _
    rw [restoreFlags, if_neg (not_le_of_flagsFault? accepted)]
    rfl
  | loadByte x byte => rfl
  | addByte x byte => rfl
  | loadIndex value => rfl
  | random x mask => rfl
  | arithmetic operation x y => rfl
  | readDelay x => rfl
  | addIndex x => rfl
  | smallDigit x => rfl
  | largeDigit x => rfl
  | _ => exact machine.operands_of_others _ _ _ _ _ _ _ _ _ _

end Machine

end Chip8
