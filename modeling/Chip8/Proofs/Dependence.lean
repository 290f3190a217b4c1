/-
# Dependence

Few instructions look at the devices around the processor, and each looks at few of
their parts.  `Needs` says which, and `AgreeExcept` compares two machines up to parts that
are hidden.  Machines that agree but for hidden parts go on to agree as long as the first
one executes no instruction that needs a hidden part; this is `AgreeExcept.step` for one
step and `AgreeExcept.performAll` for a history of calls.
-/
import Chip8.Proofs.ActiveScreen
import Chip8.Proofs.Devices
import Chip8.Proofs.Drawing
import Chip8.Proofs.Operands
import Chip8.Proofs.Trace

namespace Chip8

namespace Dialect

/-- The points on which dialects differ. -/
inductive Point where
  | shift
  | transfer
  | jump
  | logic
  | overflow
deriving DecidableEq, Repr

/-- What a dialect chooses on a point. -/
def choice (dialect : Dialect) : Point → Bool
  | .shift => dialect.shiftReadsVY
  | .transfer => dialect.transferAdvancesIndex
  | .jump => dialect.jumpAddsVX
  | .logic => dialect.logicClearsVF
  | .overflow => dialect.indexOverflowSetsVF

theorem eq_of_choice {first second : Dialect}
    (same : ∀ point, first.choice point = second.choice point) : first = second := by
  cases first
  cases second
  rw [mk.injEq]
  exact ⟨same .shift, same .transfer, same .jump, same .logic, same .overflow⟩

end Dialect

/-- A part of the devices of a machine. -/
inductive Part where
  | cell (address : Address)
  | keypad
  | delayTimer
  | soundTimer
  | flags
  | randomKey
  | dialect (point : Dialect.Point)
deriving DecidableEq, Repr

/-- Whether a part is the same in both devices. -/
def Part.SameIn (first second : Devices) : Part → Prop
  | .cell address => first.memory.cell address = second.memory.cell address
  | .keypad => first.keypad = second.keypad
  | .delayTimer => first.delayTimer = second.delayTimer
  | .soundTimer => first.soundTimer = second.soundTimer
  | .flags => first.flags = second.flags
  | .randomKey => first.randomKey = second.randomKey
  | .dialect point => first.dialect.choice point = second.dialect.choice point

namespace Part.SameIn

variable {first second third : Devices} {part : Part}

theorem symm (same : part.SameIn first second) : part.SameIn second first := by
  cases part <;> exact Eq.symm same

theorem trans (same : part.SameIn first second) (sameToo : part.SameIn second third) :
    part.SameIn first third := by
  cases part <;> exact Eq.trans same sameToo

end Part.SameIn

/-- Devices consist of their parts. -/
theorem Devices.eq_of_parts {first second : Devices}
    (same : ∀ part : Part, part.SameIn first second) : first = second := by
  cases first
  cases second
  rw [mk.injEq]
  refine ⟨?_, same .keypad, same .delayTimer, same .soundTimer, same .flags, same .randomKey,
    Dialect.eq_of_choice fun point => same (.dialect point)⟩
  exact Memory.eq_of_cells fun address => same (.cell address)

/-- The parts of the devices that an instruction reads besides memory. -/
def Instruction.reads : Instruction → List Part
  | .skipIfKey _ => [.keypad]
  | .skipUnlessKey _ => [.keypad]
  | .waitKey _ => [.keypad]
  | .readDelay _ => [.delayTimer]
  | .restoreFlags _ => [.flags]
  | .random _ _ => [.randomKey]
  | .arithmetic .shiftRight _ _ => [.dialect .shift]
  | .arithmetic .shiftLeft _ _ => [.dialect .shift]
  | .arithmetic .or _ _ => [.dialect .logic]
  | .arithmetic .and _ _ => [.dialect .logic]
  | .arithmetic .xor _ _ => [.dialect .logic]
  | .storeRegisters _ => [.dialect .transfer]
  | .loadRegisters _ => [.dialect .transfer]
  | .jumpOffset _ => [.dialect .jump]
  | .addIndex _ => [.dialect .overflow]
  | _ => []

/-- No instruction reads the sound timer. -/
theorem Instruction.soundTimer_not_mem_reads (instruction : Instruction) :
    .soundTimer ∉ instruction.reads := by
  cases instruction with
  | arithmetic operation x y => cases operation <;> simp [reads]
  | _ => simp [reads]

theorem Instruction.exists_of_reads_randomKey {instruction : Instruction}
    (draws : .randomKey ∈ instruction.reads) : ∃ x mask, instruction = .random x mask := by
  cases instruction with
  | random x mask => exact ⟨x, mask, rfl⟩
  | arithmetic operation x y => cases operation <;> simp [reads] at draws
  | _ => simp [reads] at draws

/-- The number of bytes from the index register on that an instruction reads or writes. -/
def Instruction.operandLength : Instruction → Nat
  | .draw _ _ rows => Machine.spriteLength rows
  | .storeDecimal _ => 3
  | .storeRegisters x => x.val + 1
  | .loadRegisters x => x.val + 1
  | _ => 0

namespace Machine

/-- Whether a machine needs a part of its devices to execute an instruction. -/
def Needs (machine : Machine) (instruction : Instruction) : Part → Prop
  | .cell address =>
    machine.index.toNat ≤ address.val ∧
      address.val < machine.index.toNat + instruction.operandLength
  | part => part ∈ instruction.reads

/-- The machine with other devices. -/
def withDevices (machine : Machine) (devices : Devices) : Machine :=
  { machine with
    memory := devices.memory
    keypad := devices.keypad
    delayTimer := devices.delayTimer
    soundTimer := devices.soundTimer
    flags := devices.flags
    randomKey := devices.randomKey
    dialect := devices.dialect }

@[simp] theorem v_withDevices (machine : Machine) (devices : Devices) (register : Register) :
    (machine.withDevices devices).v register = machine.v register := rfl

@[simp] theorem dialect_withDevices (machine : Machine) (devices : Devices) :
    (machine.withDevices devices).dialect = devices.dialect := rfl

end Machine

namespace Memory

variable {first second : Memory} {start length : Nat}

theorem span_eq_of_cells (inside : start + length ≤ 4096)
    (same : ∀ address : Address, start ≤ address.val ∧ address.val < start + length →
      first.cell address = second.cell address) :
    first.span start length = second.span start length := by
  apply List.map_congr_left
  intro offset member
  have bound : offset < length := List.mem_range.mp member
  have address : wrap32 ((start : Int) + (offset : Nat)) = (start + offset : Nat) := by
    rw [wrap32_of_bounds (by omega) (by omega)]
    omega
  have here : start + offset < 4096 := by omega
  rw [address, Int.toNat_natCast, byteAt_eq_cell _ here, byteAt_eq_cell _ here]
  exact same _ ⟨Nat.le_add_right _ _, Nat.add_lt_add_left bound start⟩

theorem wordAt_eq_of_cells (inside : start + 2 ≤ 4096)
    (same : ∀ address : Address, address.val = start ∨ address.val = start + 1 →
      first.cell address = second.cell address) :
    first.wordAt start = second.wordAt start := by
  have high : start < 4096 := by omega
  have low : start + 1 < 4096 := by omega
  rw [wordAt, wordAt, byteAt_eq_cell _ high, byteAt_eq_cell _ high, byteAt_eq_cell _ low,
    byteAt_eq_cell _ low, same _ (.inl rfl), same _ (.inr rfl)]

/-- A run that is written is the same in both memories, and the cells outside it are as
they were. -/
theorem cell_write_congr {address : Address} (bytes : List UInt8)
    (same : first.cell address = second.cell address) :
    (first.write start bytes).cell address = (second.write start bytes).cell address := by
  show (first.write start bytes)[address.val] = (second.write start bytes)[address.val]
  replace same : first[address.val] = second[address.val] := same
  rw [getElem_write, getElem_write, same]

end Memory

/-- A run of bytes that is written to both memories leaves every part as much the same as it
was. -/
theorem Part.SameIn.write {first second : Devices} {part : Part} (same : part.SameIn first second)
    (start : Nat) (bytes : List UInt8) :
    part.SameIn { first with memory := first.memory.write start bytes }
      { second with memory := second.memory.write start bytes } := by
  cases part with
  | cell address => exact Memory.cell_write_congr bytes same
  | _ => exact same

theorem Arithmetic.apply_eq_of_choice {first second : Dialect} {operation : Arithmetic}
    {x y : Register}
    (same : ∀ point, .dialect point ∈ (Instruction.arithmetic operation x y).reads →
      first.choice point = second.choice point) (a b : UInt8) :
    operation.apply first a b = operation.apply second a b := by
  have cleared (logic : .dialect .logic ∈ (Instruction.arithmetic operation x y).reads) :
      first.logicClearsVF = second.logicClearsVF := same .logic logic
  have source (shift : .dialect .shift ∈ (Instruction.arithmetic operation x y).reads) :
      first.shiftReadsVY = second.shiftReadsVY := same .shift shift
  cases operation with
  | or => simp only [apply, cleared (List.mem_singleton_self _)]
  | and => simp only [apply, cleared (List.mem_singleton_self _)]
  | xor => simp only [apply, cleared (List.mem_singleton_self _)]
  | shiftRight => simp only [apply, source (List.mem_singleton_self _)]
  | shiftLeft => simp only [apply, source (List.mem_singleton_self _)]
  | _ => rfl

namespace Machine

/-! ## One instruction -/

section Instructions

variable {machine : Machine} {devices : Devices} {instruction : Instruction}

theorem faultOf?_withDevices (machine : Machine) (devices : Devices) (instruction : Instruction) :
    (machine.withDevices devices).faultOf? instruction = machine.faultOf? instruction := by
  cases instruction <;> rfl

theorem fits_of_rangeFault? {length : Nat} (inside : machine.rangeFault? length = none) :
    machine.index.toNat + length ≤ 4096 := by
  rw [rangeFault?, ite_eq_right_iff] at inside
  exact Nat.not_lt.mp fun past => Option.some_ne_none _ (inside past)

theorem drawn_withDevices {x y : Register} {rows : Fin 16}
    (needed : ∀ part, machine.Needs (.draw x y rows) part → part.SameIn machine.devices devices)
    (accepted : machine.faultOf? (.draw x y rows) = none) :
    (machine.withDevices devices).drawn x y rows = machine.drawn x y rows := by
  have fits : machine.index.toNat + spriteLength rows ≤ 4096 := fits_of_rangeFault? accepted
  have same : (devices.memory.toList.drop machine.index.toNat).take (spriteLength rows) =
      (machine.memory.toList.drop machine.index.toNat).take (spriteLength rows) := by
    rw [← Memory.span_eq_take_drop _ fits, ← Memory.span_eq_take_drop _ fits]
    exact Memory.span_eq_of_cells fits fun address operand => (needed (.cell address) operand).symm
  rw [drawn, drawn, blit_spriteTable machine rows fits,
    blit_spriteTable (machine.withDevices devices) rows fits, ← same]
  rfl

theorem indexAfterTransfer_withDevices
    (same : machine.dialect.transferAdvancesIndex = devices.dialect.transferAdvancesIndex)
    (x : Register) :
    (machine.withDevices devices).indexAfterTransfer x = machine.indexAfterTransfer x := by
  rw [indexAfterTransfer, indexAfterTransfer, same]
  rfl

/-- Registers that are loaded from the operand are the same when the operand is. -/
theorem byteAt_withDevices {x k : Register}
    (needed : ∀ part, machine.Needs (.loadRegisters x) part → part.SameIn machine.devices devices)
    (accepted : machine.faultOf? (.loadRegisters x) = none) (within : k ≤ x) :
    devices.memory.byteAt (machine.index.toNat + k.val) =
      machine.memory.byteAt (machine.index.toNat + k.val) := by
  have fits : machine.index.toNat + (x.val + 1) ≤ 4096 := fits_of_rangeFault? accepted
  have within : k.val < x.val + 1 := Nat.lt_succ_of_le within
  have operand : machine.index.toNat + k.val < 4096 := by omega
  rw [Memory.byteAt_eq_cell _ operand, Memory.byteAt_eq_cell _ operand]
  exact (needed (.cell ⟨_, operand⟩) ⟨Nat.le_add_right _ _, Nat.add_lt_add_left within _⟩).symm

section Needed

variable (needed : ∀ part, machine.Needs instruction part → part.SameIn machine.devices devices)

include needed

theorem controlAfter_withDevices :
    (machine.withDevices devices).controlAfter instruction =
      machine.controlAfter instruction := by
  obtain ⟨memory, keypad, delayTimer, soundTimer, flags, randomKey, dialect⟩ := devices
  cases instruction with
  | skipIfKey x =>
    obtain rfl : machine.keypad = keypad := needed .keypad (List.mem_singleton_self _)
    rfl
  | skipUnlessKey x =>
    obtain rfl : machine.keypad = keypad := needed .keypad (List.mem_singleton_self _)
    rfl
  | waitKey x =>
    obtain rfl : machine.keypad = keypad := needed .keypad (List.mem_singleton_self _)
    rfl
  | jumpOffset base =>
    have same : machine.dialect.jumpAddsVX = dialect.jumpAddsVX :=
      needed (.dialect .jump) (List.mem_singleton_self _)
    simp only [controlAfter, target, offsetRegister, withDevices, same]
    rfl
  | _ => rfl

theorem operandsAfter_withDevices (accepted : machine.faultOf? instruction = none) :
    (machine.withDevices devices).operandsAfter instruction =
      machine.operandsAfter instruction := by
  obtain ⟨memory, keypad, delayTimer, soundTimer, flags, randomKey, dialect⟩ := devices
  cases instruction with
  | random x mask =>
    obtain rfl : machine.randomKey = randomKey := needed .randomKey (List.mem_singleton_self _)
    rfl
  | arithmetic operation x y =>
    have same : operation.apply dialect (machine.v x) (machine.v y) =
        operation.apply machine.dialect (machine.v x) (machine.v y) :=
      Arithmetic.apply_eq_of_choice (fun point reads => (needed (.dialect point) reads).symm) _ _
    simp only [operandsAfter, combine, dialect_withDevices, v_withDevices, same]
    obtain ⟨value, _ | flag⟩ := operation.apply machine.dialect (machine.v x) (machine.v y)
    · rfl
    · rfl
  | draw x y rows =>
    have drawn := drawn_withDevices needed accepted
    show ((machine.withDevices _).writeFlag ((machine.withDevices _).drawn x y rows).2).operands = _
    rw [drawn]
    rfl
  | waitKey x =>
    obtain rfl : machine.keypad = keypad := needed .keypad (List.mem_singleton_self _)
    rfl
  | readDelay x =>
    obtain rfl : machine.delayTimer = delayTimer := needed .delayTimer (List.mem_singleton_self _)
    rfl
  | addIndex x =>
    have same : machine.dialect.indexOverflowSetsVF = dialect.indexOverflowSetsVF :=
      needed (.dialect .overflow) (List.mem_singleton_self _)
    show operands (if dialect.indexOverflowSetsVF then _ else _) =
      operands (if machine.dialect.indexOverflowSetsVF then _ else _)
    rw [same]
    split <;> rfl
  | storeRegisters x =>
    have same : machine.dialect.transferAdvancesIndex = dialect.transferAdvancesIndex :=
      needed (.dialect .transfer) (List.mem_singleton_self _)
    rw [operandsAfter, operandsAfter, indexAfterTransfer_withDevices same]
    rfl
  | loadRegisters x =>
    have same : machine.dialect.transferAdvancesIndex = dialect.transferAdvancesIndex :=
      needed (.dialect .transfer) (List.mem_singleton_self _)
    rw [operandsAfter, operandsAfter, indexAfterTransfer_withDevices same]
    congr 2
    funext k
    by_cases within : k ≤ x
    · rw [if_pos within, if_pos within]
      exact byteAt_withDevices needed accepted within
    · rw [if_neg within, if_neg within]
      rfl
  | restoreFlags x =>
    obtain rfl : machine.flags = flags := needed .flags (List.mem_singleton_self _)
    rfl
  | _ => rfl

theorem displayAfter_withDevices (accepted : machine.faultOf? instruction = none) :
    (machine.withDevices devices).displayAfter instruction = machine.displayAfter instruction := by
  cases instruction with
  | draw x y rows =>
    exact congrArg (fun drawn => (machine.resolution, drawn.1)) (drawn_withDevices needed accepted)
  | _ => rfl

end Needed

/-- What an instruction makes of a part of the devices depends on nothing else of them. -/
theorem sameIn_devicesAfter_withDevices {part : Part}
    (same : part.SameIn machine.devices devices) (instruction : Instruction) :
    part.SameIn (machine.devicesAfter instruction)
      ((machine.withDevices devices).devicesAfter instruction) := by
  cases instruction with
  | storeDecimal x => exact same.write machine.index.toNat (decimalDigits (machine.v x))
  | storeRegisters x =>
    exact same.write machine.index.toNat (machine.registers.toList.take (x.val + 1))
  | saveFlags x =>
    cases part with
    | flags =>
      replace same : machine.flags = devices.flags := same
      show machine.flagsSaved x = (machine.withDevices devices).flagsSaved x
      rw [flagsSaved, same]
      rfl
    | _ => exact same
  | setDelay x =>
    cases part with
    | delayTimer => rfl
    | _ => exact same
  | setSound x =>
    cases part with
    | soundTimer => rfl
    | _ => exact same
  | random x mask =>
    cases part with
    | randomKey => exact congrArg RandomKey.next same
    | _ => exact same
  | _ => exact same

end Instructions

/-! ## Machines that agree but for hidden parts -/

/-- Two machines are the same but for hidden parts of their devices. -/
structure AgreeExcept (hidden : List Part) (first second : Machine) : Prop where
  control : first.control = second.control
  display : first.display = second.display
  operands : first.operands = second.operands
  devices : ∀ part ∉ hidden, part.SameIn first.devices second.devices

namespace AgreeExcept

variable {hidden : List Part} {first second third : Machine} {instruction : Instruction}

theorem eq_withDevices (agree : AgreeExcept hidden first second) :
    second = first.withDevices second.devices := by
  obtain ⟨control, display, operands, -⟩ := agree
  cases first
  cases second
  cases control
  cases display
  cases operands
  rfl

theorem exists_withDevices (agree : AgreeExcept hidden first second) :
    ∃ devices, second = first.withDevices devices ∧
      ∀ part ∉ hidden, part.SameIn first.devices devices :=
  ⟨second.devices, agree.eq_withDevices, agree.devices⟩

/-- Machines that also agree in the hidden parts are the same. -/
theorem eq_of_parts (agree : AgreeExcept hidden first second)
    (same : ∀ part ∈ hidden, part.SameIn first.devices second.devices) : first = second := by
  have devices : first.devices = second.devices := by
    apply Devices.eq_of_parts
    intro part
    by_cases member : part ∈ hidden
    · exact same part member
    · exact agree.devices part member
  rw [agree.eq_withDevices, ← devices]
  rfl

theorem symm (agree : AgreeExcept hidden first second) : AgreeExcept hidden second first :=
  ⟨agree.control.symm, agree.display.symm, agree.operands.symm,
    fun part seen => (agree.devices part seen).symm⟩

theorem trans (agree : AgreeExcept hidden first second)
    (agreeToo : AgreeExcept hidden second third) : AgreeExcept hidden first third :=
  ⟨agree.control.trans agreeToo.control, agree.display.trans agreeToo.display,
    agree.operands.trans agreeToo.operands,
    fun part seen => (agree.devices part seen).trans (agreeToo.devices part seen)⟩

theorem halt (agree : AgreeExcept hidden first second) (fault : Fault) (info : Int) :
    AgreeExcept hidden (first.halt fault info) (second.halt fault info) := by
  obtain ⟨devices, rfl, visible⟩ := agree.exists_withDevices
  exact ⟨rfl, rfl, rfl, visible⟩

theorem fetched (agree : AgreeExcept hidden first second) :
    AgreeExcept hidden first.fetched second.fetched := by
  obtain ⟨devices, rfl, visible⟩ := agree.exists_withDevices
  exact ⟨rfl, rfl, rfl, visible⟩

theorem execute (agree : AgreeExcept hidden first second)
    (unread : ∀ part ∈ hidden, ¬ first.Needs instruction part) :
    AgreeExcept hidden (first.execute instruction) (second.execute instruction) := by
  obtain ⟨devices, rfl, visible⟩ := agree.exists_withDevices
  have needed (part : Part) (needs : first.Needs instruction part) :
      part.SameIn first.devices devices :=
    visible part fun member => unread part member needs
  have fault := first.faultOf?_withDevices devices instruction
  cases accepted : first.faultOf? instruction with
  | some reason =>
    rw [execute_of_faultOf?_eq_some accepted, execute_of_faultOf?_eq_some (fault.trans accepted)]
    exact agree.halt _ _
  | none =>
    have acceptedToo := fault.trans accepted
    refine ⟨?_, ?_, ?_, ?_⟩
    · rw [control_execute accepted, control_execute acceptedToo, controlAfter_withDevices needed]
    · rw [display_execute accepted, display_execute acceptedToo,
        displayAfter_withDevices needed accepted]
    · rw [operands_execute accepted, operands_execute acceptedToo,
        operandsAfter_withDevices needed accepted]
    · intro part seen
      rw [devices_execute accepted, devices_execute acceptedToo]
      exact sameIn_devicesAfter_withDevices (visible part seen) instruction

section Fetched

variable (agree : AgreeExcept hidden first second) (fetched : ∀ address : Address,
  address.val = first.pc.toNat ∨ address.val = first.pc.toNat + 1 → .cell address ∉ hidden)

include agree fetched

theorem wordAtPc_eq (inside : first.pc.toNat + 2 ≤ 4096) : second.wordAtPc = first.wordAtPc := by
  obtain ⟨devices, rfl, visible⟩ := agree.exists_withDevices
  exact Memory.wordAt_eq_of_cells inside fun address here =>
    (visible (.cell address) (fetched address here)).symm

theorem nextInstruction?_eq : second.nextInstruction? = first.nextInstruction? := by
  have mode : second.mode = first.mode := congrArg Control.mode agree.control.symm
  have pc : second.pc = first.pc := congrArg Control.pc agree.control.symm
  rw [nextInstruction?, nextInstruction?, mode, pc]
  by_cases ready : first.mode.isLive = true ∧ first.pc.toNat + 2 ≤ 4096
  · rw [if_pos ready, if_pos ready, agree.wordAtPc_eq fetched ready.2]
  · rw [if_neg ready, if_neg ready]

/-- A step keeps two machines in agreement when the first one neither fetches a hidden cell
nor needs a hidden part for the instruction there. -/
theorem step (unread : ∀ instruction, first.nextInstruction? = some instruction →
    ∀ part ∈ hidden, ¬ first.Needs instruction part) :
    AgreeExcept hidden first.step second.step := by
  have mode : second.mode = first.mode := congrArg Control.mode agree.control.symm
  have pc : second.pc = first.pc := congrArg Control.pc agree.control.symm
  cases live : first.mode.isLive with
  | false =>
    rw [step_of_not_live live, step_of_not_live (mode ▸ live)]
    exact agree
  | true =>
    have liveToo : second.mode.isLive = true := mode ▸ live
    by_cases outside : 4096 < first.pc.toNat + 2
    · rw [step_of_outside live outside, step_of_outside liveToo (pc ▸ outside), pc]
      exact agree.halt _ _
    · have inside : first.pc.toNat + 2 ≤ 4096 := Nat.not_lt.mp outside
      have word := agree.wordAtPc_eq fetched inside
      cases decoded : Instruction.decode first.wordAtPc with
      | none =>
        rw [step_of_unassigned live inside decoded,
          step_of_unassigned liveToo (pc ▸ inside) (word ▸ decoded), word]
        exact agree.fetched.halt _ _
      | some instruction =>
        rw [step_of_decode live inside decoded,
          step_of_decode liveToo (pc ▸ inside) (word ▸ decoded)]
        exact agree.fetched.execute (unread instruction
          (nextInstruction?_eq_some_iff.mpr ⟨⟨live, inside⟩, decoded⟩))

end Fetched

end AgreeExcept

end Machine

end Chip8
