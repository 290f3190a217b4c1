/-
# Points of the dialect

Dialects differ on five points, and each point governs a few instructions.  Machines that
differ in nothing but their dialects go on to differ in nothing else, until an instruction
is executed that is governed by a point on which the dialects disagree.  Even then the
machines differ only where the instruction's point can reach, which `AgreeBeside` spells
out.

The main result is `dialects_differ_only_on_their_points`.
-/
import Chip8.Proofs.HiddenParts

namespace Chip8

variable {instruction : Instruction} {point : Dialect.Point}

namespace Dialect

variable {first second : Dialect}

/-- The parts that two dialects decide differently. -/
def disputed (first second : Dialect) : List Part :=
  ([.shift, .transfer, .jump, .logic, .overflow].filter fun point =>
    first.choice point != second.choice point).map .dialect

theorem dialect_mem_disputed_iff :
    .dialect point ∈ disputed first second ↔ first.choice point ≠ second.choice point := by
  cases point <;> simp [disputed]

theorem exists_of_mem_disputed {part : Part} (member : part ∈ disputed first second) :
    ∃ point, part = .dialect point := by
  obtain ⟨point, -, same⟩ := List.mem_map.mp member
  exact ⟨point, same.symm⟩

end Dialect

namespace Instruction

/-- The point of the dialect that governs an instruction, if one does. -/
def point? : Instruction → Option Dialect.Point
  | .arithmetic .shiftRight _ _ => some .shift
  | .arithmetic .shiftLeft _ _ => some .shift
  | .storeRegisters _ => some .transfer
  | .loadRegisters _ => some .transfer
  | .jumpOffset _ => some .jump
  | .arithmetic .or _ _ => some .logic
  | .arithmetic .and _ _ => some .logic
  | .arithmetic .xor _ _ => some .logic
  | .addIndex _ => some .overflow
  | _ => none

/-- The registers on which dialects may disagree after an instruction. -/
def disputedRegisters : Instruction → List Register
  | .arithmetic .shiftRight x _ => [x, flagRegister]
  | .arithmetic .shiftLeft x _ => [x, flagRegister]
  | .arithmetic .or _ _ => [flagRegister]
  | .arithmetic .and _ _ => [flagRegister]
  | .arithmetic .xor _ _ => [flagRegister]
  | .addIndex _ => [flagRegister]
  | _ => []

theorem point?_of_mem_reads (reads : .dialect point ∈ instruction.reads) :
    instruction.point? = some point := by
  cases instruction with
  | arithmetic operation x y => cases operation <;> simp_all [Instruction.reads, point?]
  | _ => simp_all [Instruction.reads, point?]

end Instruction

namespace Machine

variable {machine first second : Machine} {hidden : List Part} {dialect : Dialect}

/-! ## The dialect stays -/

theorem dialect_execute (machine : Machine) (instruction : Instruction) :
    (machine.execute instruction).dialect = machine.dialect := by
  cases accepted : machine.faultOf? instruction with
  | some reason =>
    rw [execute_of_faultOf?_eq_some accepted]
    rfl
  | none =>
    have devices := congrArg Devices.dialect (devices_execute accepted)
    refine devices.trans ?_
    cases instruction <;> rfl

theorem dialect_step (machine : Machine) : machine.step.dialect = machine.dialect := by
  refine machine.step_elim ?stopped ?outside ?refused ?executed
  case stopped => exact fun _ => rfl
  case outside => exact fun _ _ => rfl
  case refused => exact fun _ _ _ _ _ => rfl
  case executed => exact fun _ _ instruction _ _ => machine.fetched.dialect_execute instruction

theorem dialect_run (machine : Machine) (count : Nat) :
    (machine.run count).dialect = machine.dialect := by
  induction count generalizing machine with
  | zero => rfl
  | succ count ih => rw [run, ih, dialect_step]

theorem dialect_powerOn (randomKey : RandomKey) (dialect : Dialect) :
    (powerOn randomKey dialect).dialect = dialect :=
  rfl

theorem dialect_restarted (machine : Machine) (clearFlags : Bool) :
    (machine.restarted clearFlags).dialect = machine.dialect := by
  cases clearFlags with
  | true => rw [restarted_true, dialect_powerOn]
  | false =>
    rw [restarted_false]
    dsimp only
    rw [dialect_powerOn]

/-- No call changes the dialect. -/
theorem dialect_perform (machine : Machine) (call : Call) :
    (machine.perform call).dialect = machine.dialect := by
  rcases machine.perform_cases call with ⟨_, clearFlags, _, -, same⟩ | ⟨count, -, same⟩ |
    ⟨resolution, same⟩ | ⟨_, _, _, _, _, same⟩ <;> rw [same]
  · exact machine.dialect_restarted clearFlags
  · exact machine.dialect_run count
  · rfl

theorem dialect_performAll (machine : Machine) (history : List Call) :
    (machine.performAll history).dialect = machine.dialect := by
  induction history generalizing machine with
  | nil => rfl
  | cons call history ih => rw [performAll_cons, ih, dialect_perform]

/-! ## Machines that differ in the dialect -/

/-- Machines that agree but for points of the dialect differ in the dialect alone. -/
theorem AgreeExcept.eq_of_points (agree : AgreeExcept hidden first second)
    (points : ∀ part ∈ hidden, ∃ point, part = .dialect point) :
    second = { first with dialect := second.dialect } := by
  have seen (part : Part) (other : ∀ point, part ≠ .dialect point) :
      part.SameIn second.devices first.devices := by
    refine (agree.devices part fun member => ?_).symm
    obtain ⟨point, same⟩ := points part member
    exact other point same
  have devices : second.devices = { first.devices with dialect := second.dialect } := by
    apply Devices.eq_of_parts
    intro part
    cases part with
    | dialect point => rfl
    | cell address => exact seen (.cell address) fun _ => Part.noConfusion
    | keypad => exact seen .keypad fun _ => Part.noConfusion
    | delayTimer => exact seen .delayTimer fun _ => Part.noConfusion
    | soundTimer => exact seen .soundTimer fun _ => Part.noConfusion
    | flags => exact seen .flags fun _ => Part.noConfusion
    | randomKey => exact seen .randomKey fun _ => Part.noConfusion
  rw [agree.eq_withDevices, devices]
  rfl

theorem agreeExcept_disputed (machine : Machine) (dialect : Dialect) :
    AgreeExcept (machine.dialect.disputed dialect) machine { machine with dialect := dialect } := by
  refine ⟨rfl, rfl, rfl, ?_⟩
  intro part seen
  cases part with
  | dialect point =>
    rw [Dialect.dialect_mem_disputed_iff, not_not] at seen
    exact seen
  | _ => rfl

/-- An instruction that no disputed point governs reads no disputed part. -/
theorem not_mem_reads_of_mem_disputed (agreed : ∀ point, instruction.point? = some point →
      machine.dialect.choice point = dialect.choice point) {part : Part}
    (member : part ∈ machine.dialect.disputed dialect) : part ∉ instruction.reads := by
  intro reads
  obtain ⟨point, rfl⟩ := Dialect.exists_of_mem_disputed member
  exact Dialect.dialect_mem_disputed_iff.mp member
    (agreed point (Instruction.point?_of_mem_reads reads))

/-! ## One instruction -/

/-- One machine is the other one in another dialect, but for what the point of an instruction
can reach: the program counter of a jump with an offset, the index register of a transfer,
and the disputed registers. -/
structure AgreeBeside (instruction : Instruction) (dialect : Dialect) (one other : Machine) :
    Prop where
  others : ∃ pc index registers, other =
    { one with pc := pc, index := index, registers := registers, dialect := dialect }
  pc : other.pc ≠ one.pc → ∃ base, instruction = .jumpOffset base
  index : other.index ≠ one.index →
    ∃ x, instruction = .storeRegisters x ∨ instruction = .loadRegisters x
  registers : ∀ k, other.v k ≠ one.v k → k ∈ instruction.disputedRegisters

section Beside

variable {one other : Machine}

theorem agreeBeside_of_registers {registers : Vector UInt8 16}
    (same : other = { one with registers := registers, dialect := dialect })
    (reached : ∀ k, other.v k ≠ one.v k → k ∈ instruction.disputedRegisters) :
    AgreeBeside instruction dialect one other := by
  subst same
  exact ⟨⟨_, _, _, rfl⟩, fun differ => absurd rfl differ, fun differ => absurd rfl differ, reached⟩

theorem agreeBeside_of_eq (same : other = { one with dialect := dialect }) :
    AgreeBeside instruction dialect one other := by
  subst same
  exact agreeBeside_of_registers rfl fun _ differ => absurd rfl differ

end Beside

/-- An instruction that no disputed point governs does the same in both dialects. -/
theorem execute_of_agreed (agreed : ∀ point, instruction.point? = some point →
      machine.dialect.choice point = dialect.choice point) :
    { machine with dialect := dialect }.execute instruction =
      { machine.execute instruction with dialect := dialect } := by
  have unneeded : ∀ part ∈ machine.dialect.disputed dialect, ¬ machine.Needs instruction part := by
    intro part member needs
    have unread := not_mem_reads_of_mem_disputed agreed member
    obtain ⟨point, rfl⟩ := Dialect.exists_of_mem_disputed member
    exact unread needs
  have same := ((machine.agreeExcept_disputed dialect).execute unneeded).eq_of_points
    fun _ => Dialect.exists_of_mem_disputed
  rw [dialect_execute] at same
  exact same

/-- What an operation in two dialects differs in is the registers that it may write. -/
theorem agreeBeside_combine (machine : Machine) (dialect : Dialect) {operation : Arithmetic}
    {x y : Register} (governed : (Instruction.arithmetic operation x y).point? = some point) :
    AgreeBeside (.arithmetic operation x y) dialect (machine.combine operation x y)
      ({ machine with dialect := dialect }.combine operation x y) := by
  have same : { machine with dialect := dialect }.combine operation x y =
      { machine.combine operation x y with
        registers := ({ machine with dialect := dialect }.combine operation x y).registers
        dialect := dialect } := by
    rw [machine.combine_eq operation x y]
    exact { machine with dialect := dialect }.combine_eq operation x y
  refine agreeBeside_of_registers same ?_
  intro k differ
  by_cases flag : flagRegister = k
  · subst flag
    cases operation with
    | shiftRight => exact List.mem_pair.mpr (.inr rfl)
    | shiftLeft => exact List.mem_pair.mpr (.inr rfl)
    | or => exact List.mem_singleton_self _
    | and => exact List.mem_singleton_self _
    | xor => exact List.mem_singleton_self _
    | _ => cases governed
  · rw [v_combine _ _ flag, v_combine _ _ flag] at differ
    by_cases target : x = k
    · subst target
      -- What the logic operations write to their first register is beyond dispute.
      cases operation with
      | shiftRight => exact List.mem_pair.mpr (.inl rfl)
      | shiftLeft => exact List.mem_pair.mpr (.inl rfl)
      | or => exact absurd rfl differ
      | and => exact absurd rfl differ
      | xor => exact absurd rfl differ
      | _ => cases governed
    · rw [if_neg target, if_neg target] at differ
      exact absurd rfl differ

theorem addToIndex_eq (machine : Machine) (x : Register) :
    machine.addToIndex x =
      { machine with
        index := UInt16.ofNat (machine.index.toNat + (machine.v x).toNat)
        registers := (machine.addToIndex x).registers } := by
  unfold addToIndex
  split <;> rfl

theorem v_addToIndex (machine : Machine) (x : Register) {k : Register}
    (other : flagRegister ≠ k) : (machine.addToIndex x).v k = machine.v k := by
  rw [addToIndex]
  split
  · exact (v_write _ _ _ _).trans (if_neg other)
  · rfl

theorem agreeBeside_addToIndex (machine : Machine) (dialect : Dialect) (x : Register) :
    AgreeBeside (.addIndex x) dialect (machine.addToIndex x)
      ({ machine with dialect := dialect }.addToIndex x) := by
  have same : { machine with dialect := dialect }.addToIndex x =
      { machine.addToIndex x with
        registers := ({ machine with dialect := dialect }.addToIndex x).registers
        dialect := dialect } := by
    rw [machine.addToIndex_eq x]
    exact { machine with dialect := dialect }.addToIndex_eq x
  refine agreeBeside_of_registers same ?_
  intro k differ
  by_cases flag : flagRegister = k
  · exact List.mem_singleton.mpr flag.symm
  · rw [v_addToIndex _ x flag, v_addToIndex _ x flag] at differ
    exact absurd rfl differ

/-- A transfer of registers moves the index register in some dialects only. -/
theorem agreeBeside_advanceIndex (machine : Machine) (dialect : Dialect) {x : Register}
    (transfers : instruction = .storeRegisters x ∨ instruction = .loadRegisters x) :
    AgreeBeside instruction dialect (machine.advanceIndex x)
      ({ machine with dialect := dialect }.advanceIndex x) := by
  rw [advanceIndex_eq machine, advanceIndex_eq { machine with dialect := dialect }]
  exact ⟨⟨_, _, _, rfl⟩, fun differ => absurd rfl differ, fun _ => ⟨x, transfers⟩,
    fun _ differ => absurd rfl differ⟩

/-- After one instruction in two dialects, the machines differ where its point can reach. -/
theorem agreeBeside_execute (machine : Machine) (dialect : Dialect) (instruction : Instruction) :
    AgreeBeside instruction dialect (machine.execute instruction)
      ({ machine with dialect := dialect }.execute instruction) := by
  cases governed : instruction.point? with
  | none =>
    refine agreeBeside_of_eq (execute_of_agreed ?_)
    intro point found
    rw [governed] at found
    cases found
  | some point =>
    cases accepted : machine.faultOf? instruction with
    | some reason =>
      have acceptedToo : { machine with dialect := dialect }.faultOf? instruction = some reason :=
        (machine.faultOf?_withDevices { machine.devices with dialect := dialect } _).trans accepted
      rw [execute_of_faultOf?_eq_some accepted, execute_of_faultOf?_eq_some acceptedToo]
      exact agreeBeside_of_eq rfl
    | none =>
      cases instruction with
      | arithmetic operation x y => exact machine.agreeBeside_combine dialect governed
      | addIndex x => exact machine.agreeBeside_addToIndex dialect x
      | jumpOffset base =>
        exact ⟨⟨_, _, _, rfl⟩, fun _ => ⟨base, rfl⟩, fun differ => absurd rfl differ,
          fun _ differ => absurd rfl differ⟩
      | storeRegisters x =>
        show AgreeBeside _ _ (machine.storeRegisters x)
          ({ machine with dialect := dialect }.storeRegisters x)
        rw [storeRegisters_of_inside accepted,
          @storeRegisters_of_inside { machine with dialect := dialect } x accepted]
        exact agreeBeside_advanceIndex _ dialect (.inl rfl)
      | loadRegisters x =>
        show AgreeBeside _ _ (machine.loadRegisters x)
          ({ machine with dialect := dialect }.loadRegisters x)
        rw [loadRegisters_of_inside accepted,
          @loadRegisters_of_inside { machine with dialect := dialect } x accepted]
        exact agreeBeside_advanceIndex _ dialect (.inr rfl)
      | _ => cases governed

/-! ## Histories -/

/-- Machines that differ in their dialects alone differ in nothing else after any calls of a
history, as long as no instruction was executed on whose point the dialects disagree.  One
execution of a word, whatever it stands for, makes machines in two dialects differ at most in
the first register and the flag register of a shift, the index register of a transfer, the
program counter of a jump with an offset, and the flag register of a logic operation or of
an addition to the index register. -/
theorem dialects_differ_only_on_their_points (machine : Machine) (dialect : Dialect) :
    (∀ (history : List Call) (count : Nat),
      (∀ instruction ∈ machine.executed (history.take count), ∀ point,
        instruction.point? = some point → machine.dialect.choice point = dialect.choice point) →
      { machine with dialect := dialect }.performAll (history.take count) =
        { machine.performAll (history.take count) with dialect := dialect }) ∧
    ∀ word : Word,
      let one := machine.executeWord word
      let other := { machine with dialect := dialect }.executeWord word
      (Instruction.decode word = none → other = { one with dialect := dialect }) ∧
        ∀ instruction, Instruction.decode word = some instruction →
          AgreeBeside instruction dialect one other := by
  refine ⟨?histories, ?words⟩
  case histories =>
    intro history count agreed
    have agree : AgreeExcept (machine.dialect.disputed dialect)
        (machine.performAll (history.take count))
        ({ machine with dialect := dialect }.performAll (history.take count)) := by
      refine (machine.agreeExcept_disputed dialect).performAll ?_ ?_
      · intro address member
        obtain ⟨point, same⟩ := Dialect.exists_of_mem_disputed member
        cases same
      · intro instruction executed part member
        exact not_mem_reads_of_mem_disputed (agreed instruction executed) member
    have same := agree.eq_of_points fun _ => Dialect.exists_of_mem_disputed
    rw [dialect_performAll] at same
    exact same
  case words =>
    intro word one other
    constructor
    · intro unassigned
      show { machine with dialect := dialect }.executeWord word =
        { machine.executeWord word with dialect := dialect }
      rw [executeWord, executeWord, unassigned]
      rfl
    · intro instruction decoded
      show AgreeBeside instruction dialect (machine.executeWord word)
        ({ machine with dialect := dialect }.executeWord word)
      rw [executeWord, executeWord, decoded]
      exact machine.agreeBeside_execute dialect instruction

/-- Between these two dialects neither sums nor jumps with an offset are in dispute.  Shifts
are, and leave one register to tell the machines apart by. -/
theorem classic_shift_differs_in_its_register :
    let machine : Machine :=
      { powerOn ⟨0, 0⟩ .standard with
        memory := Memory.zero.write 0x200 [0x81, 0x24, 0xB2, 0x00]
        registers := #v[0, 3, 8, 0, 0, 0, 0, 0, 0, 0, 0, 0, 0, 0, 0, 0] }
    let other : Machine := { machine with dialect := .classic }
    let history : List Call := [.run 2, .tick, .setKey 3 true, .step]
    other.performAll history = { machine.performAll history with dialect := .classic } ∧
      (other.executeWord 0x8126).v ⟨1, by decide⟩ ≠ (machine.executeWord 0x8126).v ⟨1, by decide⟩ ∧
      (other.executeWord 0x8126).pc = (machine.executeWord 0x8126).pc ∧
      ∀ k, k ≠ ⟨1, by decide⟩ → k ≠ flagRegister →
        (other.executeWord 0x8126).v k = (machine.executeWord 0x8126).v k := by
  intro machine other history
  obtain ⟨histories, words⟩ := dialects_differ_only_on_their_points machine .classic
  have beside := (words 0x8126).2 _ rfl
  refine ⟨histories history 4 (by decide +kernel), by decide +kernel, ?_, ?_⟩
  · by_contra differ
    obtain ⟨base, same⟩ := beside.pc differ
    cases same
  · intro k shifted flag
    by_contra differ
    rcases List.mem_pair.mp (beside.registers k differ) with same | same
    · exact shifted same
    · exact flag same

end Machine

end Chip8
