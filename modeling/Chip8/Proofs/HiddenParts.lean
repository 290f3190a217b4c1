/-
# Hidden parts

The timers, the flag registers, the random source and the keypad reach a program only
through the instructions that read them; no instruction reads the sound timer.  So two
machines that agree but for one of these parts keep agreeing, whatever is called, until
the first one executes an instruction that reads the part.

The main result is `hidden_parts_reach_only_their_readers`.
-/
import Chip8.Proofs.Dependence

namespace Chip8.Machine

/-- Two outcomes of a call agree: both are the same error, or machines that agree but for
hidden parts. -/
def OutcomesAgree (hidden : List Part) : Except Error Machine → Except Error Machine → Prop
  | .ok first, .ok second => AgreeExcept hidden first second
  | .error first, .error second => first = second
  | _, _ => False

namespace AgreeExcept

variable {hidden : List Part} {first second : Machine}

/-! ## Calls that take no steps -/

theorem load (agree : AgreeExcept hidden first second) (program : ByteData) (origin : Int) :
    OutcomesAgree hidden (first.load program origin) (second.load program origin) := by
  obtain ⟨devices, rfl, visible⟩ := agree.exists_withDevices
  rw [load_eq_map, load_eq_map]
  cases Memory.programBytes program origin with
  | error cause => rfl
  | ok bytes =>
    exact ⟨rfl, rfl, rfl, fun part seen => (visible part seen).write origin.toNat bytes⟩

/-- New machines agree when their random keys and dialects do. -/
theorem powerOn {firstKey secondKey : RandomKey} {firstDialect secondDialect : Dialect}
    (randomKey : .randomKey ∉ hidden → firstKey = secondKey)
    (dialect : ∀ point, .dialect point ∉ hidden →
      firstDialect.choice point = secondDialect.choice point) :
    AgreeExcept hidden (powerOn firstKey firstDialect) (powerOn secondKey secondDialect) := by
  refine ⟨rfl, rfl, rfl, ?_⟩
  intro part seen
  cases part with
  | randomKey => exact randomKey seen
  | dialect point => exact dialect point seen
  | _ => rfl

theorem withFlags (agree : AgreeExcept hidden first second)
    {firstFlags secondFlags : Vector UInt8 8} (flags : .flags ∉ hidden → firstFlags = secondFlags) :
    AgreeExcept hidden { first with flags := firstFlags } { second with flags := secondFlags } := by
  obtain ⟨devices, rfl, visible⟩ := agree.exists_withDevices
  refine ⟨rfl, rfl, rfl, ?_⟩
  intro part seen
  cases part with
  | flags => exact flags seen
  | _ => exact visible _ seen

theorem restarted (agree : AgreeExcept hidden first second) (clearFlags : Bool) :
    AgreeExcept hidden (first.restarted clearFlags) (second.restarted clearFlags) := by
  have fresh : AgreeExcept hidden (Machine.powerOn first.randomKey first.dialect)
      (Machine.powerOn second.randomKey second.dialect) :=
    powerOn (agree.devices .randomKey) fun point => agree.devices (.dialect point)
  cases clearFlags with
  | true =>
    rw [restarted_true, restarted_true]
    exact fresh
  | false =>
    rw [restarted_false, restarted_false]
    exact fresh.withFlags (agree.devices .flags)

theorem reset (agree : AgreeExcept hidden first second) (program : Option ByteData)
    (clearFlags : Bool) :
    OutcomesAgree hidden (first.reset program clearFlags) (second.reset program clearFlags) := by
  have restarted := agree.restarted clearFlags
  cases program with
  | none => exact restarted
  | some data => exact restarted.load data programStart

theorem setRegister (agree : AgreeExcept hidden first second) (index value : Int) :
    OutcomesAgree hidden (first.setRegister index value) (second.setRegister index value) := by
  obtain ⟨devices, rfl, visible⟩ := agree.exists_withDevices
  unfold Machine.setRegister
  cases registerOfIndex index with
  | error cause => rfl
  | ok x => exact ⟨rfl, rfl, rfl, visible⟩

theorem setResolution (agree : AgreeExcept hidden first second) (setting : Setting) :
    OutcomesAgree hidden (first.setResolution setting) (second.setResolution setting) := by
  obtain ⟨devices, rfl, visible⟩ := agree.exists_withDevices
  unfold Machine.setResolution
  cases Resolution.ofSetting setting with
  | error cause => rfl
  | ok resolution => exact ⟨rfl, rfl, rfl, visible⟩

theorem setKey (agree : AgreeExcept hidden first second) (index : Int) (pressed : Bool) :
    OutcomesAgree hidden (first.setKey index pressed) (second.setKey index pressed) := by
  obtain ⟨devices, rfl, visible⟩ := agree.exists_withDevices
  unfold Machine.setKey
  cases Keypad.ofIndex index with
  | error cause => rfl
  | ok key =>
    refine ⟨rfl, rfl, rfl, ?_⟩
    intro part seen
    have same := visible part seen
    cases part with
    | keypad => exact congrArg (·.set key pressed) same
    | _ => exact same

theorem tick (agree : AgreeExcept hidden first second) :
    AgreeExcept hidden first.tick second.tick := by
  obtain ⟨devices, rfl, visible⟩ := agree.exists_withDevices
  refine ⟨rfl, rfl, rfl, ?_⟩
  intro part seen
  have same := visible part seen
  cases part with
  | delayTimer => exact congrArg countDown same
  | soundTimer => exact congrArg countDown same
  | _ => exact same

theorem setDelay (agree : AgreeExcept hidden first second) (value : Int) :
    OutcomesAgree hidden (first.setDelay value) (second.setDelay value) := by
  obtain ⟨devices, rfl, visible⟩ := agree.exists_withDevices
  unfold Machine.setDelay
  cases Width.signed32.check value with
  | error cause => rfl
  | ok _ =>
    refine ⟨rfl, rfl, rfl, ?_⟩
    intro part seen
    have same := visible part seen
    cases part with
    | delayTimer => rfl
    | _ => exact same

theorem setSound (agree : AgreeExcept hidden first second) (value : Int) :
    OutcomesAgree hidden (first.setSound value) (second.setSound value) := by
  obtain ⟨devices, rfl, visible⟩ := agree.exists_withDevices
  unfold Machine.setSound
  cases Width.signed32.check value with
  | error cause => rfl
  | ok _ =>
    refine ⟨rfl, rfl, rfl, ?_⟩
    intro part seen
    have same := visible part seen
    cases part with
    | soundTimer => rfl
    | _ => exact same

/-- A call that takes no steps reads no part of the devices. -/
theorem apply (agree : AgreeExcept hidden first second) {call : Call}
    (steps : call.steps? = none) :
    OutcomesAgree hidden (call.apply first) (call.apply second) := by
  cases call with
  | load program origin => exact agree.load program origin
  | reset program clearFlags => exact agree.reset program clearFlags
  | step => cases steps
  | run count => cases steps
  | tick => exact agree.tick
  | setKey index pressed => exact agree.setKey index pressed
  | setRegister index value => exact agree.setRegister index value
  | setDelay value => exact agree.setDelay value
  | setSound value => exact agree.setSound value
  | setResolution setting => exact agree.setResolution setting

theorem perform (agree : AgreeExcept hidden first second) {call : Call}
    (steps : call.steps? = none) :
    AgreeExcept hidden (first.perform call) (second.perform call) := by
  have outcomes := agree.apply steps
  unfold Machine.perform
  cases firstApplied : call.apply first <;> cases secondApplied : call.apply second <;>
    rw [firstApplied, secondApplied] at outcomes
  · exact agree
  · exact outcomes.elim
  · exact outcomes.elim
  · exact outcomes

/-! ## Histories -/

section Histories

variable (noCells : ∀ address, .cell address ∉ hidden)

include noCells

theorem step_of_unread (agree : AgreeExcept hidden first second)
    (unread : ∀ instruction, first.nextInstruction? = some instruction →
      ∀ part ∈ hidden, part ∉ instruction.reads) : AgreeExcept hidden first.step second.step := by
  refine agree.step (fun address _ => noCells address) ?_
  intro instruction next part member needs
  cases part with
  | cell address => exact noCells address member
  | _ => exact unread instruction next _ member needs

theorem performAll (agree : AgreeExcept hidden first second) {history : List Call}
    (unread : ∀ instruction ∈ first.executed history, ∀ part ∈ hidden, part ∉ instruction.reads) :
    AgreeExcept hidden (first.performAll history) (second.performAll history) :=
  @related_performAll _ _ (fun _ => True) _ _
    (fun _ _ agree unread => agree.step_of_unread noCells unread)
    (fun _ _ _ agree _ steps => agree.perform steps) agree _ (fun _ _ => trivial) unread

end Histories

theorem recordedError (agree : AgreeExcept hidden first second) :
    first.recordedError = second.recordedError := by
  obtain ⟨devices, rfl, -⟩ := agree.exists_withDevices
  rfl

end AgreeExcept

/-- Of the sound timer, the delay timer, the flag registers, the random source and the keypad,
none reaches a program but through the instructions that read it.  Two machines that agree in
everything else agree in everything else after each call of a history, for as long as the
first one has executed no such instruction; so they are in the same mode, stand at the same
fault and report the same error, and show the same picture.  In particular the seed does not
matter to a history that draws no random number, and the sound timer never matters. -/
theorem hidden_parts_reach_only_their_readers :
    (∀ part ∈ [Part.soundTimer, .delayTimer, .flags, .randomKey, .keypad],
      ∀ first second : Machine, AgreeExcept [part] first second →
      ∀ (history : List Call) (count : Nat),
        (∀ instruction ∈ first.executed (history.take count), part ∉ instruction.reads) →
        let firstThen := first.performAll (history.take count)
        let secondThen := second.performAll (history.take count)
        AgreeExcept [part] firstThen secondThen ∧
          firstThen.mode = secondThen.mode ∧
          firstThen.fault = secondThen.fault ∧
          firstThen.faultInfo = secondThen.faultInfo ∧
          firstThen.recordedError = secondThen.recordedError ∧
          firstThen.resolution = secondThen.resolution ∧
          firstThen.screen = secondThen.screen) ∧
    (∀ (seed other : Int) (dialect : Dialect) (history : List Call),
      (∀ x mask, .random x mask ∉ (powerOn (.ofSeed seed) dialect).executed history) →
      AgreeExcept [.randomKey] ((powerOn (.ofSeed seed) dialect).performAll history)
        ((powerOn (.ofSeed other) dialect).performAll history)) ∧
    ∀ first second : Machine, AgreeExcept [.soundTimer] first second → ∀ history : List Call,
      AgreeExcept [.soundTimer] (first.performAll history) (second.performAll history) := by
  refine ⟨?readers, ?seeds, ?soundTimer⟩
  case readers =>
    intro part device first second agree history count unread firstThen secondThen
    have noCells (address : Address) : .cell address ∉ [part] := by
      intro member
      cases List.mem_singleton.mp member
      simp at device
    have later : AgreeExcept [part] firstThen secondThen :=
      agree.performAll noCells fun instruction executed => by
        simpa using unread instruction executed
    exact ⟨later, congrArg Control.mode later.control, congrArg Control.fault later.control,
      congrArg Control.faultInfo later.control, later.recordedError,
      congrArg Prod.fst later.display, congrArg Prod.snd later.display⟩
  case seeds =>
    intro seed other dialect history undrawn
    have fresh : AgreeExcept [.randomKey] (powerOn (.ofSeed seed) dialect)
        (powerOn (.ofSeed other) dialect) :=
      .powerOn (fun seen => absurd (List.mem_singleton_self _) seen) fun _ _ => rfl
    refine fresh.performAll (by simp) ?_
    intro instruction executed part member reads
    cases List.mem_singleton.mp member
    obtain ⟨x, mask, rfl⟩ := Instruction.exists_of_reads_randomKey reads
    exact undrawn x mask executed
  case soundTimer =>
    intro first second agree history
    refine agree.performAll (by simp) ?_
    intro instruction _ part member reads
    cases List.mem_singleton.mp member
    exact instruction.soundTimer_not_mem_reads reads

/-- A new machine with a program of one word executes this word first. -/
theorem nextInstruction?_load (randomKey : RandomKey) (dialect : Dialect) (high low : UInt8)
    {instruction : Instruction}
    (decoded : Instruction.decode (high.toUInt16 <<< 8 ||| low.toUInt16) = some instruction) :
    ((powerOn randomKey dialect).perform
      (.load (.bytes [high, low]) programStart)).nextInstruction? = some instruction := by
  have fits : programStart + [high, low].length ≤ 4096 := show 0x202 ≤ 4096 by decide
  rw [perform_load_bytes _ fits, nextInstruction?_eq_some_iff]
  refine ⟨⟨rfl, show 0x202 ≤ 4096 by decide⟩, ?_⟩
  rw [← decoded]
  exact congrArg Instruction.decode (Font.memory.wordAt_write (by decide) high low)

/-- Three of the flag registers are overwritten while they are hidden, a program without
random numbers runs under two seeds, and another sound timer counts down. -/
theorem flags_seeds_and_sound_stay_hidden :
    let machine : Machine :=
      { powerOn ⟨0, 0⟩ .standard with memory := Memory.zero.write 0x200 [0xF2, 0x75, 0xF1, 0x29] }
    let history : List Call := [.run 2, .tick, .setKey 3 true, .step]
    let drawless : List Call := [.load (.bytes [0x60, 0x07]) programStart, .step, .tick]
    AgreeExcept [.flags] (machine.performAll history)
        ({ machine with flags := Vector.replicate 8 9 }.performAll history) ∧
      AgreeExcept [.randomKey] ((powerOn (.ofSeed 0) .standard).performAll drawless)
        ((powerOn (.ofSeed 1) .standard).performAll drawless) ∧
      AgreeExcept [.soundTimer] (machine.performAll history)
        ({ machine with soundTimer := 7 }.performAll history) := by
  intro machine history drawless
  obtain ⟨readers, seeds, soundTimer⟩ := hidden_parts_reach_only_their_readers
  have flags (machine : Machine) (flags : Vector UInt8 8) :
      AgreeExcept [.flags] machine { machine with flags := flags } := by
    refine ⟨rfl, rfl, rfl, ?_⟩
    intro part seen
    cases part with
    | flags => exact absurd (List.mem_singleton_self _) seen
    | _ => rfl
  have sound (machine : Machine) (timer : UInt8) :
      AgreeExcept [.soundTimer] machine { machine with soundTimer := timer } := by
    refine ⟨rfl, rfl, rfl, ?_⟩
    intro part seen
    cases part with
    | soundTimer => exact absurd (List.mem_singleton_self _) seen
    | _ => rfl
  refine ⟨?_, ?_, soundTimer _ _ (sound machine 7) history⟩
  · exact (readers .flags (by decide) machine _ (flags machine _) history 4 (by decide +kernel)).1
  · refine seeds 0 1 .standard drawless ?_
    intro x mask drawn
    have next := nextInstruction?_load (.ofSeed 0) .standard 0x60 0x07 rfl
    rw [executed_cons_of_steps?_eq_none rfl, executed_cons_of_steps?_eq_some rfl,
      executed_cons_of_steps?_eq_none rfl, executedByRun, next] at drawn
    cases List.mem_singleton.mp drawn

end Chip8.Machine
