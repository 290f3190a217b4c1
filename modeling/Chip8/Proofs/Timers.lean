/-
# Timers

The host counts the timers down while a program runs, and how its ticks fall between the
steps is up to the host.  A program that neither reads nor sets a timer does not notice:
each of its steps commutes with a tick, so that of a schedule of steps and ticks only the
two numbers count.

The main result is `schedules_of_untimed_steps_agree`.  It also says what the timers are in
the end, a countdown that stops at zero.
-/
import Chip8.Proofs.HiddenParts
import Mathlib.Logic.Function.Iterate

namespace Chip8

namespace Instruction

variable {instruction : Instruction}

/-- Whether an instruction reads or sets a timer. -/
def usesTimers : Instruction → Bool
  | .readDelay _ => true
  | .setDelay _ => true
  | .setSound _ => true
  | _ => false

theorem delayTimer_not_mem_reads (untimed : instruction.usesTimers = false) :
    .delayTimer ∉ instruction.reads := by
  cases instruction with
  | readDelay x => cases untimed
  | arithmetic operation x y => cases operation <;> simp [reads]
  | _ => simp [reads]

end Instruction

namespace Machine

variable {machine : Machine} {instruction : Instruction}

theorem toNat_countDown (timer : UInt8) : (countDown timer).toNat = timer.toNat - 1 := by
  unfold countDown
  split
  · rename_i zero
    rw [zero]
    rfl
  · rename_i running
    have positive : 1 ≤ timer := by
      rw [UInt8.le_iff_toNat_le]
      have nonzero : timer.toNat ≠ 0 := fun zero => running (UInt8.toNat_inj.mp zero)
      show 1 ≤ timer.toNat
      omega
    exact UInt8.toNat_sub_of_le timer 1 positive

/-- A timer stops at zero, however often it is counted down. -/
theorem toNat_iterate_countDown (ticks : Nat) (timer : UInt8) :
    (Nat.iterate countDown ticks timer).toNat = timer.toNat - ticks := by
  induction ticks generalizing timer with
  | zero => rfl
  | succ ticks ih =>
    rw [Function.iterate_succ_apply, ih, toNat_countDown]
    omega

/-- The machine with other timers. -/
def withTimers (machine : Machine) (delay sound : UInt8) : Machine :=
  { machine with delayTimer := delay, soundTimer := sound }

theorem agreeExcept_withTimers (machine : Machine) (delay sound : UInt8) :
    AgreeExcept [.delayTimer, .soundTimer] machine (machine.withTimers delay sound) := by
  refine ⟨rfl, rfl, rfl, ?_⟩
  intro part seen
  cases part with
  | delayTimer => simp at seen
  | soundTimer => simp at seen
  | _ => rfl

theorem tick_withTimers (machine : Machine) (delay sound : UInt8) :
    (machine.withTimers delay sound).tick =
      machine.withTimers (countDown delay) (countDown sound) :=
  rfl

/-! ## One step -/

/-- A step leaves the timers alone, unless its instruction sets one. -/
theorem timers_step (untimed : ∀ instruction, machine.nextInstruction? = some instruction →
    instruction.usesTimers = false) :
    machine.step.delayTimer = machine.delayTimer ∧
      machine.step.soundTimer = machine.soundTimer := by
  rcases machine.devices_step_cases with same | ⟨instruction, next, -, same⟩
  · exact ⟨congrArg Devices.delayTimer same, congrArg Devices.soundTimer same⟩
  · have untimed := untimed instruction next
    refine ⟨(congrArg Devices.delayTimer same).trans ?_,
      (congrArg Devices.soundTimer same).trans ?_⟩
    · cases instruction with
      | setDelay x => cases untimed
      | _ => rfl
    · cases instruction with
      | setSound x => cases untimed
      | _ => rfl

/-- A step that does not use the timers is the same whatever they show. -/
theorem step_withTimers (untimed : ∀ instruction, machine.nextInstruction? = some instruction →
    instruction.usesTimers = false) (delay sound : UInt8) :
    (machine.withTimers delay sound).step = machine.step.withTimers delay sound := by
  have agree := machine.agreeExcept_withTimers delay sound
  have noCells (address : Address) : Part.cell address ∉ [Part.delayTimer, .soundTimer] := by simp
  have stepped : AgreeExcept [.delayTimer, .soundTimer] machine.step
      (machine.withTimers delay sound).step := by
    refine agree.step_of_unread noCells ?_
    intro instruction next part member
    rcases List.mem_pair.mp member with rfl | rfl
    · exact Instruction.delayTimer_not_mem_reads (untimed instruction next)
    · exact instruction.soundTimer_not_mem_reads
  have next := agree.nextInstruction?_eq fun address _ => noCells address
  obtain ⟨delayKept, soundKept⟩ := @timers_step (machine.withTimers delay sound) (next ▸ untimed)
  refine (stepped.symm.trans (machine.step.agreeExcept_withTimers delay sound)).eq_of_parts ?_
  intro part member
  rcases List.mem_pair.mp member with rfl | rfl
  · exact delayKept
  · exact soundKept

/-! ## Schedules -/

/-- A schedule of steps and ticks takes the steps and counts the timers down, in whatever
order. -/
theorem performAll_withTimers {schedule : List Call}
    (paced : ∀ call ∈ schedule, call = .step ∨ call = .tick)
    (untimed : ∀ instruction ∈ machine.executedByRun (schedule.count .step),
      instruction.usesTimers = false) (delay sound : UInt8) :
    (machine.withTimers delay sound).performAll schedule =
      (machine.run (schedule.count .step)).withTimers
        (Nat.iterate countDown (schedule.count .tick) delay)
        (Nat.iterate countDown (schedule.count .tick) sound) := by
  induction schedule generalizing machine delay sound with
  | nil => rfl
  | cons call schedule ih =>
    obtain ⟨here, later⟩ := List.forall_mem_cons.mp paced
    rw [performAll_cons]
    rcases here with rfl | rfl
    · have steps : (Call.step :: schedule).count .step = schedule.count .step + 1 :=
        List.count_cons_self
      have ticks : (Call.step :: schedule).count .tick = schedule.count .tick :=
        List.count_cons_of_ne (by decide)
      rw [steps] at untimed ⊢
      rw [ticks]
      obtain ⟨untimedHere, untimedLater⟩ := forall_mem_executedByRun_succ.mp untimed
      show (machine.withTimers delay sound).step.performAll schedule = _
      rw [step_withTimers untimedHere]
      exact ih later untimedLater delay sound
    · have steps : (Call.tick :: schedule).count .step = schedule.count .step :=
        List.count_cons_of_ne (by decide)
      have ticks : (Call.tick :: schedule).count .tick = schedule.count .tick + 1 :=
        List.count_cons_self
      rw [steps] at untimed ⊢
      rw [ticks]
      show (machine.withTimers delay sound).tick.performAll schedule = _
      rw [tick_withTimers]
      exact ih later untimed (countDown delay) (countDown sound)

/-- Two schedules with as many steps and as many ticks end with the same machine, when the
steps alone would execute no instruction that reads or sets a timer.  This machine is the
one that the steps alone lead to, whatever fault, exit or wait for a key they meet, but for
the timers: each is less by the number of ticks, or zero. -/
theorem schedules_of_untimed_steps_agree (machine : Machine) {first second : List Call}
    (firstPaced : ∀ call ∈ first, call = .step ∨ call = .tick)
    (secondPaced : ∀ call ∈ second, call = .step ∨ call = .tick)
    (steps : second.count .step = first.count .step)
    (ticks : second.count .tick = first.count .tick)
    (untimed : ∀ instruction ∈ machine.executedByRun (first.count .step),
      instruction.usesTimers = false) :
    machine.performAll second = machine.performAll first ∧
      ∃ delay sound : UInt8,
        machine.performAll first =
          { machine.run (first.count .step) with delayTimer := delay, soundTimer := sound } ∧
        (delay.toNat : Int) = max 0 (machine.delayTimer.toNat - first.count .tick) ∧
        (sound.toNat : Int) = max 0 (machine.soundTimer.toNat - first.count .tick) := by
  have here := performAll_withTimers firstPaced untimed machine.delayTimer machine.soundTimer
  have there := performAll_withTimers secondPaced (steps ▸ untimed) machine.delayTimer
    machine.soundTimer
  rw [steps, ticks] at there
  refine ⟨there.trans here.symm, _, _, here, ?_, ?_⟩
  · rw [toNat_iterate_countDown]
    omega
  · rw [toNat_iterate_countDown]
    omega

/-- A program that sets a register and then waits for a key, with the ticks between its
steps and around them. -/
theorem ticks_move_around_a_wait :
    let machine : Machine :=
      { powerOn ⟨0, 0⟩ .standard with
        memory := Memory.zero.write 0x200 [0x60, 0x07, 0xF3, 0x0A]
        delayTimer := 1
        soundTimer := 5 }
    let first : List Call := [.step, .tick, .tick, .step]
    let second : List Call := [.tick, .step, .step, .tick]
    machine.performAll second = machine.performAll first ∧
      ∃ delay sound : UInt8,
        machine.performAll first =
          { machine.run 2 with delayTimer := delay, soundTimer := sound } ∧
        delay.toNat = 0 ∧ sound.toNat = 3 := by
  intro machine first second
  obtain ⟨same, delay, sound, last, delayed, sounded⟩ :=
    @schedules_of_untimed_steps_agree machine first second (by decide) (by decide) (by decide)
      (by decide) (by decide +kernel)
  have ticks : first.count .tick = 2 := rfl
  have delayStart : machine.delayTimer.toNat = 1 := rfl
  have soundStart : machine.soundTimer.toNat = 5 := rfl
  rw [ticks, delayStart] at delayed
  rw [ticks, soundStart] at sounded
  exact ⟨same, delay, sound, last, by omega, by omega⟩

end Machine

end Chip8
