/-
# Executed instructions

Which instructions a machine executes over a number of steps, and over a history of
calls.  An instruction is executed when a step finds it in memory, also when it then
turns out that it cannot be carried out.

What a history does or does not do to a machine mostly depends on the instructions that
it executes.  `related_performAll` is the induction for such statements.  It speaks of
two machines that are called alike, and the instructions are those of the first one; a
statement about a single machine is the case of a relation that leaves the second one out.
-/
import Chip8.Proofs.Devices
import Chip8.Proofs.Step
import Chip8.Proofs.Invariant

namespace Chip8.Machine

/-- The instruction that the next step executes, if it executes one. -/
def nextInstruction? (machine : Machine) : Option Instruction :=
  if machine.mode.isLive = true ∧ machine.pc.toNat + 2 ≤ 4096 then
    Instruction.decode machine.wordAtPc
  else none

/-- The instructions that a number of steps execute, in order. -/
def executedByRun (machine : Machine) : Nat → List Instruction
  | 0 => []
  | count + 1 => machine.nextInstruction?.toList ++ machine.step.executedByRun count

/-- The instructions that a history of calls executes, in order. -/
def executed (machine : Machine) : List Call → List Instruction
  | [] => []
  | call :: history =>
    machine.executedByRun (call.steps?.getD 0) ++ (machine.perform call).executed history

variable {machine : Machine}

theorem nextInstruction?_eq_some_iff {instruction : Instruction} :
    machine.nextInstruction? = some instruction ↔
      (machine.mode.isLive = true ∧ machine.pc.toNat + 2 ≤ 4096) ∧
        Instruction.decode machine.wordAtPc = some instruction := by
  rw [nextInstruction?, Option.ite_none_right_eq_some]

/-- What a step does to the devices is what its instruction does to them, if it executes one
that can be carried out. -/
theorem devices_step_cases (machine : Machine) :
    machine.step.devices = machine.devices ∨
      ∃ instruction, machine.nextInstruction? = some instruction ∧
        machine.fetched.faultOf? instruction = none ∧
        machine.step.devices = machine.fetched.devicesAfter instruction := by
  refine machine.step_elim ?stopped ?outside ?refused ?executed
  case stopped => exact fun _ => .inl rfl
  case outside => exact fun _ _ => .inl rfl
  case refused => exact fun _ _ _ _ _ => .inl rfl
  case executed =>
    intro live inside instruction decoded accepted
    have next := nextInstruction?_eq_some_iff.mpr ⟨⟨live, inside⟩, decoded⟩
    exact .inr ⟨instruction, next, accepted, devices_execute accepted⟩

theorem executed_cons_of_steps?_eq_none {call : Call} (steps : call.steps? = none)
    (history : List Call) :
    machine.executed (call :: history) = (machine.perform call).executed history := by
  rw [executed, steps]
  rfl

theorem executed_cons_of_steps?_eq_some {call : Call} {count : Nat}
    (steps : call.steps? = some count) (history : List Call) :
    machine.executed (call :: history) =
      machine.executedByRun count ++ (machine.run count).executed history := by
  rw [executed, steps, perform_of_steps? steps]
  rfl

theorem forall_mem_executedByRun_succ {allowed : Instruction → Prop} {count : Nat} :
    (∀ instruction ∈ machine.executedByRun (count + 1), allowed instruction) ↔
      (∀ instruction, machine.nextInstruction? = some instruction → allowed instruction) ∧
        ∀ instruction ∈ machine.step.executedByRun count, allowed instruction := by
  rw [executedByRun, List.forall_mem_append]
  simp only [Option.mem_toList]

section Related

variable {R : Machine → Machine → Prop} {allowed : Instruction → Prop} {offered : Call → Prop}
  {first second : Machine}
  (step : ∀ first second : Machine, R first second →
    (∀ instruction, first.nextInstruction? = some instruction → allowed instruction) →
    R first.step second.step)

include step

theorem related_run (related : R first second) (count : Nat)
    (executed : ∀ instruction ∈ first.executedByRun count, allowed instruction) :
    R (first.run count) (second.run count) := by
  induction count generalizing first second with
  | zero => exact related
  | succ count ih =>
    obtain ⟨here, later⟩ := forall_mem_executedByRun_succ.mp executed
    exact ih (step first second related here) later

variable (other : ∀ (first second : Machine) (call : Call), R first second → offered call →
    call.steps? = none → R (first.perform call) (second.perform call))

include other

/-- A relation between two machines that are called alike lasts as long as the first one
executes instructions that keep it, when the other calls keep it too. -/
theorem related_performAll (related : R first second) {history : List Call}
    (calls : ∀ call ∈ history, offered call)
    (executed : ∀ instruction ∈ first.executed history, allowed instruction) :
    R (first.performAll history) (second.performAll history) := by
  induction history generalizing first second with
  | nil => exact related
  | cons call history ih =>
    obtain ⟨offeredHere, offeredLater⟩ := List.forall_mem_cons.mp calls
    rw [performAll_cons, performAll_cons]
    cases steps : call.steps? with
    | none =>
      rw [executed_cons_of_steps?_eq_none steps] at executed
      exact ih (other first second call related offeredHere steps) offeredLater executed
    | some count =>
      rw [executed_cons_of_steps?_eq_some steps, List.forall_mem_append] at executed
      obtain ⟨here, later⟩ := executed
      rw [perform_of_steps? steps, perform_of_steps? steps]
      exact ih (related_run step related count here) offeredLater later

end Related

end Chip8.Machine
