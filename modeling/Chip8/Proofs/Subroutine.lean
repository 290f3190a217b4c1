/-
# Subroutines

A subroutine ends with the return that brings the call stack back to the height it had
before the call.  Until then the machine may call and return, jump, and write over its
own program; it never touches the entries below its own.  So that return goes on behind
the call, and it leaves the whole call stack as it was before.

What one step does to the call stack is said in `stack_step_cases`, and
`hasBase_step` says it of a stack with given entries at its bottom: these stay where
they are, unless the step is a return that finds nothing else on the stack.  The main
result is `return_restores_stack`.
-/
import Chip8.Proofs.Invariant
import Chip8.Proofs.Step

namespace Chip8

namespace CallStack

variable {stack : CallStack} {base : List UInt16} {address : UInt16}

/-- The stack is clean, and its oldest entries are given ones. -/
structure HasBase (base : List UInt16) (stack : CallStack) : Prop where
  clean : stack.IsClean
  base_prefix : base <+: stack.entries

namespace HasBase

theorem of_push (clean : stack.IsClean) (room : stack.isFull = false) (address : UInt16) :
    HasBase (stack.entries ++ [address]) (stack.push address).1 where
  clean := clean.push room address
  base_prefix := ⟨[], by rw [List.append_nil, entries_push room]⟩

theorem push (based : HasBase base stack) (room : stack.isFull = false) (address : UInt16) :
    HasBase base (stack.push address).1 where
  clean := based.clean.push room address
  base_prefix := by
    rw [entries_push room]
    exact based.base_prefix.trans (List.prefix_append _ _)

/-- A pop leaves the oldest entries where they are, unless it takes the last of them
itself. -/
theorem pop (based : HasBase (base ++ [address]) stack) (used : stack.isEmpty = false) :
    HasBase (base ++ [address]) stack.pop.1 ∨
      (stack.pop.1.IsClean ∧ stack.pop.1.entries = base ∧ stack.pop.2.1 = address) := by
  have clean := based.clean.pop used
  have split := entries_eq_pop_append used based.clean.pointer_le
  have oldest := based.base_prefix
  rw [split] at oldest
  rcases List.prefix_concat_iff.mp oldest with whole | older
  · obtain ⟨base_eq, address_eq⟩ := List.append_inj' whole rfl
    exact .inr ⟨clean, base_eq.symm, (List.singleton_inj.mp address_eq).symm⟩
  · exact .inl ⟨clean, older⟩

end HasBase

end CallStack

namespace Machine

open CallStack (HasBase)

variable {machine : Machine} {base : List UInt16} {address : UInt16}

/-! ## One step -/

/-- A step leaves the call stack alone, or puts the address behind the word at the
program counter on it, or takes the newest entry off it and goes on there. -/
theorem stack_step_cases (machine : Machine) :
    machine.step.stack = machine.stack ∨
    (machine.stack.isFull = false ∧
      machine.step.stack = (machine.stack.push machine.fetched.pc).1) ∨
    (machine.stack.isEmpty = false ∧ machine.step.stack = machine.stack.pop.1 ∧
      machine.step.pc = machine.stack.pop.2.1) := by
  refine machine.step_elim ?stopped ?outside ?refused ?executed
  case stopped => exact fun _ => .inl rfl
  case outside => exact fun _ _ => .inl rfl
  case refused => exact fun _ _ _ _ _ => .inl rfl
  case executed =>
    intro _ _ instruction _ accepted
    rw [stack_execute accepted, pc_execute accepted]
    cases instruction with
    | call target =>
      have room := isFull_eq_false_of_accepted accepted
      exact .inr (.inl ⟨room, rfl⟩)
    | ret =>
      have used := isEmpty_eq_false_of_accepted accepted
      exact .inr (.inr ⟨used, rfl, ofInt_toNat _⟩)
    | _ => exact .inl rfl

/-- A step leaves the oldest entries where they are, unless it returns to the last of
them. -/
theorem hasBase_step (based : HasBase (base ++ [address]) machine.stack) :
    HasBase (base ++ [address]) machine.step.stack ∨
      (machine.step.stack.IsClean ∧ machine.step.stack.entries = base ∧
        machine.step.pc = address) := by
  rcases machine.stack_step_cases with same | ⟨room, pushed⟩ | ⟨used, popped, goesOn⟩
  · rw [same]
    exact .inl based
  · rw [pushed]
    exact .inl (based.push room _)
  · rw [popped, goesOn]
    exact based.pop used

/-- `2NNN` with a free slot on a clean stack puts the address behind the word on the
stack. -/
theorem hasBase_step_of_call (live : machine.mode.isLive = true)
    (inside : machine.pc.toNat + 2 ≤ 4096) (family : machine.wordAtPc.family.val = 0x2)
    (room : machine.stack.isFull = false) (clean : machine.stack.IsClean) :
    HasBase (machine.stack.entries ++ [machine.pc + 2]) machine.step.stack := by
  have accepted : machine.fetched.faultOf? (.call machine.wordAtPc.nnn) = none := by
    rw [faultOf?.eq_def]
    exact if_neg (by rw [show machine.fetched.stack = machine.stack from rfl, room]; decide)
  have stepped : machine.step = machine.fetched.execute (.call machine.wordAtPc.nnn) := by
    rw [step_of_inside live inside, executeWord, Instruction.decode_call family]
  rw [stepped, stack_execute accepted]
  exact .of_push clean room _

/-! ## Histories -/

theorem hasBase_perform (based : HasBase (base ++ [address]) machine.stack) {call : Call}
    (played : call = .step ∨ call.isInput = true) :
    HasBase (base ++ [address]) (machine.perform call).stack ∨
      ((machine.perform call).stack.IsClean ∧ (machine.perform call).stack.entries = base ∧
        (machine.perform call).pc = address) := by
  rcases played with rfl | input
  · exact hasBase_step based
  · obtain ⟨_, _, _, _, same⟩ := machine.perform_of_isInput input
    rw [same]
    exact .inl based

/-- As long as the stack stays higher than what lies below the return address, this part
of it and the return address stay where they are. -/
theorem hasBase_performAll (based : HasBase (base ++ [address]) machine.stack)
    {history : List Call} (played : ∀ call ∈ history, call = .step ∨ call.isInput = true)
    (deeper : ∀ count ≤ history.length,
      base.length < (machine.performAll (history.take count)).stack.pointer.toNat) :
    HasBase (base ++ [address]) (machine.performAll history).stack := by
  induction history generalizing machine with
  | nil => exact based
  | cons call history ih =>
    rcases hasBase_perform based (played call (List.mem_cons_self ..)) with
      kept | ⟨clean, entries, -⟩
    · refine ih kept (fun later member => played later (List.mem_cons_of_mem _ member)) ?_
      intro count bound
      exact deeper (count + 1) (Nat.succ_le_succ bound)
    · have height := deeper 1 (Nat.succ_le_succ (Nat.zero_le _))
      have length := CallStack.length_entries clean.pointer_le
      rw [entries] at length
      rw [List.take_succ_cons, List.take_zero, performAll_cons, performAll_nil] at height
      omega

theorem performAll_of_isInput (machine : Machine) {history : List Call}
    (inputs : ∀ call ∈ history, call.isInput = true) :
    ∃ registers delayTimer soundTimer keypad, machine.performAll history =
      { machine with
        registers := registers
        delayTimer := delayTimer
        soundTimer := soundTimer
        keypad := keypad } := by
  induction history generalizing machine with
  | nil => exact ⟨_, _, _, _, rfl⟩
  | cons call history ih =>
    obtain ⟨_, _, _, _, here⟩ := machine.perform_of_isInput (inputs call (List.mem_cons_self ..))
    obtain ⟨_, _, _, _, later⟩ := ih (machine.perform call)
      fun next member => inputs next (List.mem_cons_of_mem _ member)
    rw [performAll_cons, later, here]
    exact ⟨_, _, _, _, rfl⟩

/-- The step that brings the call stack back to its height before a call, for the first
time since, goes on behind the call and leaves the stack exactly as it was before it.
Between the two there may be any steps and inputs. -/
theorem return_restores_stack
    (live : machine.mode = .running ∨ machine.mode = .waitingForKey)
    (inside : machine.pc.toNat + 2 ≤ 4096) (family : machine.wordAtPc.family.val = 0x2)
    (room : machine.stack.pointer.toNat ≤ 15)
    (unused : ∀ slot : Fin 16, machine.stack.pointer.toNat ≤ slot.val →
      machine.stack.slots.get slot = 0)
    {before between : List Call} (prepared : ∀ call ∈ before, call.isInput = true)
    (played : ∀ call ∈ between, call = .step ∨ call.isInput = true)
    (deeper : ∀ count ≤ between.length, machine.stack.pointer.toNat + 1 ≤
      (machine.performAll (before ++ .step :: between.take count)).stack.pointer.toNat)
    (returned : (machine.performAll (before ++ .step :: between ++ [.step])).stack.pointer =
      machine.stack.pointer) :
    (machine.performAll (before ++ .step :: between ++ [.step])).pc.toNat =
        machine.pc.toNat + 2 ∧
      (machine.performAll (before ++ .step :: between ++ [.step])).stack = machine.stack := by
  have clean : machine.stack.IsClean := ⟨by omega, unused⟩
  have notFull : machine.stack.isFull = false := by
    rw [CallStack.isFull, decide_eq_false_iff_not]
    omega
  have height := CallStack.length_entries clean.pointer_le
  have called : HasBase (machine.stack.entries ++ [machine.pc + 2])
      (machine.performAll before).step.stack := by
    obtain ⟨_, _, _, _, reached⟩ := machine.performAll_of_isInput prepared
    have sameStack : (machine.performAll before).stack = machine.stack := by rw [reached]
    have samePc : (machine.performAll before).pc = machine.pc := by rw [reached]
    rw [← sameStack, ← samePc]
    apply hasBase_step_of_call <;> rw [reached]
    case live => exact Mode.isLive_eq_true_iff.mpr live
    case inside => exact inside
    case family => exact family
    case room => exact notFull
    case clean => exact clean
  have held : HasBase (machine.stack.entries ++ [machine.pc + 2])
      ((machine.performAll before).step.performAll between).stack := by
    refine hasBase_performAll called played ?_
    intro count bound
    have high := deeper count bound
    rw [performAll_append] at high
    rw [height]
    exact high
  have history : machine.performAll (before ++ .step :: between ++ [.step]) =
      ((machine.performAll before).step.performAll between).step := by
    rw [performAll_append, performAll_append]
    rfl
  rw [history] at returned ⊢
  rcases hasBase_step held with kept | ⟨cleanAfter, entries, goesOn⟩
  · -- The return address cannot still be on the stack, which is too low for it.
    have length := kept.base_prefix.length_le
    rw [CallStack.length_entries kept.clean.pointer_le, returned, List.length_append, height,
      List.length_singleton] at length
    omega
  · rw [goesOn]
    exact ⟨toNat_add_two (by omega), cleanAfter.eq_of_entries_eq clean entries⟩

/-- A subroutine that calls another one, which writes over the word of the first
call. -/
theorem nested_return_restores_stack :
    let machine : Machine := { powerOn ⟨0, 0⟩ .standard with
      memory := Memory.zero.write 0
        [0x20, 0x04, 0x00, 0x00, 0x20, 0x08, 0x00, 0xEE, 0xF0, 0x55, 0x00, 0xEE]
      pc := 0 }
    let between : List Call := [.setRegister 0 5, .step, .setKey 3 true, .step, .step, .tick]
    let last := machine.performAll ([.tick] ++ .step :: between ++ [.step])
    last.memory.byteAt 0 = 5 ∧ last.pc.toNat = 2 ∧ last.stack = machine.stack := by
  intro machine between last
  have family : machine.wordAtPc.family.val = 0x2 := by decide +kernel
  have deeper : ∀ count ≤ between.length, machine.stack.pointer.toNat + 1 ≤
      (machine.performAll ([.tick] ++ .step :: between.take count)).stack.pointer.toNat := by
    decide +kernel
  have returned : (machine.performAll ([.tick] ++ .step :: between ++ [.step])).stack.pointer =
      machine.stack.pointer := by
    decide +kernel
  refine ⟨by decide +kernel, ?_⟩
  exact return_restores_stack (.inl rfl) (by decide) family (by decide) (by decide) (by decide)
    (by decide) deeper returned

end Machine

end Chip8
