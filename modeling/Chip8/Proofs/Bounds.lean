/-
# Bounds of addresses

The program counter has sixteen bits, and so have the return addresses on the call
stack.  Neither comes near what sixteen bits hold: a call leaves the address behind a
word in memory, a return goes on at such an address, and the farthest that any other
instruction leads is the jump that adds a register to a 12-bit address.  The two bounds
rest on each other and are carried through a history together, as `IsBounded`.

The main result is `addresses_never_wrap`.  It compares the machine with the targets
that `target` reckons in whole numbers.
-/
import Chip8.Proofs.Invariant
import Chip8.Proofs.Step

namespace Chip8.Machine

/-- The program counter lies in memory or within reach of a jump from there, and each
return address on the call stack stands behind a word in memory. -/
structure IsBounded (machine : Machine) : Prop where
  pc_le : machine.pc.toNat ≤ 0x10FE
  pointer_le : machine.stack.pointer.toNat ≤ 16
  entry_bounds : ∀ address ∈ machine.stack.entries, 2 ≤ address.toNat ∧ address.toNat ≤ 0x1000

variable {machine : Machine} {instruction : Instruction}

/-! ## One instruction -/

theorem pointer_stackAfter_le (bounded : machine.IsBounded)
    (accepted : machine.faultOf? instruction = none) :
    (machine.stackAfter instruction).pointer.toNat ≤ 16 := by
  have before := bounded.pointer_le
  rw [stackAfter.eq_def]
  split
  · rw [CallStack.pointer_pop (isEmpty_eq_false_of_accepted accepted)]
    omega
  · have room := isFull_eq_false_of_accepted accepted
    have below : machine.stack.pointer.toNat ≠ 16 := by
      intro full
      rw [(CallStack.isFull_eq_true_iff before).mpr full] at room
      cases room
    rw [CallStack.pointer_push room]
    omega
  · exact before

section Executed

variable (bounded : machine.IsBounded) (low : 2 ≤ machine.pc.toNat)
  (high : machine.pc.toNat ≤ 0x1000) (accepted : machine.faultOf? instruction = none)

include bounded low high accepted

theorem target_bounds :
    0 ≤ machine.target instruction ∧ machine.target instruction ≤ 0x10FE := by
  rw [target.eq_def]
  split
  -- A return, a jump, a call, a jump with an offset, a wait for a key, and the rest.
  case h_1 =>
    have popped := bounded.entry_bounds _
      (CallStack.pop_mem_entries (isEmpty_eq_false_of_accepted accepted) bounded.pointer_le)
    omega
  case h_2 address =>
    have inMemory := address.isLt
    omega
  case h_3 address =>
    have inMemory := address.isLt
    omega
  case h_4 base =>
    have inMemory := base.isLt
    have offset := UInt8.toNat_lt (machine.v (machine.offsetRegister base))
    omega
  case h_5 => split <;> omega
  case h_6 => split <;> omega

/-- Sixteen bits hold the target of an instruction. -/
theorem toNat_pc_execute :
    ((machine.execute instruction).pc.toNat : Int) = machine.target instruction := by
  have bounds := target_bounds bounded low high accepted
  rw [pc_execute accepted, toNat_ofInt]
  exact Int.emod_eq_of_lt bounds.1 (by omega)

theorem entry_bounds_stackAfter (address : UInt16)
    (entry : address ∈ (machine.stackAfter instruction).entries) :
    2 ≤ address.toNat ∧ address.toNat ≤ 0x1000 := by
  rw [stackAfter.eq_def] at entry
  split at entry
  · rw [CallStack.entries_pop (isEmpty_eq_false_of_accepted accepted) bounded.pointer_le] at entry
    exact bounded.entry_bounds address (List.dropLast_subset _ entry)
  · rw [CallStack.entries_push (isFull_eq_false_of_accepted accepted), List.mem_append,
      List.mem_singleton] at entry
    rcases entry with older | rfl
    · exact bounded.entry_bounds address older
    · -- The new entry is the program counter, which stands behind the word of the call.
      exact ⟨low, high⟩
  · exact bounded.entry_bounds address entry

theorem IsBounded.execute : (machine.execute instruction).IsBounded where
  pc_le := by
    have reached := toNat_pc_execute bounded low high accepted
    have bounds := target_bounds bounded low high accepted
    omega
  pointer_le := by
    rw [stack_execute accepted]
    exact pointer_stackAfter_le bounded accepted
  entry_bounds := by
    rw [stack_execute accepted]
    exact entry_bounds_stackAfter bounded low high accepted

end Executed

/-! ## Steps and histories -/

namespace IsBounded

theorem toNat_pc_fetched (bounded : machine.IsBounded) :
    machine.fetched.pc.toNat = machine.pc.toNat + 2 := by
  have reach := bounded.pc_le
  exact toNat_add_two (by omega)

theorem fetched (bounded : machine.IsBounded) (inside : machine.pc.toNat + 2 ≤ 4096) :
    machine.fetched.IsBounded where
  pc_le := by
    rw [bounded.toNat_pc_fetched]
    omega
  pointer_le := bounded.pointer_le
  entry_bounds := bounded.entry_bounds

theorem halt (bounded : machine.IsBounded) (fault : Fault) (info : Int) :
    (machine.halt fault info).IsBounded :=
  ⟨bounded.pc_le, bounded.pointer_le, bounded.entry_bounds⟩

theorem execute_fetched (bounded : machine.IsBounded) (inside : machine.pc.toNat + 2 ≤ 4096)
    (accepted : machine.fetched.faultOf? instruction = none) :
    (machine.fetched.execute instruction).IsBounded := by
  have behind := bounded.toNat_pc_fetched
  exact (bounded.fetched inside).execute (by omega) (by omega) accepted

theorem step (bounded : machine.IsBounded) : machine.step.IsBounded := by
  refine machine.step_elim ?stopped ?outside ?refused ?executed
  case stopped => exact fun _ => bounded
  case outside => exact fun _ _ => bounded.halt _ _
  case refused => exact fun _ inside fault info _ => (bounded.fetched inside).halt fault info
  case executed => exact fun _ inside _ _ accepted => bounded.execute_fetched inside accepted

end IsBounded

theorem isInvariant_isBounded : IsInvariant IsBounded where
  powerOn _ _ := ⟨show 0x200 ≤ 0x10FE by decide, Nat.zero_le 16, fun _ entry => nomatch entry⟩
  step _ bounded := bounded.step
  selectResolution _ _ bounded := ⟨bounded.pc_le, bounded.pointer_le, bounded.entry_bounds⟩
  access _ _ _ _ _ _ _ bounded := ⟨bounded.pc_le, bounded.pointer_le, bounded.entry_bounds⟩

/-- The program counter and the return addresses of a reachable machine are bounded, and
so are the targets of its instructions: what sixteen bits keep of them is always the
number itself. -/
theorem addresses_never_wrap (reachable : machine.IsReachable) :
    machine.pc.toNat ≤ 0x10FE ∧ machine.stack.pointer.toNat ≤ 16 ∧
      (∀ slot : Fin 16, slot.val < machine.stack.pointer.toNat →
        2 ≤ (machine.stack.slots.get slot).toNat ∧ (machine.stack.slots.get slot).toNat ≤ 0x1000) ∧
      machine.fetched.pc.toNat = machine.pc.toNat + 2 ∧
      (machine.pc.toNat + 2 ≤ 4096 →
        (machine.fetched.pc + 2).toNat = machine.fetched.pc.toNat + 2 ∧
        (machine.fetched.currentAddress.toNat : Int) = machine.fetched.pc.toNat - 2 ∧
        ∀ instruction, Instruction.decode machine.wordAtPc = some instruction →
          machine.mode.isLive = true → machine.fetched.faultOf? instruction = none →
          (machine.step.pc.toNat : Int) = machine.fetched.target instruction) := by
  have bounded := isInvariant_isBounded.of_isReachable reachable
  have behind := bounded.toNat_pc_fetched
  refine ⟨bounded.pc_le, bounded.pointer_le, ?_, behind, ?_⟩
  · intro slot used
    exact bounded.entry_bounds _ ((CallStack.mem_entries_iff _).mpr ⟨slot, used, rfl⟩)
  · intro inside
    refine ⟨toNat_add_two (by omega), ?_, ?_⟩
    · rw [currentAddress_fetched, behind]
      omega
    · intro instruction decoded live accepted
      have carried : machine.step = machine.fetched.execute instruction := by
        rw [step_of_inside live inside, executeWord, decoded]
      rw [carried]
      exact toNat_pc_execute (bounded.fetched inside) (by omega) (by omega) accepted

/-- The farthest jump with an offset reaches the bound. -/
theorem farthest_jump_never_wraps :
    let machine := (powerOn ⟨0, 0⟩ .standard).performAll
      [.load (.bytes [0xBF, 0xFF]) programStart, .setRegister 0 0xFF]
    machine.IsReachable ∧ machine.pc.toNat + 2 ≤ 4096 ∧ machine.step.pc.toNat = 0x10FE := by
  intro machine
  have reachable : machine.IsReachable := ⟨_, _, _, rfl⟩
  have loaded : machine =
      { powerOn ⟨0, 0⟩ .standard with
        memory := Font.memory.write 0x200 [0xBF, 0xFF] }.write 0 0xFF := by
    show performAll _ _ = _
    rw [performAll_cons, performAll_cons, performAll_nil, perform_load_bytes _ (by decide)]
    rfl
  have word : machine.wordAtPc = 0xBFFF := by
    rw [loaded]
    exact Font.memory.wordAt_write (by decide) 0xBF 0xFF
  have decoded : Instruction.decode machine.wordAtPc = some (.jumpOffset 0xFFF) := by
    rw [word]
    rfl
  have inside : machine.pc.toNat + 2 ≤ 4096 := by
    rw [loaded]
    decide
  have live : machine.mode.isLive = true := by
    rw [loaded]
    rfl
  have target : machine.fetched.target (.jumpOffset 0xFFF) = 0x10FE := by
    rw [loaded]
    rfl
  obtain ⟨-, -, -, -, exactly⟩ := addresses_never_wrap reachable
  have reached := (exactly inside).2.2 _ decoded live rfl
  rw [target] at reached
  exact ⟨reachable, inside, by omega⟩

end Chip8.Machine
