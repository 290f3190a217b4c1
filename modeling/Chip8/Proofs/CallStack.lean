/-
# Entries of the call stack

Pushing and popping seen from outside: when they refuse, that a stack never grows
past its sixteen slots, and that what is popped was an entry.

A stack whose unused slots hold zero is clean.  Pushing and popping keep it clean, and
clean stacks with the same entries are the same.
-/
import Chip8.CallStack

namespace Chip8.CallStack

variable {stack : CallStack}

theorem push_of_isFull (full : stack.isFull = true) (address : UInt16) :
    stack.push address = (stack, true) := by
  rw [push, if_pos full]

theorem push_of_not_isFull (room : stack.isFull = false) (address : UInt16) :
    stack.push address = ((stack.push address).1, false) := by
  rw [push, room]
  rfl

theorem pop_of_isEmpty (unused : stack.isEmpty = true) : stack.pop = (stack, 0, true) := by
  rw [pop, if_pos unused]

theorem pop_of_not_isEmpty (used : stack.isEmpty = false) :
    stack.pop = (stack.pop.1, stack.pop.2.1, false) := by
  rw [pop, used]
  rfl

theorem isFull_eq_true_iff (bounded : stack.pointer.toNat ≤ 16) :
    stack.isFull = true ↔ stack.pointer.toNat = 16 := by
  simp only [isFull, decide_eq_true_eq]
  omega

theorem isEmpty_eq_true_iff : stack.isEmpty = true ↔ stack.pointer.toNat = 0 := by
  simp only [isEmpty, beq_iff_eq]
  rw [← UInt8.toNat_inj]
  rfl

theorem pointer_pos (used : stack.isEmpty = false) : 0 < stack.pointer.toNat := by
  rw [Nat.pos_iff_ne_zero]
  intro unused
  rw [isEmpty_eq_true_iff.mpr unused] at used
  cases used

theorem pointer_push (room : stack.isFull = false) (address : UInt16) :
    (stack.push address).1.pointer.toNat = stack.pointer.toNat + 1 := by
  have below : stack.pointer.toNat < 16 := by simpa [isFull] using room
  rw [push, room]
  show (stack.pointer + 1).toNat = stack.pointer.toNat + 1
  rw [UInt8.toNat_add]
  exact Nat.mod_eq_of_lt (by show stack.pointer.toNat + 1 < 256; omega)

theorem pointer_pop (used : stack.isEmpty = false) :
    stack.pop.1.pointer.toNat = stack.pointer.toNat - 1 := by
  have positive := pointer_pos used
  rw [pop, used]
  show (stack.pointer - 1).toNat = stack.pointer.toNat - 1
  apply UInt8.toNat_sub_of_le
  rw [UInt8.le_iff_toNat_le]
  exact positive

/-- The entries are what stands in the slots below the pointer. -/
theorem mem_entries_iff (address : UInt16) :
    address ∈ stack.entries ↔
      ∃ slot : Fin 16, slot.val < stack.pointer.toNat ∧ stack.slots.get slot = address := by
  simp only [entries, List.mem_take_iff_getElem, Vector.length_toList, Vector.getElem_toList]
  constructor
  · rintro ⟨slot, inBounds, rfl⟩
    exact ⟨⟨slot, by omega⟩, by show slot < stack.pointer.toNat; omega, rfl⟩
  · rintro ⟨slot, used, rfl⟩
    exact ⟨slot.val, by omega, rfl⟩

theorem length_entries (bounded : stack.pointer.toNat ≤ 16) :
    stack.entries.length = stack.pointer.toNat := by
  rw [entries, List.length_take, Vector.length_toList]
  omega

/-- A pop gives the newest entry and leaves the others. -/
theorem entries_eq_pop_append (used : stack.isEmpty = false)
    (bounded : stack.pointer.toNat ≤ 16) :
    stack.entries = stack.pop.1.entries ++ [stack.pop.2.1] := by
  have positive := pointer_pos used
  have length := length_entries bounded
  have inBounds : stack.pointer.toNat - 1 < 16 := by omega
  have nonempty : stack.entries ≠ [] := List.ne_nil_of_length_pos (by omega)
  have top : stack.pop.2.1 = stack.slots[stack.pointer.toNat - 1] := by
    have below : min (stack.pointer.toNat - 1) 15 = stack.pointer.toNat - 1 := by omega
    rw [pop, used]
    simp only [Bool.false_eq_true, ↓reduceIte, below]
  have last : stack.entries.getLast nonempty = stack.pop.2.1 := by
    rw [List.getLast_eq_getElem, top]
    simp only [length]
    simp only [entries, List.getElem_take, Vector.getElem_toList]
  rw [entries_pop used bounded, ← last, List.dropLast_concat_getLast]

/-- The address that a pop gives was an entry. -/
theorem pop_mem_entries (used : stack.isEmpty = false) (bounded : stack.pointer.toNat ≤ 16) :
    stack.pop.2.1 ∈ stack.entries := by
  rw [entries_eq_pop_append used bounded]
  exact List.mem_append_right _ (List.mem_singleton_self _)

/-! ## Clean stacks -/

/-- The pointer does not exceed the number of slots, and every slot that is not in use
holds zero. -/
structure IsClean (stack : CallStack) : Prop where
  pointer_le : stack.pointer.toNat ≤ 16
  unused_eq_zero : ∀ slot : Fin 16, stack.pointer.toNat ≤ slot.val → stack.slots.get slot = 0

namespace IsClean

theorem push (clean : stack.IsClean) (room : stack.isFull = false) (address : UInt16) :
    (stack.push address).1.IsClean := by
  have raised := pointer_push room address
  have below : stack.pointer.toNat < 16 := by simpa [isFull] using room
  refine ⟨by omega, ?_⟩
  intro slot unused
  have other : stack.pointer.toNat ≠ slot.val := by omega
  have kept : (stack.push address).1.slots.get slot = stack.slots.get slot := by
    rw [CallStack.push, room]
    exact Vector.getElem_setIfInBounds_ne slot.isLt other
  rw [kept]
  exact clean.unused_eq_zero slot (by omega)

theorem pop (clean : stack.IsClean) (used : stack.isEmpty = false) : stack.pop.1.IsClean := by
  have lowered := pointer_pop used
  have bounded := clean.pointer_le
  refine ⟨by omega, ?_⟩
  intro slot unused
  have popped : stack.pop.1.slots.get slot =
      if stack.pointer.toNat - 1 = slot.val then 0 else stack.slots.get slot := by
    rw [CallStack.pop, used]
    exact Vector.getElem_setIfInBounds slot.isLt
  rw [popped]
  split
  · rfl
  · exact clean.unused_eq_zero slot (by omega)

/-- The slots of a clean stack hold its entries, and zero behind them. -/
theorem get_slots (clean : stack.IsClean) (slot : Fin 16) :
    stack.slots.get slot = stack.entries[slot.val]?.getD 0 := by
  by_cases used : slot.val < stack.pointer.toNat
  · have entry : stack.entries[slot.val]? = some (stack.slots.get slot) := by
      rw [entries, List.getElem?_take_of_lt used, List.getElem?_eq_getElem (by simp)]
      rfl
    rw [entry]
    rfl
  · have beyond : stack.entries[slot.val]? = none := by
      rw [List.getElem?_eq_none_iff, length_entries clean.pointer_le]
      omega
    rw [beyond]
    exact clean.unused_eq_zero slot (by omega)

/-- A clean stack is determined by its entries. -/
theorem eq_of_entries_eq {first second : CallStack} (firstClean : first.IsClean)
    (secondClean : second.IsClean) (same : first.entries = second.entries) : first = second := by
  have pointers : first.pointer.toNat = second.pointer.toNat := by
    rw [← length_entries firstClean.pointer_le, same, length_entries secondClean.pointer_le]
  have slots (slot : Fin 16) : first.slots.get slot = second.slots.get slot := by
    rw [firstClean.get_slots, secondClean.get_slots, same]
  obtain ⟨firstSlots, firstPointer⟩ := first
  obtain ⟨secondSlots, secondPointer⟩ := second
  congr
  · apply Vector.ext
    intro slot inBounds
    exact slots ⟨slot, inBounds⟩
  · exact UInt8.toNat_inj.mp pointers

end IsClean

end Chip8.CallStack
