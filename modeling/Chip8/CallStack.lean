/-
# Call stack

Sixteen slots hold the return addresses of the subroutine calls that are under
way.  Pushing onto a full stack and popping from an empty one leave the stack as
it is and say so.  A slot that is popped is set back to zero, so that a stack is
determined by its entries.
-/

namespace Chip8

/-- The return addresses of the calls under way: the slots below the pointer are
in use. -/
structure CallStack where
  slots : Vector UInt16 16
  pointer : UInt8
deriving DecidableEq

namespace CallStack

/-- The stack without entries. -/
def empty : CallStack := ⟨Vector.replicate 16 0, 0⟩

/-- The entries, the one that was pushed first at the front. -/
def entries (stack : CallStack) : List UInt16 :=
  stack.slots.toList.take stack.pointer.toNat

/-- Whether there is no room for another entry. -/
def isFull (stack : CallStack) : Bool := 16 ≤ stack.pointer.toNat

/-- Whether there is no entry. -/
def isEmpty (stack : CallStack) : Bool := stack.pointer == 0

/-- Add an entry, and say whether there was no room for it.  A full stack stays as
it is. -/
def push (stack : CallStack) (address : UInt16) : CallStack × Bool :=
  if stack.isFull then (stack, true)
  else (⟨stack.slots.setIfInBounds stack.pointer.toNat address, stack.pointer + 1⟩, false)

/-- Add a whole number as an entry; of the number the low sixteen bits count. -/
def pushNumber (stack : CallStack) (number : Int) : CallStack × Bool :=
  stack.push (UInt16.ofInt number)

/-- Remove the newest entry, and say which it was and whether there was none.  An
empty stack stays as it is and gives the address zero.  With a pointer beyond the slots
the last slot is read, and none is set back. -/
def pop (stack : CallStack) : CallStack × UInt16 × Bool :=
  if stack.isEmpty then (stack, 0, true)
  else
    let top := stack.pointer.toNat - 1
    (⟨stack.slots.setIfInBounds top 0, stack.pointer - 1⟩, stack.slots[min top 15], false)

/-- The stack with the given entries, as far as they fit, and zero in every other
slot. -/
def ofList (entries : List UInt16) : CallStack :=
  ⟨Vector.ofFn fun slot => entries[slot.val]?.getD 0, UInt8.ofNat (min entries.length 16)⟩

/-- The empty stack has no entries. -/
@[simp]
theorem entries_empty : empty.entries = [] := rfl

/-- A push that finds room adds its address at the end of the entries. -/
theorem entries_push {stack : CallStack} (room : stack.isFull = false) (address : UInt16) :
    (stack.push address).1.entries = stack.entries ++ [address] := by
  have below : stack.pointer.toNat < 16 := by simpa [isFull] using room
  have raised : (stack.pointer + 1).toNat = stack.pointer.toNat + 1 := by
    rw [UInt8.toNat_add]
    exact Nat.mod_eq_of_lt (by change _ + 1 < 256; omega)
  unfold push entries
  rw [room]
  simp only [Bool.false_eq_true, ↓reduceIte, raised, Vector.toList_setIfInBounds]
  rw [List.take_add_one, List.take_set_of_le (Nat.le_refl _)]
  simp [below]

/-- A pop that finds an entry removes the last one. -/
theorem entries_pop {stack : CallStack} (used : stack.isEmpty = false)
    (bounded : stack.pointer.toNat ≤ 16) : stack.pop.1.entries = stack.entries.dropLast := by
  have positive : 1 ≤ stack.pointer := by
    have nonzero : stack.pointer ≠ 0 := by simpa [isEmpty] using used
    rw [UInt8.le_iff_toNat_le]
    have := mt UInt8.toNat_inj.mp nonzero
    change 1 ≤ _
    simp at this
    omega
  have lowered : (stack.pointer - 1).toNat = stack.pointer.toNat - 1 :=
    UInt8.toNat_sub_of_le _ _ positive
  unfold pop entries
  rw [used]
  simp only [Bool.false_eq_true, ↓reduceIte, lowered, Vector.toList_setIfInBounds]
  rw [List.take_set_of_le (Nat.le_refl _), List.dropLast_eq_take, List.take_take, List.length_take,
    Vector.length_toList]
  congr 1
  omega
end CallStack

end Chip8
