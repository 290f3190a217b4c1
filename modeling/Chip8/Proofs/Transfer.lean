/-
# Registers in memory

The first registers can be stored at the index register and loaded from there again.  Both
transfers are as long as the register that their word names says, also where the memory ends
soon behind them, and both move the index register behind the last byte in the dialects that do
so.  A store writes sixteen bytes whatever its length is: behind the registers it puts back the
bytes that it found there, so that of the sixteen only the registers count
(`write_storedWindow`).

The main result is `stored_registers_are_loaded`.
-/
import Chip8.Proofs.Devices
import Chip8.Proofs.Operands
import Chip8.Proofs.Patterns

namespace Chip8.Machine

variable {machine : Machine} {word : Word}

/-- A transfer that ends within memory moves the index register without wrapping. -/
theorem toNat_indexAfterTransfer {x : Register} (fits : machine.index.toNat + x.val + 1 ≤ 4096) :
    (machine.indexAfterTransfer x).toNat =
      if machine.dialect.transferAdvancesIndex then machine.index.toNat + x.val + 1
      else machine.index.toNat := by
  unfold indexAfterTransfer
  split
  case isTrue =>
    have size : (UInt16.ofNat (x.val + 1)).toNat = x.val + 1 :=
      UInt16.toNat_ofNat_of_lt' (show x.val + 1 < 65536 by omega)
    rw [UInt16.toNat_add, size, Nat.mod_eq_of_lt (by omega), Nat.add_assoc]
  case isFalse => rfl

theorem indexAfterTransfer_withRegisters (machine : Machine) (registers : Vector UInt8 16)
    (x : Register) :
    { machine with registers := registers }.indexAfterTransfer x = machine.indexAfterTransfer x :=
  rfl

theorem executeWord_storeRegisters (stores : Operation.storeRegisters.Matches word)
    (fits : machine.index.toNat + word.x.val + 1 ≤ 4096) :
    machine.executeWord word =
      { machine with
        memory := machine.memory.write machine.index.toNat
          (machine.registers.toList.take (word.x.val + 1))
        index := machine.indexAfterTransfer word.x } := by
  have inside : machine.rangeFault? (word.x.val + 1) = none := if_neg (by omega)
  rw [stores.executeWord_eq]
  exact (storeRegisters_of_inside inside).trans (advanceIndex_eq _ word.x)

theorem executeWord_loadRegisters (loads : Operation.loadRegisters.Matches word)
    (fits : machine.index.toNat + word.x.val + 1 ≤ 4096) :
    machine.executeWord word =
      { machine with
        registers := Vector.ofFn fun k =>
          if k ≤ word.x then machine.memory.byteAt (machine.index.toNat + k.val)
          else machine.v k
        index := machine.indexAfterTransfer word.x } := by
  have inside : machine.rangeFault? (word.x.val + 1) = none := if_neg (by omega)
  rw [loads.executeWord_eq]
  show machine.loadRegisters word.x = _
  rw [loadRegisters_of_inside inside, advanceIndex_eq, indexAfterTransfer_withRegisters]

/-- Storing the registers up to `VX` puts them into the memory one behind the other from the
index register on, and changes nothing else but perhaps the index register.  Any machine with
the same index register that finds these bytes there loads the same registers, whatever else
it has in its memory or in its other registers, and changes nothing else either. -/
theorem stored_registers_are_loaded (machine : Machine) {store : Word}
    (stores : Operation.storeRegisters.Matches store)
    (fits : machine.index.toNat + store.x.val + 1 ≤ 4096) :
    let stored := machine.executeWord store
    (∀ (k : Register) (address : Address), k ≤ store.x →
      address.val = machine.index.toNat + k.val →
      stored.memory.cell address = machine.v k) ∧
    (∀ address : Address,
      address.val < machine.index.toNat ∨ machine.index.toNat + store.x.val < address.val →
      stored.memory.cell address = machine.memory.cell address) ∧
    (stored.index.toNat = if machine.dialect.transferAdvancesIndex
      then machine.index.toNat + store.x.val + 1 else machine.index.toNat) ∧
    stored = { machine with memory := stored.memory, index := stored.index } ∧
    ∀ (other : Machine) (load : Word), Operation.loadRegisters.Matches load →
      load.x = store.x → other.index = machine.index →
      (∀ address : Address, machine.index.toNat ≤ address.val →
        address.val ≤ machine.index.toNat + store.x.val →
        other.memory.cell address = stored.memory.cell address) →
      let loaded := other.executeWord load
      (∀ k, k ≤ store.x → loaded.v k = machine.v k) ∧
      (∀ k, store.x < k → loaded.v k = other.v k) ∧
      (loaded.index.toNat = if other.dialect.transferAdvancesIndex
        then machine.index.toNat + store.x.val + 1 else machine.index.toNat) ∧
      loaded = { other with registers := loaded.registers, index := loaded.index } := by
  intro stored
  have executed : stored = _ := executeWord_storeRegisters stores fits
  have written (k : Register) (address : Address) (within : k ≤ store.x)
      (here : address.val = machine.index.toNat + k.val) :
      stored.memory.cell address = machine.v k := by
    rw [executed]
    exact Memory.cell_write_of_inside _ (machine.getElem?_take_registers within) here
  refine ⟨written, ?outside, ?index, ?rest, ?loads⟩
  case outside =>
    intro address outside
    rw [executed]
    apply Memory.cell_write_of_outside
    rw [length_take_registers]
    omega
  case index =>
    rw [executed]
    exact toNat_indexAfterTransfer fits
  case rest =>
    rw [executed]
  case loads =>
    intro other load loads same index found loaded
    rw [← index, ← same] at fits
    have executed : loaded = _ := executeWord_loadRegisters loads fits
    have read (k : Register) : loaded.v k =
        if k ≤ load.x then other.memory.byteAt (other.index.toNat + k.val) else other.v k := by
      rw [executed]
      exact Vector.getElem_ofFn k.isLt
    refine ⟨?_, ?_, ?_, ?_⟩
    · intro k within
      have bound : k.val ≤ store.x.val := within
      have inside : other.index.toNat + k.val < 4096 := by
        rw [same] at fits
        omega
      rw [read, same, if_pos within, Memory.byteAt_eq_cell _ inside,
        found _ (by simp [index]) (by simpa [index] using bound)]
      exact written k _ within (by simp [index])
    · intro k behind
      rw [read, same, if_neg (Fin.not_le.mpr behind)]
    · rw [executed, ← index, ← same]
      exact toNat_indexAfterTransfer fits
    · rw [executed]

/-- Three registers are stored in the last three bytes of the memory.  Another machine, in
another dialect and with other registers, loads them from there. -/
theorem registers_cross_between_machines :
    let machine : Machine :=
      { powerOn ⟨0, 0⟩ .standard with
        memory := Memory.zero
        index := 0xFFD
        registers := #v[1, 2, 3, 4, 0, 0, 0, 0, 0, 0, 0, 0, 0, 0, 0, 0] }
    let other : Machine :=
      { machine.executeWord 0xF255 with
        dialect := .classic
        registers := Vector.replicate 16 9 }
    (machine.executeWord 0xF255).memory.cell ⟨0xFFF, by decide⟩ = 3 ∧
    (machine.executeWord 0xF255).index.toNat = 0xFFD ∧
    (other.executeWord 0xF265).v ⟨2, by decide⟩ = 3 ∧
    (other.executeWord 0xF265).v ⟨3, by decide⟩ = 9 ∧
    (other.executeWord 0xF265).index.toNat = 0x1000 := by
  intro machine
  have stores : Operation.storeRegisters.Matches 0xF255 := ⟨⟨Word.fields 0xF255, rfl⟩, nofun⟩
  have loads : Operation.loadRegisters.Matches 0xF265 := ⟨⟨Word.fields 0xF265, rfl⟩, nofun⟩
  have stays : ¬ machine.dialect.transferAdvancesIndex = true := Bool.false_ne_true
  obtain ⟨written, -, index, -, crosses⟩ := stored_registers_are_loaded machine stores (by decide)
  rw [if_neg stays] at index
  generalize machine.executeWord 0xF255 = stored at *
  intro other
  have advances : other.dialect.transferAdvancesIndex = true := rfl
  have same : other.index = machine.index := UInt16.toNat_inj.mp index
  obtain ⟨loaded, kept, moved, -⟩ := crosses other 0xF265 loads rfl same (fun _ _ _ => rfl)
  rw [if_pos advances] at moved
  exact ⟨written ⟨2, by decide⟩ ⟨0xFFF, by decide⟩ (by decide) rfl, index,
    loaded ⟨2, by decide⟩ (by decide), kept ⟨3, by decide⟩ (by decide), moved⟩

end Chip8.Machine
