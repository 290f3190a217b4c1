/-
# Loading

A program is loaded as a whole or not at all, at every origin, the negative ones and those behind
the memory among them: either the bytes fit, and then they are written from the origin on, or
the error tells the size and the origin.  What is written stands in the places that the bytes
take, and programs that take no place in common can be loaded in either order.

The main result is `load_is_exact`.
-/
import Chip8.Proofs.Devices
import Chip8.Proofs.Invariant

namespace Chip8

namespace Memory

/-- A place is one of those that a run of bytes takes from its origin on. -/
def Takes (bytes : List UInt8) (origin place : Int) : Prop :=
  origin ≤ place ∧ place < origin + bytes.length

/-- A run of bytes fits in memory from its origin on. -/
def Fits (bytes : List UInt8) (origin : Int) : Prop :=
  0 ≤ origin ∧ origin + bytes.length ≤ 4096

instance (bytes : List UInt8) (origin : Int) : Decidable (Fits bytes origin) := by
  unfold Fits
  infer_instance

theorem cell_write_of_not_takes (memory : Memory) {bytes : List UInt8} {start : Nat}
    {address : Address} (outside : ¬ Takes bytes start address.val) :
    (memory.write start bytes).cell address = memory.cell address := by
  apply cell_write_of_outside
  unfold Takes at outside
  omega

/-- A cell that is written holds the same byte whatever it held before. -/
theorem cell_write_of_takes (first second : Memory) {bytes : List UInt8} {start : Nat}
    {address : Address} (inside : Takes bytes start address.val) :
    (first.write start bytes).cell address = (second.write start bytes).cell address := by
  unfold Takes at inside
  have offset : address.val - start < bytes.length := by omega
  have here : address.val = start + (address.val - start) := by omega
  have byte := List.getElem?_eq_getElem offset
  rw [first.cell_write_of_inside byte here, second.cell_write_of_inside byte here]

/-- Runs of bytes that take no place in common can be written in either order. -/
theorem write_comm (memory : Memory) {bytes others : List UInt8} {start elsewhere : Nat}
    (apart : ∀ place, Takes bytes start place → ¬ Takes others elsewhere place) :
    (memory.write start bytes).write elsewhere others =
      (memory.write elsewhere others).write start bytes := by
  apply eq_of_cells
  intro address
  by_cases first : Takes bytes start address.val
  · calc ((memory.write start bytes).write elsewhere others).cell address
        = (memory.write start bytes).cell address := cell_write_of_not_takes _ (apart _ first)
      _ = ((memory.write elsewhere others).write start bytes).cell address :=
          cell_write_of_takes _ _ first
  · rw [cell_write_of_not_takes (memory.write elsewhere others) first]
    by_cases second : Takes others elsewhere address.val
    · exact cell_write_of_takes _ _ second
    · rw [cell_write_of_not_takes _ second, cell_write_of_not_takes _ second,
        cell_write_of_not_takes _ first]

end Memory

namespace Machine

variable {machine : Machine} {bytes : List UInt8} {origin : Int}

theorem load_bytes_of_fits (machine : Machine) (fits : Memory.Fits bytes origin) :
    machine.load (.bytes bytes) origin =
      .ok { machine with memory := machine.memory.write origin.toNat bytes } := by
  obtain ⟨start, rfl⟩ := Int.eq_ofNat_of_zero_le fits.1
  exact machine.load_bytes (Int.ofNat_le.mp fits.2)

theorem load_bytes_of_not_fits (machine : Machine) (unfit : ¬ Memory.Fits bytes origin) :
    machine.load (.bytes bytes) origin = .error (.romTooLarge bytes.length origin) := by
  have outside : origin < 0 ∨ 4096 < origin + bytes.length := by
    unfold Memory.Fits at unfit
    omega
  rw [load_eq_map, Memory.programBytes_of_outside rfl outside]
  rfl

theorem perform_load_of_fits (machine : Machine) (fits : Memory.Fits bytes origin) :
    machine.perform (.load (.bytes bytes) origin) =
      { machine with memory := machine.memory.write origin.toNat bytes } := by
  rw [perform, Call.apply, machine.load_bytes_of_fits fits]

theorem perform_load_of_not_fits (machine : Machine) (unfit : ¬ Memory.Fits bytes origin) :
    machine.perform (.load (.bytes bytes) origin) = machine := by
  rw [perform, Call.apply, machine.load_bytes_of_not_fits unfit]

/-- Programs that take no place in common can be loaded in either order. -/
theorem perform_load_comm (machine : Machine) {others : List UInt8} {elsewhere : Int}
    (apart : ∀ place, Memory.Takes bytes origin place → ¬ Memory.Takes others elsewhere place) :
    (machine.perform (.load (.bytes bytes) origin)).perform (.load (.bytes others) elsewhere) =
      (machine.perform (.load (.bytes others) elsewhere)).perform
        (.load (.bytes bytes) origin) := by
  by_cases fits : Memory.Fits bytes origin
  case neg => rw [perform_load_of_not_fits _ fits, perform_load_of_not_fits _ fits]
  by_cases othersFit : Memory.Fits others elsewhere
  case neg => rw [perform_load_of_not_fits _ othersFit, perform_load_of_not_fits _ othersFit]
  have start := Int.toNat_of_nonneg fits.1
  have startElsewhere := Int.toNat_of_nonneg othersFit.1
  rw [← start, ← startElsewhere] at apart
  rw [perform_load_of_fits _ fits, perform_load_of_fits _ fits, perform_load_of_fits _ othersFit,
    perform_load_of_fits _ othersFit]
  exact congrArg (fun memory => { machine with memory := memory })
    (machine.memory.write_comm apart)

/-- Bytes are loaded exactly when they fit in memory from their origin on.  Then each of them
stands at its place, every cell that they do not take is as before, and so is all of the
machine but its memory.  Otherwise the error tells the number of the bytes and the origin, and
the machine stays as it is.  Programs that take no place in common leave the same machine in
whichever order they are loaded. -/
theorem load_is_exact (machine : Machine) (bytes : List UInt8) (origin : Int) :
    ((∃ loaded, machine.load (.bytes bytes) origin = .ok loaded) ↔
      0 ≤ origin ∧ origin + bytes.length ≤ 4096) ∧
    (∀ loaded, machine.load (.bytes bytes) origin = .ok loaded →
      (∀ (k : Nat) byte, bytes[k]? = some byte → ∃ address : Address,
        (address.val : Int) = origin + k ∧ loaded.memory.cell address = byte) ∧
      (∀ address : Address,
        (address.val : Int) < origin ∨ origin + bytes.length ≤ address.val →
          loaded.memory.cell address = machine.memory.cell address) ∧
      loaded = { machine with memory := loaded.memory }) ∧
    (¬ (0 ≤ origin ∧ origin + bytes.length ≤ 4096) →
      machine.load (.bytes bytes) origin = .error (.romTooLarge bytes.length origin) ∧
        machine.perform (.load (.bytes bytes) origin) = machine) ∧
    ∀ others elsewhere,
      (∀ place, Memory.Takes bytes origin place → ¬ Memory.Takes others elsewhere place) →
      machine.performAll [.load (.bytes bytes) origin, .load (.bytes others) elsewhere] =
        machine.performAll [.load (.bytes others) elsewhere, .load (.bytes bytes) origin] := by
  refine ⟨?succeeds, ?written, fun unfit =>
    ⟨machine.load_bytes_of_not_fits unfit, machine.perform_load_of_not_fits unfit⟩,
    fun others elsewhere apart => machine.perform_load_comm apart⟩
  case succeeds =>
    constructor
    · rintro ⟨loaded, succeeded⟩
      by_cases fits : Memory.Fits bytes origin
      · exact fits
      · rw [machine.load_bytes_of_not_fits fits] at succeeded
        cases succeeded
    · intro fits
      exact ⟨_, machine.load_bytes_of_fits fits⟩
  case written =>
    intro loaded succeeded
    by_cases fits : Memory.Fits bytes origin
    case neg =>
      rw [machine.load_bytes_of_not_fits fits] at succeeded
      cases succeeded
    rw [machine.load_bytes_of_fits fits] at succeeded
    cases succeeded
    have start := Int.toNat_of_nonneg fits.1
    refine ⟨?_, ?_, rfl⟩
    · intro k byte inside
      have bound := (List.getElem?_eq_some_iff.mp inside).1
      have upper := fits.2
      refine ⟨⟨origin.toNat + k, by omega⟩, by show ((_ + _ : Nat) : Int) = _; omega, ?_⟩
      exact machine.memory.cell_write_of_inside inside rfl
    · intro address outside
      exact machine.memory.cell_write_of_outside (by omega)

/-- Two bytes at the end of the memory, one byte further, and no bytes at all behind it. -/
theorem bytes_are_loaded_up_to_the_end :
    let machine := powerOn ⟨0, 0⟩ .standard
    (∃ loaded, machine.load (.bytes [0x12, 0x34]) 0xFFE = .ok loaded ∧
      ∃ address : Address, (address.val : Int) = 0xFFE + 1 ∧
        loaded.memory.cell address = 0x34) ∧
    machine.load (.bytes [0x12, 0x34]) 0xFFF = .error (.romTooLarge 2 0xFFF) ∧
    (∃ loaded, machine.load (.bytes []) 0x1000 = .ok loaded) ∧
    machine.load (.bytes []) (-1) = .error (.romTooLarge 0 (-1)) ∧
    machine.performAll [.load (.bytes [0x12, 0x34]) 0xFFE, .load (.bytes [0x56]) 0xFFD] =
      machine.performAll [.load (.bytes [0x56]) 0xFFD, .load (.bytes [0x12, 0x34]) 0xFFE] := by
  intro machine
  have exact := load_is_exact machine
  obtain ⟨succeeds, written, -, commutes⟩ := exact [0x12, 0x34] 0xFFE
  obtain ⟨loaded, succeeded⟩ := succeeds.mpr (by decide)
  refine ⟨⟨loaded, succeeded, (written loaded succeeded).1 1 0x34 rfl⟩,
    ((exact [0x12, 0x34] 0xFFF).2.2.1 (by decide)).1, (exact [] 0x1000).1.mpr (by decide),
    ((exact [] (-1)).2.2.1 (by decide)).1, commutes [0x56] 0xFFD fun place first second => ?_⟩
  obtain ⟨low, -⟩ := first
  obtain ⟨-, high⟩ := second
  have behind : place < 0xFFD + 1 := high
  omega

end Machine

end Chip8
