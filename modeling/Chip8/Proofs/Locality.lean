/-
# Locality

A step looks at the word at the program counter and at the bytes from the index register
on that this word works on.  What stands in any other cell of the memory does not matter to
the step, and the step leaves it alone, so that the cell may as well be written after the
step as before it.  This includes the cells that are read together with the operand and not
used: registers are stored and loaded within a window of sixteen bytes, however few of them
are transferred.

The main result is `step_poke`.
-/
import Chip8.Proofs.Dependence

namespace Chip8

/-- The number of bytes from the index register on that a word reads or writes. -/
def Word.operandLength (word : Word) : Nat :=
  if word.family.val = 0xD then
    if word.n.val = 0 then 32 else word.n.val
  else if word.family.val = 0xF then
    if word.nn = 0x33 then 3
    else if word.nn = 0x55 ∨ word.nn = 0x65 then word.x.val + 1
    else 0
  else 0

theorem Word.operandLength_of_family {word : Word} {digit : Nat} (family : word.family.val = digit)
    (plain : digit ≠ 0xD ∧ digit ≠ 0xF) : word.operandLength = 0 := by
  rw [operandLength, family, if_neg plain.1, if_neg plain.2]

namespace Instruction

variable {word : Word} {instruction : Instruction}

theorem operandLength_decodeSystem (target : Address) :
    (decodeSystem target).operandLength = 0 := by
  rw [decodeSystem.eq_def]
  split
  case h_8 => split <;> rfl
  all_goals rfl

theorem operandLength_of_decodeMiscellaneous (family : word.family.val = 0xF)
    (decoded : decodeMiscellaneous word.x word.nn.toNat = some instruction) :
    instruction.operandLength = word.operandLength := by
  have other : ¬ word.family.val = 0xD := by omega
  rw [Word.operandLength, if_neg other, if_pos family]
  rw [decodeMiscellaneous.eq_def] at decoded
  split at decoded
  case h_13 => cases decoded
  all_goals
    rename_i low
    cases decoded
    have byte : word.nn = UInt8.ofNat word.nn.toNat := UInt8.ofNat_toNat.symm
    rw [byte, low]
    rfl

/-- The operand of a word is that of the instruction that the word stands for. -/
theorem operandLength_of_decode (decoded : decode word = some instruction) :
    instruction.operandLength = word.operandLength := by
  rw [decode.eq_def] at decoded
  split at decoded
  case h_1 digit =>
    cases decoded
    rw [operandLength_decodeSystem, Word.operandLength_of_family digit (by decide)]
  case h_6 digit | h_10 digit =>
    obtain ⟨-, same⟩ := Option.ite_none_right_eq_some.mp decoded
    cases same
    rw [Word.operandLength_of_family digit (by decide)]
    rfl
  case h_9 digit =>
    obtain ⟨operation, -, rfl⟩ := Option.map_eq_some_iff.mp decoded
    rw [Word.operandLength_of_family digit (by decide)]
    rfl
  case h_14 digit =>
    cases decoded
    rw [Word.operandLength, if_pos digit]
    rfl
  case h_15 digit =>
    rw [Word.operandLength_of_family digit (by decide)]
    split at decoded
    case isTrue =>
      cases decoded
      rfl
    case isFalse =>
      obtain ⟨-, same⟩ := Option.ite_none_right_eq_some.mp decoded
      cases same
      rfl
  case h_16 =>
    have digit : word.family.val = 0xF := by
      have bound := word.family.isLt
      grind
    exact operandLength_of_decodeMiscellaneous digit decoded
  -- The remaining families keep all digits but the first as operands.
  all_goals
    cases decoded
    rw [Word.operandLength_of_family ‹_› (by decide)]
    rfl

end Instruction

namespace Machine

/-- The machine with another byte in one cell of its memory. -/
def poke (machine : Machine) (address : Address) (byte : UInt8) : Machine :=
  { machine with memory := machine.memory.write address.val [byte] }

variable {machine first second : Machine} {instruction : Instruction} {address : Address}
  {byte : UInt8}

theorem cell_poke : (machine.poke address byte).memory.cell address = byte := by
  show (machine.memory.write address.val [byte])[address.val] = byte
  rw [Memory.getElem_write, if_pos (Nat.le_refl _), Nat.sub_self]
  rfl

theorem cell_poke_of_ne {other : Address} (ne : other ≠ address) :
    (machine.poke address byte).memory.cell other = machine.memory.cell other := by
  apply Memory.cell_write_of_outside
  have apart : other.val ≠ address.val := fun same => ne (Fin.ext same)
  simp only [List.length_singleton]
  omega

theorem agreeExcept_poke (machine : Machine) (address : Address) (byte : UInt8) :
    AgreeExcept [.cell address] machine (machine.poke address byte) := by
  refine ⟨rfl, rfl, rfl, ?_⟩
  intro part seen
  cases part with
  | cell other =>
    have ne : other ≠ address := fun same => seen (List.mem_singleton.mpr (congrArg Part.cell same))
    exact (cell_poke_of_ne ne).symm
  | _ => rfl

/-- A machine that agrees with another but for one cell comes from it by writing that
cell. -/
theorem AgreeExcept.eq_poke (agree : AgreeExcept [.cell address] first second) :
    second = first.poke address (second.memory.cell address) := by
  refine (agree.symm.trans (first.agreeExcept_poke address _)).eq_of_parts ?_
  intro part here
  cases List.mem_singleton.mp here
  exact cell_poke.symm

/-! ## What a step writes -/

theorem cell_devicesAfter (unused : ¬ machine.Needs instruction (.cell address)) :
    (machine.devicesAfter instruction).memory.cell address = machine.memory.cell address := by
  cases instruction with
  | storeDecimal x =>
    apply Memory.cell_write_of_outside
    replace unused : ¬ (machine.index.toNat ≤ address.val ∧
      address.val < machine.index.toNat + (decimalDigits (machine.v x)).length) := unused
    omega
  | storeRegisters x =>
    apply Memory.cell_write_of_outside
    rw [length_take_registers]
    replace unused : ¬ (machine.index.toNat ≤ address.val ∧
      address.val < machine.index.toNat + (x.val + 1)) := unused
    omega
  | _ => rfl

/-- A step leaves alone every cell that its instruction does not need. -/
theorem cell_step (unused : ∀ instruction, machine.nextInstruction? = some instruction →
    ¬ machine.Needs instruction (.cell address)) :
    machine.step.memory.cell address = machine.memory.cell address := by
  refine machine.step_elim ?stopped ?outside ?refused ?executed
  case stopped => exact fun _ => rfl
  case outside => exact fun _ _ => rfl
  case refused => exact fun _ _ _ _ _ => rfl
  case executed =>
    intro live inside instruction decoded accepted
    have next := nextInstruction?_eq_some_iff.mpr ⟨⟨live, inside⟩, decoded⟩
    rw [memory_execute accepted]
    exact @cell_devicesAfter machine.fetched instruction address (unused instruction next)

/-! ## A step -/

/-- A byte outside the word at the program counter and outside the operand of that word may
be written before a step as well as after it, and is not changed by the step.  A word that
does not lie in memory has no operand.  Nothing is asked of the machine: it may have
stopped, stand anywhere, and be about to fail. -/
theorem step_poke (machine : Machine) {address : Address} {byte : UInt8}
    (unfetched : address.val ≠ machine.pc.toNat ∧ address.val ≠ machine.pc.toNat + 1)
    (unused : machine.pc.toNat + 2 ≤ 4096 → ¬ (machine.index.toNat ≤ address.val ∧
      address.val < machine.index.toNat + machine.wordAtPc.operandLength)) :
    (machine.poke address byte).step = machine.step.poke address byte ∧
      machine.step.memory.cell address = machine.memory.cell address := by
  have poked := machine.agreeExcept_poke address byte
  have fetched (other : Address)
      (here : other.val = machine.pc.toNat ∨ other.val = machine.pc.toNat + 1) :
      Part.cell other ∉ [Part.cell address] := by
    intro member
    cases List.mem_singleton.mp member
    exact here.elim unfetched.1 unfetched.2
  have unneeded (instruction : Instruction)
      (next : machine.nextInstruction? = some instruction) :
      ¬ machine.Needs instruction (.cell address) := by
    obtain ⟨⟨-, inside⟩, decoded⟩ := nextInstruction?_eq_some_iff.mp next
    show ¬ (_ ∧ address.val < machine.index.toNat + instruction.operandLength)
    rw [Instruction.operandLength_of_decode decoded]
    exact unused inside
  have stepped : AgreeExcept [.cell address] machine.step (machine.poke address byte).step := by
    refine poked.step fetched ?_
    intro instruction next part member
    cases List.mem_singleton.mp member
    exact unneeded instruction next
  have kept : (machine.poke address byte).step.memory.cell address = byte := by
    rw [cell_step, cell_poke]
    intro instruction next
    rw [poked.nextInstruction?_eq fetched] at next
    exact unneeded instruction next
  refine ⟨?_, cell_step unneeded⟩
  rw [stepped.eq_poke, kept]

/-- Three registers are stored twelve bytes before the end of the memory.  The last byte
lies within sixteen bytes of the first one, but not among the three. -/
theorem last_byte_survives_short_transfer :
    let machine : Machine :=
      { powerOn ⟨0, 0⟩ .standard with
        memory := Memory.zero.write 0x200 [0xF2, 0x55]
        index := 0xFF4 }
    let last : Address := ⟨0xFFF, by decide⟩
    (machine.poke last 7).step = machine.step.poke last 7 ∧
      machine.step.memory.cell last = machine.memory.cell last := by
  intro machine last
  have word : machine.wordAtPc = 0xF255 := Memory.zero.wordAt_write (by decide) 0xF2 0x55
  apply step_poke machine
  · exact ⟨show 0xFFF ≠ 0x200 by decide, show 0xFFF ≠ 0x200 + 1 by decide⟩
  · intro _
    rw [word]
    exact show ¬ (0xFF4 ≤ 0xFFF ∧ 0xFFF < 0xFF4 + Word.operandLength 0xF255) by decide

end Machine

end Chip8
