/-
# Numbers that are executed

A host can have any 32-bit number executed, and only some of these are words.  What is to be
done is looked up in the list of all words, and the operands are taken from the low digits of
the number, which has nothing to do with the list.  As long as the number is at most one length
of the list below zero, both speak of the same word, so that the operands are those of the
instruction that was found.  Farther out the ends of the list are found whatever the digits
are, and neither of the two has operands: the last word is no instruction, and the first one
calls a routine of the host computer.

The main result is `numbers_wrap_once_into_words`.
-/
import Chip8.Listing
import Chip8.Machine.Access
import Chip8.Proofs.Patterns

namespace Chip8

variable {number : Int}

/-- Sixteen bits do not tell a number from the one that is `0x10000` higher. -/
theorem ofInt_add_words (number : Int) : UInt16.ofInt (number + 0x10000) = UInt16.ofInt number := by
  have kept := toNat_ofInt number
  have keptToo := toNat_ofInt (number + 0x10000)
  rw [← UInt16.toNat_inj]
  omega

/-! ## Places in the list of words -/

namespace Word

theorem toNat_atPlace (number : Int) :
    ((atPlace number).toNat : Int) =
      max 0 (min (if number < 0 then number + 0x10000 else number) 0xFFFF) := by
  have kept := toNat_ofInt (max 0 (min (if number < 0 then number + 0x10000 else number) 0xFFFF))
  rw [atPlace]
  omega

/-- Up to one length of the list below zero, the place is given by the low sixteen bits. -/
theorem atPlace_of_wrapped (low : -0x10000 ≤ number) (high : number ≤ 0xFFFF) :
    atPlace number = UInt16.ofInt number := by
  have place := toNat_atPlace number
  have kept := toNat_ofInt number
  rw [← UInt16.toNat_inj]
  omega

theorem atPlace_of_above (above : 0xFFFF < number) : atPlace number = 0xFFFF := by
  have place := toNat_atPlace number
  rw [← UInt16.toNat_inj]
  show (atPlace number).toNat = 0xFFFF
  omega

theorem atPlace_of_below (below : number < -0x10000) : atPlace number = 0 := by
  have place := toNat_atPlace number
  rw [← UInt16.toNat_inj]
  show (atPlace number).toNat = 0
  omega

end Word

/-! ## Execution -/

namespace Machine

variable {machine : Machine} {instruction : Instruction}

/-- The digits of the number are the operands of the instruction at its place, so that it is
this instruction that is executed. -/
theorem executeNumber_of_decode (low : -0x10000 ≤ number) (high : number ≤ 0xFFFF)
    (decoded : Instruction.decode (UInt16.ofInt number) = some instruction) :
    machine.executeNumber number = machine.execute instruction := by
  rw [executeNumber, Word.atPlace_of_wrapped low high, decoded]
  dsimp only
  rw [Instruction.instruction_fields_of_decode decoded]

theorem executeNumber_of_unassigned (low : -0x10000 ≤ number) (high : number ≤ 0xFFFF)
    (unassigned : Instruction.decode (UInt16.ofInt number) = none) :
    machine.executeNumber number = machine.halt .invalidOpcode number := by
  rw [executeNumber, Word.atPlace_of_wrapped low high, unassigned]

theorem executeNumber_of_above (above : 0xFFFF < number) :
    machine.executeNumber number = machine.halt .invalidOpcode number := by
  have unassigned : Instruction.decode 0xFFFF = none := by decide
  rw [executeNumber, Word.atPlace_of_above above, unassigned]

/-- The first word of the list calls a routine of the host computer, whichever it is. -/
theorem executeNumber_of_below (below : number < -0x10000) :
    machine.executeNumber number = machine := by
  have host : Instruction.decode 0 = some (.sys (Word.nnn 0)) := by decide
  rw [executeNumber, Word.atPlace_of_below below, host]
  rfl

/-- A number that is a word is executed as this word. -/
theorem executeNumber_of_word (low : 0 ≤ number) (high : number ≤ 0xFFFF) :
    machine.executeNumber number = machine.executeWord (UInt16.ofInt number) := by
  have wrapped : -0x10000 ≤ number := by omega
  rw [executeWord]
  cases decoded : Instruction.decode (UInt16.ofInt number) with
  | some instruction => exact executeNumber_of_decode wrapped high decoded
  | none =>
    have same : ((UInt16.ofInt number).toNat : Int) = number := by
      have kept := toNat_ofInt number
      omega
    rw [executeNumber_of_unassigned wrapped high decoded]
    dsimp only
    rw [same]

theorem executeChecked_of_holds (held : Width.signed32.Holds number) (machine : Machine) :
    machine.executeChecked number = .ok (machine.executeNumber number) := by
  rw [executeChecked, (Width.check_eq_ok_iff _ _).mpr held]
  rfl

/-- A 32-bit number that is a word is executed as the word.  One that is at most `0x10000` below
zero is executed as the word that is `0x10000` higher; only where that is no instruction does
the fault name the number itself.  A number above the words is no instruction, and one below
`-0x10000` does nothing.  To be read and not executed, a number must be a word. -/
theorem numbers_wrap_once_into_words :
    (∀ (machine : Machine) (number : Int), Width.signed32.Holds number →
      (0 ≤ number → number ≤ 0xFFFF →
        machine.executeChecked number = .ok (machine.executeWord (UInt16.ofInt number))) ∧
      (-0x10000 ≤ number → number < 0 →
        ∃ next wrapped, machine.executeChecked number = .ok next ∧
          machine.executeChecked (number + 0x10000) = .ok wrapped ∧
          (Instruction.decode (UInt16.ofInt (number + 0x10000)) ≠ none → next = wrapped) ∧
          (Instruction.decode (UInt16.ofInt (number + 0x10000)) = none →
            next = { wrapped with faultInfo := number })) ∧
      (0xFFFF < number →
        machine.executeChecked number =
          .ok { machine with
            mode := .halted, fault := Fault.invalidOpcode.code, faultInfo := number }) ∧
      (number < -0x10000 → machine.executeChecked number = .ok machine)) ∧
    ∀ number : Int,
      (0 ≤ number → number ≤ 0xFFFF →
        ∃ word, Listing.checkedWord number = .ok word ∧ (word.toNat : Int) = number) ∧
      (number < 0 ∨ 0xFFFF < number →
        Listing.checkedWord number = .error (.wordOutOfRange number)) := by
  refine ⟨fun machine number held => ⟨?word, ?negative, ?above, ?below⟩,
    fun number => ⟨?inside, ?outside⟩⟩
  case word =>
    intro low high
    rw [executeChecked_of_holds held, executeNumber_of_word low high]
  case negative =>
    intro low negative
    have heldToo : Width.signed32.Holds (number + 0x10000) :=
      Width.signed32_holds_of_nonneg (by omega) (by omega)
    refine ⟨_, _, executeChecked_of_holds held machine, executeChecked_of_holds heldToo machine,
      ?assigned, ?unassigned⟩
    case assigned =>
      intro assigned
      obtain ⟨instruction, decoded⟩ := Option.ne_none_iff_exists'.mp assigned
      rw [executeNumber_of_decode (by omega) (by omega) decoded]
      rw [ofInt_add_words] at decoded
      exact executeNumber_of_decode low (by omega) decoded
    case unassigned =>
      intro unassigned
      rw [executeNumber_of_unassigned (by omega) (by omega) unassigned]
      rw [ofInt_add_words] at unassigned
      exact executeNumber_of_unassigned low (by omega) unassigned
  case above =>
    intro above
    rw [executeChecked_of_holds held, executeNumber_of_above above]
    rfl
  case below =>
    intro below
    rw [executeChecked_of_holds held, executeNumber_of_below below]
  case inside =>
    intro low high
    refine ⟨_, if_pos ⟨low, high⟩, ?_⟩
    rw [UInt16.toNat_ofNat']
    omega
  case outside =>
    intro outside
    exact if_neg (by omega)

/-- The number of `6105` one length of the list down, numbers just beyond both ends of what is
read as a word, and a word of which the fault names the number. -/
theorem load_is_executed_below_zero :
    let machine := powerOn ⟨0, 0⟩ .standard
    (∃ next, machine.executeChecked (0x6105 - 0x10000) = .ok next ∧ next.v (Word.n 1) = 5) ∧
      (∃ next, machine.executeChecked (-1) = .ok next ∧ next.mode = .halted ∧
        next.faultInfo = -1) ∧
      machine.executeChecked (-0x10001) = .ok machine ∧
      (∃ next, machine.executeChecked 0x10000 = .ok next ∧ next.faultInfo = 0x10000) ∧
      Listing.checkedWord (-1) = .error (.wordOutOfRange (-1)) := by
  intro machine
  obtain ⟨executed, listed⟩ := numbers_wrap_once_into_words
  obtain ⟨loaded, wrapped, isLoaded, isWrapped, same, -⟩ :=
    (executed machine (0x6105 - 0x10000) (by decide)).2.1 (by decide) (by decide)
  obtain ⟨halted, last, isHalted, isLast, -, named⟩ :=
    (executed machine (-1) (by decide)).2.1 (by decide) (by decide)
  have word := (executed machine 0x6105 (by decide)).1 (by decide) (by decide)
  have lastWord := (executed machine 0xFFFF (by decide)).1 (by decide) (by decide)
  have unassigned : Instruction.decode 0xFFFF = none := by decide
  refine ⟨⟨loaded, isLoaded, ?_⟩, ⟨halted, isHalted, ?_, ?_⟩,
    (executed machine (-0x10001) (by decide)).2.2.2 (by decide),
    ⟨_, (executed machine 0x10000 (by decide)).2.2.1 (by decide), rfl⟩,
    (listed (-1)).2 (.inl (by decide))⟩
  · rw [same (by decide), ← Except.ok.inj (word.symm.trans isWrapped)]
    show (machine.write (Word.n 1) 5).v (Word.n 1) = 5
    rw [v_write, if_pos rfl]
  · rw [named (by decide), ← Except.ok.inj (lastWord.symm.trans isLast)]
    rfl
  · rw [named (by decide)]

end Machine

end Chip8
