/-
# Patterns of words

The instruction set is listed by patterns such as `8XY4` or `00CN`: digits that are fixed, and
places for operands.  An operation is an instruction without its operands, and `pattern` is
the list.  One pattern covers words of others: a word that begins with `0` calls a routine of
the host computer unless another operation has it, which `Matches` takes into account.

The main result is `decode_follows_patterns`.  It compares the decoder, which goes by families
of words, with the list.
-/
import Chip8.Machine.Execute
import Chip8.Proofs.Encoding

namespace Chip8

/-! ## Patterns -/

/-- A part of a pattern: a fixed digit or a place for an operand. -/
inductive Item where
  | digit (value : Nat)
  | x
  | y
  | n
  | nn
  | nnn
deriving DecidableEq, Repr

namespace Item

/-- The number that stands for an item. -/
def value (fields : Fields) : Item → Nat
  | .digit value => value
  | .x => fields.x.val
  | .y => fields.y.val
  | .n => fields.n.val
  | .nn => fields.nn.toNat
  | .nnn => fields.nnn.val

/-- By what the digits before an item are multiplied to make room for it. -/
def scale : Item → Nat
  | .nn => 0x100
  | .nnn => 0x1000
  | _ => 0x10

end Item

namespace Operation

open Item in
/-- The pattern of an operation's words. -/
def pattern : Operation → List Item
  | .clear => [digit 0x0, digit 0x0, digit 0xE, digit 0x0]
  | .ret => [digit 0x0, digit 0x0, digit 0xE, digit 0xE]
  | .sys => [digit 0x0, nnn]
  | .scrollDown => [digit 0x0, digit 0x0, digit 0xC, n]
  | .scrollRight => [digit 0x0, digit 0x0, digit 0xF, digit 0xB]
  | .scrollLeft => [digit 0x0, digit 0x0, digit 0xF, digit 0xC]
  | .exit => [digit 0x0, digit 0x0, digit 0xF, digit 0xD]
  | .low => [digit 0x0, digit 0x0, digit 0xF, digit 0xE]
  | .high => [digit 0x0, digit 0x0, digit 0xF, digit 0xF]
  | .jump => [digit 0x1, nnn]
  | .call => [digit 0x2, nnn]
  | .skipIfByte => [digit 0x3, x, nn]
  | .skipUnlessByte => [digit 0x4, x, nn]
  | .skipIfEqual => [digit 0x5, x, y, digit 0x0]
  | .loadByte => [digit 0x6, x, nn]
  | .addByte => [digit 0x7, x, nn]
  | .arithmetic .load => [digit 0x8, x, y, digit 0x0]
  | .arithmetic .or => [digit 0x8, x, y, digit 0x1]
  | .arithmetic .and => [digit 0x8, x, y, digit 0x2]
  | .arithmetic .xor => [digit 0x8, x, y, digit 0x3]
  | .arithmetic .add => [digit 0x8, x, y, digit 0x4]
  | .arithmetic .subtract => [digit 0x8, x, y, digit 0x5]
  | .arithmetic .shiftRight => [digit 0x8, x, y, digit 0x6]
  | .arithmetic .subtractFrom => [digit 0x8, x, y, digit 0x7]
  | .arithmetic .shiftLeft => [digit 0x8, x, y, digit 0xE]
  | .skipUnlessEqual => [digit 0x9, x, y, digit 0x0]
  | .loadIndex => [digit 0xA, nnn]
  | .jumpOffset => [digit 0xB, nnn]
  | .random => [digit 0xC, x, nn]
  | .draw => [digit 0xD, x, y, n]
  | .skipIfKey => [digit 0xE, x, digit 0x9, digit 0xE]
  | .skipUnlessKey => [digit 0xE, x, digit 0xA, digit 0x1]
  | .readDelay => [digit 0xF, x, digit 0x0, digit 0x7]
  | .waitKey => [digit 0xF, x, digit 0x0, digit 0xA]
  | .setDelay => [digit 0xF, x, digit 0x1, digit 0x5]
  | .setSound => [digit 0xF, x, digit 0x1, digit 0x8]
  | .addIndex => [digit 0xF, x, digit 0x1, digit 0xE]
  | .smallDigit => [digit 0xF, x, digit 0x2, digit 0x9]
  | .largeDigit => [digit 0xF, x, digit 0x3, digit 0x0]
  | .storeDecimal => [digit 0xF, x, digit 0x3, digit 0x3]
  | .storeRegisters => [digit 0xF, x, digit 0x5, digit 0x5]
  | .loadRegisters => [digit 0xF, x, digit 0x6, digit 0x5]
  | .saveFlags => [digit 0xF, x, digit 0x7, digit 0x5]
  | .restoreFlags => [digit 0xF, x, digit 0x8, digit 0x5]

/-- The number that the pattern of an operation shows once it is filled with operands. -/
def number (operation : Operation) (fields : Fields) : Nat :=
  operation.pattern.foldl (fun number item => number * item.scale + item.value fields) 0

/-- The word that the pattern of an operation shows once it is filled with operands. -/
def word (operation : Operation) (fields : Fields) : Word :=
  UInt16.ofNat (operation.number fields)

/-- Whether a word is the pattern of an operation, filled with some operands. -/
def Covers (operation : Operation) (word : Word) : Prop :=
  ∃ fields, operation.number fields = word.toNat

/-- Whether a word belongs to an operation by the list of patterns: its pattern covers the
word, and a word that calls a routine of the host has no other pattern. -/
def Matches (operation : Operation) (word : Word) : Prop :=
  operation.Covers word ∧
    (operation = .sys → ∀ other : Operation, other.Covers word → other = .sys)

end Operation

namespace Operation

variable {operation : Operation} {fields : Fields} {word : Word}

@[simp]
theorem operation_instruction (operation : Operation) (fields : Fields) :
    (operation.instruction fields).operation = operation := by
  cases operation <;> rfl

/-- Filling the pattern of an operation gives the word of the instruction. -/
theorem number_instruction (operation : Operation) (fields : Fields) :
    (operation.instruction fields).number = operation.number fields := by
  cases operation with
  | arithmetic operation =>
    cases operation <;>
      simp [instruction, number, pattern, Item.value, Item.scale, Instruction.number,
        Instruction.withRegisters, Arithmetic.code] <;> omega
  | _ =>
    simp [instruction, number, pattern, Item.value, Item.scale, Instruction.number,
      Instruction.withRegisters, Instruction.withByte, Instruction.withAddress] <;> omega

theorem number_lt (operation : Operation) (fields : Fields) :
    operation.number fields < 0x10000 := by
  have x := fields.x.isLt
  have y := fields.y.isLt
  have n := fields.n.isLt
  have nn := fields.nn.toNat_lt
  have nnn := fields.nnn.isLt
  cases operation with
  | arithmetic operation =>
    cases operation <;> simp [number, pattern, Item.value, Item.scale] <;> omega
  | _ => simp [number, pattern, Item.value, Item.scale] <;> omega

theorem toNat_word (operation : Operation) (fields : Fields) :
    (operation.word fields).toNat = operation.number fields := by
  rw [word, UInt16.toNat_ofNat', Nat.mod_eq_of_lt (operation.number_lt fields)]

end Operation

namespace Instruction

variable {instruction : Instruction} {word : Word}

theorem instruction_fields_decodeSystem (word : Word) :
    (decodeSystem word.nnn).operation.instruction word.fields = decodeSystem word.nnn := by
  rw [decodeSystem.eq_def]
  split
  case h_8 =>
    split
    · refine congrArg Instruction.scrollDown (Fin.ext ?_)
      show word.toNat % 16 = word.toNat % 4096 % 16
      omega
    · rfl
  all_goals rfl

theorem instruction_fields_of_decodeMiscellaneous {byte : Nat}
    (decoded : decodeMiscellaneous word.x byte = some instruction) :
    instruction.operation.instruction word.fields = instruction := by
  rw [decodeMiscellaneous.eq_def] at decoded
  split at decoded <;> cases decoded <;> rfl

/-- An instruction has the digits of its word as operands. -/
theorem instruction_fields_of_decode (decoded : decode word = some instruction) :
    instruction.operation.instruction word.fields = instruction := by
  rw [decode.eq_def] at decoded
  split at decoded
  case h_1 =>
    cases decoded
    exact instruction_fields_decodeSystem word
  case h_6 | h_10 =>
    obtain ⟨-, same⟩ := Option.ite_none_right_eq_some.mp decoded
    cases same
    rfl
  case h_9 =>
    obtain ⟨operation, -, rfl⟩ := Option.map_eq_some_iff.mp decoded
    rfl
  case h_15 =>
    split at decoded
    case isTrue =>
      cases decoded
      rfl
    case isFalse =>
      obtain ⟨-, same⟩ := Option.ite_none_right_eq_some.mp decoded
      cases same
      rfl
  case h_16 => exact instruction_fields_of_decodeMiscellaneous decoded
  all_goals
    cases decoded
    rfl

theorem covers_of_decode (decoded : decode word = some instruction) :
    instruction.operation.Covers word := by
  refine ⟨word.fields, ?_⟩
  rw [← Operation.number_instruction, instruction_fields_of_decode decoded,
    number_of_decode decoded]

end Instruction

namespace Operation

open Instruction

variable {operation : Operation} {fields : Fields} {word : Word}

theorem isCanonical_instruction (other : operation ≠ .sys) (fields : Fields) :
    (operation.instruction fields).IsCanonical := by
  cases operation with
  | sys => exact absurd rfl other
  | _ => trivial

/-- What a pattern covers stands for its operation, but for calls of host routines. -/
theorem decode_of_covers (covered : operation.Covers word) (other : operation ≠ .sys) :
    decode word = some (operation.instruction word.fields) := by
  obtain ⟨fields, same⟩ := covered
  rw [← number_instruction] at same
  have decoded := decode_of_number same (isCanonical_instruction other fields)
  have operands := instruction_fields_of_decode decoded
  rw [operation_instruction] at operands
  rw [decoded, operands]

theorem decode_of_covers_sys (covered : sys.Covers word) :
    decode word = some (decodeSystem word.nnn) := by
  obtain ⟨fields, same⟩ := covered
  rw [← number_instruction] at same
  rw [decode.eq_def, (digits_of_withAddress same).1]
  rfl

/-- A word belongs to an operation just when it is read as the instruction that the operation
is with the digits of the word as operands. -/
theorem matches_iff :
    operation.Matches word ↔ decode word = some (operation.instruction word.fields) := by
  constructor
  · rintro ⟨covered, alone⟩
    by_cases host : operation = .sys
    · subst host
      have decoded := decode_of_covers_sys covered
      have same := instruction_fields_of_decode decoded
      rw [alone rfl _ (covers_of_decode decoded)] at same
      rw [decoded, same]
    · exact decode_of_covers covered host
  · intro decoded
    refine ⟨?_, ?_⟩
    · simpa using covers_of_decode decoded
    · rintro rfl other covered
      by_cases host : other = .sys
      · exact host
      · rw [decode_of_covers covered host, Option.some.injEq] at decoded
        simpa using congrArg Instruction.operation decoded

/-- A word belongs to one operation at most. -/
theorem Matches.unique {first second : Operation} (matched : first.Matches word)
    (matchedToo : second.Matches word) : first = second := by
  have same := (matches_iff.mp matched).symm.trans (matches_iff.mp matchedToo)
  simpa using congrArg Instruction.operation (Option.some.inj same)

theorem Matches.number_fields (matched : operation.Matches word) :
    operation.number word.fields = word.toNat := by
  rw [← number_instruction, number_of_decode (matches_iff.mp matched)]

/-- A word that stands for an instruction belongs to its operation. -/
theorem matches_of_decode {instruction : Instruction} (decoded : decode word = some instruction) :
    instruction.operation.Matches word := by
  rw [matches_iff, instruction_fields_of_decode decoded, decoded]

/-- A word that belongs to an operation is executed as it, with the digits of the word as
operands. -/
theorem Matches.executeWord_eq (matched : operation.Matches word) (machine : Machine) :
    machine.executeWord word = machine.execute (operation.instruction word.fields) := by
  rw [Machine.executeWord, matches_iff.mp matched]

/-- The addresses of the family zero that have a meaning of their own. -/
def named : List Nat := [0x0E0, 0x0EE, 0x0FB, 0x0FC, 0x0FD, 0x0FE, 0x0FF]

theorem isCanonical_sys {target : Address} (unnamed : target.val ∉ named)
    (unscrolled : target.val / 16 ≠ 0x0C) : (Instruction.sys target).IsCanonical := by
  show decodeSystem target = .sys target
  rw [decodeSystem.eq_def]
  split
  case h_8 => rw [if_neg unscrolled]
  all_goals simp_all [named]

/-- The decoder follows the list of patterns.  A word belongs to one operation at most; if it
belongs to one, it is read as this operation with the digits of the word as operands, which
fill the pattern to the word again, and if it belongs to none, it is no instruction.
Conversely a pattern that is filled with any operands shows a word that is read as the
operation with these operands; only an address that has a meaning of its own cannot be that
of a host routine. -/
theorem decode_follows_patterns :
    (∀ word : Word,
      (∀ first second : Operation, first.Matches word → second.Matches word → first = second) ∧
      (∀ operation : Operation, operation.Matches word →
        decode word = some (operation.instruction word.fields) ∧
        operation.number word.fields = word.toNat) ∧
      ((∀ operation : Operation, ¬ operation.Matches word) → decode word = none)) ∧
    ∀ (operation : Operation) (fields : Fields),
      (operation = .sys → fields.nnn.val ∉ named ∧ fields.nnn.val / 16 ≠ 0x0C) →
      (operation.word fields).toNat = operation.number fields ∧
      decode (operation.word fields) = some (operation.instruction fields) := by
  refine ⟨fun word => ⟨?unique, ?read, ?unread⟩, ?filled⟩
  case unique => exact fun first second matched matchedToo => matched.unique matchedToo
  case read => exact fun operation matched => ⟨matches_iff.mp matched, matched.number_fields⟩
  case unread =>
    intro unmatched
    rw [Option.eq_none_iff_forall_ne_some]
    exact fun instruction decoded => unmatched _ (matches_of_decode decoded)
  case filled =>
    intro operation fields free
    have shown := operation.toNat_word fields
    refine ⟨shown, decode_of_number ?_ ?_⟩
    · rw [number_instruction, shown]
    · by_cases host : operation = .sys
      · subst host
        exact isCanonical_sys (free rfl).1 (free rfl).2
      · exact isCanonical_instruction host fields

/-- The last word that scrolls down is covered by the pattern of the host routines too; the
next one calls a host routine.  The family `8` has gaps. -/
theorem word_behind_scrolls_calls_host :
    decode 0x00CF = some (.scrollDown (Word.n 0x00CF)) ∧ ¬ sys.Matches 0x00CF ∧
      decode (sys.word (Word.fields 0x70D0)) = some (.sys (Word.nnn 0x70D0)) ∧
      decode 0x8AF8 = none := by
  obtain ⟨words, filled⟩ := decode_follows_patterns
  have scrolls : scrollDown.Matches 0x00CF := ⟨⟨Word.fields 0x00CF, rfl⟩, nofun⟩
  have gap : ∀ operation : Operation, ¬ operation.Matches 0x8AF8 := by
    intro operation matched
    cases matches_iff.mp matched
  refine ⟨((words 0x00CF).2.1 _ scrolls).1, ?_, ?_, (words 0x8AF8).2.2 gap⟩
  · intro host
    cases (words 0x00CF).1 _ _ scrolls host
  · exact (filled sys (Word.fields 0x70D0) fun _ => ⟨by decide, by decide⟩).2

end Operation

end Chip8
