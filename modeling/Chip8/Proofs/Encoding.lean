/-
# Words of instructions

A word that stands for an instruction is the word of this instruction: `decode` looks at
every digit that an instruction fixes, and keeps every other digit as an operand.  Conversely
the word of an instruction is read as this instruction.  Calls of host routines are the one
exception, because some of their words have another meaning.

The main results are `number_of_decode` and `decode_of_number`.
-/
import Chip8.Instruction.Encoding

namespace Chip8

theorem Word.toNat_nn (word : Word) : word.nn.toNat = word.toNat % 256 :=
  Nat.mod_mod word.toNat 256

theorem Arithmetic.code_of_ofCode? {digit : Nat} {operation : Arithmetic}
    (found : ofCode? digit = some operation) : operation.code = digit := by
  rw [ofCode?.eq_def] at found
  split at found <;> cases found <;> rfl

theorem Arithmetic.code_lt (operation : Arithmetic) : operation.code < 16 := by
  cases operation <;> decide

namespace Instruction

variable {word : Word} {family : Nat} {instruction : Instruction}

theorem withAddress_nnn (digit : word.family.val = family) :
    withAddress family word.nnn = word.toNat := by
  rw [← digit]
  show word.toNat / 4096 * 4096 + word.toNat % 4096 = word.toNat
  omega

theorem withByte_nn (digit : word.family.val = family) :
    withByte family word.x word.nn.toNat = word.toNat := by
  rw [← digit, word.toNat_nn]
  show word.toNat / 4096 * 4096 + word.toNat / 256 % 16 * 256 + word.toNat % 256 = word.toNat
  omega

theorem withRegisters_n (digit : word.family.val = family) :
    withRegisters family word.x word.y word.n.val = word.toNat := by
  rw [← digit]
  show word.toNat / 4096 * 4096 + word.toNat / 256 % 16 * 256 + word.toNat / 16 % 16 * 16 +
    word.toNat % 16 = word.toNat
  omega

theorem number_decodeSystem (operand : Address) :
    (decodeSystem operand).number = withAddress 0x0 operand := by
  have bare : withAddress 0x0 operand = operand.val := by
    rw [withAddress, Nat.zero_mul, Nat.zero_add]
  rw [bare, decodeSystem.eq_def]
  split
  case h_8 =>
    split
    · show 0x00C0 + operand.val % 16 = operand.val
      omega
    · exact bare
  all_goals exact Eq.symm ‹_›

theorem number_of_decodeMiscellaneous {x : Register} {byte : Nat} {instruction : Instruction}
    (decoded : decodeMiscellaneous x byte = some instruction) :
    instruction.number = withByte 0xF x byte := by
  rw [decodeMiscellaneous.eq_def] at decoded
  split at decoded <;> cases decoded <;> rfl

/-- A word that stands for an instruction is the word of this instruction. -/
theorem number_of_decode (decoded : decode word = some instruction) :
    instruction.number = word.toNat := by
  rw [decode.eq_def] at decoded
  split at decoded
  -- One case for each family of words.  These keep all digits but the first as operands.
  case h_2 digit | h_3 digit | h_11 digit | h_12 digit =>
    cases decoded
    exact withAddress_nnn digit
  case h_4 digit | h_5 digit | h_7 digit | h_8 digit | h_13 digit =>
    cases decoded
    exact withByte_nn digit
  case h_14 digit =>
    cases decoded
    exact withRegisters_n digit
  -- In the others the lowest digits belong to the instruction.
  case h_1 digit =>
    cases decoded
    rw [number_decodeSystem, withAddress_nnn digit]
  case h_6 digit | h_10 digit =>
    obtain ⟨last, same⟩ := Option.ite_none_right_eq_some.mp decoded
    cases same
    rw [number, ← last, withRegisters_n digit]
  case h_9 digit =>
    obtain ⟨operation, found, rfl⟩ := Option.map_eq_some_iff.mp decoded
    rw [number, Arithmetic.code_of_ofCode? found, withRegisters_n digit]
  case h_15 digit =>
    split at decoded
    case isTrue low =>
      cases decoded
      rw [← withByte_nn digit, low]
      rfl
    case isFalse =>
      obtain ⟨low, same⟩ := Option.ite_none_right_eq_some.mp decoded
      cases same
      rw [← withByte_nn digit, low]
      rfl
  case h_16 =>
    have digit : word.family.val = 0xF := by
      have bound := word.family.isLt
      grind
    rw [number_of_decodeMiscellaneous decoded, withByte_nn digit]

/-! ## Digits of words that are known in parts -/

theorem family_of_withAddress {operand : Address}
    (same : withAddress family operand = word.toNat) : word.family.val = family := by
  have bound := operand.isLt
  rw [withAddress] at same
  show word.toNat / 4096 = family
  omega

theorem digits_of_withRegisters {x y : Register} {last : Fin 16}
    (same : withRegisters family x y last.val = word.toNat) :
    word.family.val = family ∧ word.n = last := by
  have low := last.isLt
  have digit := x.isLt
  have digit := y.isLt
  rw [withRegisters] at same
  constructor
  · show word.toNat / 4096 = family
    omega
  · apply Fin.ext
    show word.toNat % 16 = last.val
    omega

/-- The digits of a word that ends with a given byte. -/
theorem digits_of_withByte {x : Register} {byte : UInt8}
    (same : withByte family x byte.toNat = word.toNat) :
    word.family.val = family ∧ word.x = x ∧ word.nn = byte := by
  have low := byte.toNat_lt
  have digit := x.isLt
  rw [withByte] at same
  refine ⟨?_, ?_, ?_⟩
  · show word.toNat / 4096 = family
    omega
  · apply Fin.ext
    show word.toNat / 256 % 16 = x.val
    omega
  · rw [← UInt8.toNat_inj, word.toNat_nn]
    omega

/-- The digits of a word that ends with a given address. -/
theorem digits_of_withAddress {operand : Address}
    (same : withAddress family operand = word.toNat) :
    word.family.val = family ∧ word.nnn = operand := by
  refine ⟨family_of_withAddress same, Fin.ext ?_⟩
  have bound := operand.isLt
  rw [withAddress] at same
  show word.toNat % 4096 = operand.val
  omega

theorem registers_of_withRegisters {x y : Register} {last : Fin 16}
    (same : withRegisters family x y last.val = word.toNat) : word.x = x ∧ word.y = y := by
  have low := last.isLt
  have first := x.isLt
  have second := y.isLt
  rw [withRegisters] at same
  refine ⟨Fin.ext ?_, Fin.ext ?_⟩
  · show word.toNat / 256 % 16 = x.val
    omega
  · show word.toNat / 16 % 16 = y.val
    omega

/-! ## Reading back -/

theorem decode_of_withByte {x : Register} {byte : Nat} (bound : byte < 256)
    (same : withByte 0xF x byte = word.toNat) : decode word = decodeMiscellaneous x byte := by
  have low : (UInt8.ofNat byte).toNat = byte := UInt8.toNat_ofNat_of_lt' bound
  rw [← low] at same
  obtain ⟨digit, rfl, last⟩ := digits_of_withByte same
  rw [decode_miscellaneous digit, last, low]

theorem decode_encode_scrollDown :
    ∀ rows, decode (encode (.scrollDown rows)) = some (.scrollDown rows) := by
  decide

/-- The word of an instruction is read as this instruction, unless the word has another
meaning. -/
theorem decode_of_number (same : instruction.number = word.toNat)
    (canonical : instruction.IsCanonical) : decode word = some instruction := by
  have encoded : word = instruction.encode := by rw [encode, same, UInt16.ofNat_toNat]
  cases instruction with
  | sys target =>
    obtain ⟨digit, operand⟩ := digits_of_withAddress same
    rw [decode.eq_def, digit, operand]
    exact congrArg some canonical
  | scrollDown rows =>
    rw [encoded]
    exact decode_encode_scrollDown rows
  | clear | ret | scrollRight | scrollLeft | exit | low | high =>
    rw [encoded]
    rfl
  | jump target | call target | loadIndex target | jumpOffset target =>
    obtain ⟨digit, rfl⟩ := digits_of_withAddress same
    rw [decode.eq_def, digit]
    rfl
  | skipIfByte x byte | skipUnlessByte x byte | loadByte x byte | addByte x byte
    | random x byte =>
    obtain ⟨digit, rfl, rfl⟩ := digits_of_withByte same
    rw [decode.eq_def, digit]
    rfl
  | skipIfEqual x y | skipUnlessEqual x y =>
    obtain ⟨digit, last⟩ := @digits_of_withRegisters _ _ x y ⟨0, by decide⟩ same
    obtain ⟨rfl, rfl⟩ := @registers_of_withRegisters _ _ x y ⟨0, by decide⟩ same
    rw [decode.eq_def, digit, last]
    rfl
  | arithmetic operation x y =>
    obtain ⟨digit, last⟩ := @digits_of_withRegisters _ _ x y ⟨_, operation.code_lt⟩ same
    obtain ⟨rfl, rfl⟩ := @registers_of_withRegisters _ _ x y ⟨_, operation.code_lt⟩ same
    rw [decode.eq_def, digit, last]
    exact congrArg (Option.map _) operation.ofCode?_code
  | draw x y rows =>
    obtain ⟨digit, rfl⟩ := digits_of_withRegisters same
    obtain ⟨rfl, rfl⟩ := registers_of_withRegisters same
    exact decode_draw digit
  | skipIfKey x =>
    obtain ⟨digit, rfl, low⟩ := @digits_of_withByte _ _ x 0x9E same
    rw [decode.eq_def, digit, low]
    rfl
  | skipUnlessKey x =>
    obtain ⟨digit, rfl, low⟩ := @digits_of_withByte _ _ x 0xA1 same
    rw [decode.eq_def, digit, low]
    rfl
  | _ => exact decode_of_withByte (by decide) same

end Instruction

end Chip8
