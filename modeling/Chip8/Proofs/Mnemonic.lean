/-
# Reading mnemonics

What is written of an instruction can be read back: its text is cut at blanks and commas
into a short name and operands, each operand shows by its first letters and its length
which kind it is, and the short name together with the kinds tells the instruction.  So no
two words have the same text, and the text of a single byte is not that of a word.

The reader is only there to be compared with what is written.  It takes texts that nothing
writes for something or other.
-/
import Chip8.Proofs.Encoding
import Chip8.Proofs.Text.Hex
import Chip8.Instruction.Mnemonic

namespace Chip8

open Text

/-! ## Operands -/

namespace Word

theorem n_ofNat (digit : Fin 16) : n (UInt16.ofNat digit.val) = digit := by
  apply Fin.ext
  show digit.val % 65536 % 16 = digit.val
  omega

theorem nn_ofNat (byte : UInt8) : nn (UInt16.ofNat byte.toNat) = byte := by
  have bound := byte.toNat_lt
  apply UInt8.toNat_inj.mp
  rw [toNat_nn, UInt16.toNat_ofNat']
  omega

theorem nnn_ofNat (address : Address) : nnn (UInt16.ofNat address.val) = address := by
  apply Fin.ext
  show address.val % 65536 % 4096 = address.val
  omega

end Word

namespace Operand

/-- The names of operands that instructions have. -/
def names : List String := ["I", "K", "DT", "ST", "F", "HF", "B", "[I]", "R"]

/-- Whether an operand is one that instructions have. -/
def IsPlain : Operand → Prop
  | .named name => name ∈ names
  | _ => True

/-- The operand of a number with a number of digits. -/
def ofNumber (width : Nat) (word : Word) : Operand :=
  match width with
  | 1 => .digit word.n
  | 2 => .byte word.nn
  | 3 => .address word.nnn
  | _ => .word word

/-- The operand that a text stands for. -/
def read : List Char → Operand
  | 'V' :: digits => .register (Word.n (UInt16.ofNat (Hex.value digits)))
  | '0' :: 'x' :: digits => ofNumber digits.length (UInt16.ofNat (Hex.value digits))
  | letters => .named (String.ofList letters)

theorem toList_register (width number : Nat) :
    ("V" ++ Hex.text width number).toList = 'V' :: Hex.chars width number := by
  rw [String.toList_append, Hex.text, String.toList_ofList, String.toList_ofList]
  rfl

theorem toList_number (width number : Nat) :
    ("0x" ++ Hex.text width number).toList = '0' :: 'x' :: Hex.chars width number := by
  rw [String.toList_append, Hex.text, String.toList_ofList, String.toList_ofList]
  rfl

theorem read_number {width number : Nat} {operand : Operand}
    (bound : number < Nat.pow 16 (width + 1))
    (kind : ofNumber (width + 1) (UInt16.ofNat number) = operand) :
    read ("0x" ++ Hex.text (width + 1) number).toList = operand := by
  rw [toList_number, read, Hex.length_chars bound, Hex.value_chars, kind]

/-- An operand is read back from its text. -/
theorem read_text {operand : Operand} (plain : operand.IsPlain) :
    read operand.text.toList = operand := by
  cases operand with
  | register x =>
    show read ("V" ++ Hex.text 1 (x.val : Nat)).toList = _
    rw [toList_register, read, Hex.value_chars, Word.n_ofNat]
  | digit value => exact read_number value.isLt (congrArg digit (Word.n_ofNat value))
  | byte value => exact read_number value.toNat_lt (congrArg byte (Word.nn_ofNat value))
  | address value => exact read_number value.isLt (congrArg address (Word.nnn_ofNat value))
  | word value => exact read_number value.toNat_lt (congrArg word UInt16.ofNat_toNat)
  | named name =>
    have known : ∀ name ∈ names, read name.toList = .named name := by decide
    exact known name plain

end Operand

/-! ## Instructions -/

namespace Instruction

/-- The operations on two registers. -/
def operations : List Arithmetic :=
  [.load, .or, .and, .xor, .add, .subtract, .shiftRight, .subtractFrom, .shiftLeft]

/-- The instruction that has a short name and operands. -/
def ofParts? (name : String) : List Operand → Option Instruction
  | [] =>
    [("CLS", clear), ("RET", ret), ("SCR", scrollRight), ("SCL", scrollLeft), ("EXIT", exit),
      ("LOW", low), ("HIGH", high)].lookup name
  | [.address target] =>
    [("SYS", sys target), ("JP", jump target), ("CALL", call target)].lookup name
  | [.digit rows] => some (scrollDown rows)
  | [.register x] => [("SKP", skipIfKey x), ("SKNP", skipUnlessKey x)].lookup name
  | [.register x, .byte value] =>
    [("SE", skipIfByte x value), ("SNE", skipUnlessByte x value), ("LD", loadByte x value),
      ("ADD", addByte x value), ("RND", random x value)].lookup name
  | [.register x, .register y] =>
    (("SE", skipIfEqual x y) :: ("SNE", skipUnlessEqual x y) ::
      operations.map fun operation => (operation.mnemonic, arithmetic operation x y)).lookup name
  | [.register _, .address base] => some (jumpOffset base)
  | [.named _, .address value] => some (loadIndex value)
  | [.named target, .register x] =>
    [("I", addIndex x), ("DT", setDelay x), ("ST", setSound x), ("F", smallDigit x),
      ("HF", largeDigit x), ("B", storeDecimal x), ("[I]", storeRegisters x),
      ("R", saveFlags x)].lookup target
  | [.register x, .named source] =>
    [("K", waitKey x), ("DT", readDelay x), ("[I]", loadRegisters x),
      ("R", restoreFlags x)].lookup source
  | [.register x, .register y, .digit rows] => some (draw x y rows)
  | _ => none

/-- An instruction is read back from its short name and its operands. -/
theorem ofParts?_parts (instruction : Instruction) :
    ofParts? instruction.parts.1 instruction.parts.2 = some instruction := by
  cases instruction with
  | arithmetic operation x y => cases operation <;> rfl
  | _ => rfl

/-- No short name has a blank in it. -/
theorem blank_not_mem_name (instruction : Instruction) : ' ' ∉ instruction.parts.1.toList := by
  cases instruction with
  | arithmetic operation x y => cases operation <;> simp [parts, Arithmetic.mnemonic]
  | _ => simp [parts]

theorem isPlain_parts (instruction : Instruction) :
    ∀ operand ∈ instruction.parts.2, operand.IsPlain := by
  cases instruction <;> simp [parts, Operand.IsPlain, Operand.names]

end Instruction

/-! ## Texts -/

namespace Operand

theorem separators_not_mem_text {operand : Operand} (plain : operand.IsPlain) :
    ' ' ∉ operand.text.toList ∧ ',' ∉ operand.text.toList := by
  have digits (width number : Nat) :
      ' ' ∉ Hex.chars width number ∧ ',' ∉ Hex.chars width number :=
    ⟨fun member => (Hex.not_separator_of_mem_chars member).1 rfl,
      fun member => (Hex.not_separator_of_mem_chars member).2 rfl⟩
  have marked (width number : Nat) : ' ' ∉ ("0x" ++ Hex.text width number).toList ∧
      ',' ∉ ("0x" ++ Hex.text width number).toList := by
    rw [toList_number]
    simpa using digits width number
  cases operand with
  | register x =>
    show ' ' ∉ ("V" ++ Hex.text 1 (x.val : Nat)).toList ∧ ',' ∉ ("V" ++ _).toList
    rw [toList_register]
    simpa using digits 1 x.val
  | digit value => exact marked 1 value.val
  | byte value => exact marked 2 value.toNat
  | address value => exact marked 3 value.val
  | word value => exact marked 4 value.toNat
  | named name =>
    have known : ∀ name ∈ names, ' ' ∉ name.toList ∧ ',' ∉ name.toList := by decide
    exact known name plain

end Operand

namespace Mnemonic

/-- Cut a text into a short name and operands: a blank ends the name, commas stand between
the operands, and further blanks do not count. -/
def cut (letters : List Char) : List Char × List (List Char) :=
  match letters.dropWhile (· != ' ') with
  | [] => (letters, [])
  | rest => (letters.takeWhile (· != ' '), List.splitOn ',' (rest.filter (· != ' ')))

theorem filter_intercalate {texts : List (List Char)} (closed : ∀ text ∈ texts, ' ' ∉ text) :
    (List.intercalate [',', ' '] texts).filter (· != ' ') = List.intercalate [','] texts := by
  have kept {text : List Char} (closed : ' ' ∉ text) : text.filter (· != ' ') = text := by
    rw [List.filter_eq_self]
    intro letter member
    exact bne_iff_ne.mpr fun blank => closed (blank ▸ member)
  induction texts with
  | nil => rfl
  | cons text texts ih =>
    obtain ⟨here, later⟩ := List.forall_mem_cons.mp closed
    cases texts with
    | nil => simpa using kept here
    | cons next texts =>
      rw [List.intercalate_cons_cons, List.intercalate_cons_cons, List.filter_append,
        List.filter_append, kept here, ih later]
      rfl

theorem toList_line_cons (name : String) (first : Operand) (others : List Operand) :
    (line name (first :: others)).toList =
      name.toList ++ ' ' ::
        List.intercalate [',', ' '] ((first :: others).map fun operand => operand.text.toList) := by
  show (name ++ " " ++ String.intercalate ", " ((first :: others).map Operand.text)).toList = _
  rw [String.toList_append, String.toList_append, String.toList_intercalate, List.map_map]
  exact List.append_assoc _ _ _

/-- A written line is cut into what it was made of. -/
theorem cut_line {name : String} {operands : List Operand} (closed : ' ' ∉ name.toList)
    (plain : ∀ operand ∈ operands, operand.IsPlain) :
    cut (line name operands).toList =
      (name.toList, operands.map fun operand => operand.text.toList) := by
  have stays : ∀ letter ∈ name.toList, (letter != ' ') = true := fun letter member =>
    bne_iff_ne.mpr fun blank => closed (blank ▸ member)
  cases operands with
  | nil =>
    have gone := @List.dropWhile_append_of_pos _ _ name.toList [] stays
    rw [List.append_nil, List.dropWhile_nil] at gone
    show cut name.toList = _
    rw [cut, gone]
    rfl
  | cons first others =>
    have separated : ∀ text ∈ (first :: others).map fun operand => operand.text.toList,
        ' ' ∉ text ∧ ',' ∉ text := by
      intro text member
      obtain ⟨operand, among, rfl⟩ := List.mem_map.mp member
      exact Operand.separators_not_mem_text (plain operand among)
    have nonempty : (first :: others).map (fun operand => operand.text.toList) ≠ [] :=
      List.cons_ne_nil _ _
    rw [toList_line_cons, cut, List.dropWhile_append_of_pos stays,
      List.takeWhile_append_of_pos stays]
    generalize (first :: others).map (fun operand => operand.text.toList) = texts at *
    show (name.toList ++ [], List.splitOn ','
      (List.filter (· != ' ') (List.intercalate [',', ' '] texts))) = _
    rw [List.append_nil, filter_intercalate fun text member => (separated text member).1,
      List.splitOn_intercalate ',' (fun text member => (separated text member).2) nonempty]

/-! ## Words and bytes -/

/-- The two bytes of a word, the high one first. -/
def bytesOfWord (word : Word) : List UInt8 := [UInt8.ofNat (word.toNat / 256), word.nn]

/-- The bytes that a short name and operands stand for. -/
def bytesOfParts? (name : String) : List Operand → Option (List UInt8)
  | [.byte byte] => some [byte]
  | [.word word] => some (bytesOfWord word)
  | operands => (Instruction.ofParts? name operands).map fun instruction =>
    bytesOfWord instruction.encode

/-- The bytes that a text stands for. -/
def bytesOfText? (text : String) : Option (List UInt8) :=
  let parts := cut text.toList
  bytesOfParts? (String.ofList parts.1) (parts.2.map Operand.read)

theorem bytesOfText?_line {name : String} {operands : List Operand} (closed : ' ' ∉ name.toList)
    (plain : ∀ operand ∈ operands, operand.IsPlain) :
    bytesOfText? (line name operands) = bytesOfParts? name operands := by
  have back : (operands.map fun operand => Operand.read operand.text.toList) = operands :=
    (List.map_congr_left fun operand member => Operand.read_text (plain operand member)).trans
      (List.map_id operands)
  rw [bytesOfText?, cut_line closed plain]
  dsimp only
  rw [String.ofList_toList, List.map_map]
  exact congrArg (bytesOfParts? name) back

theorem bytesOfParts?_parts (instruction : Instruction) :
    bytesOfParts? instruction.parts.1 instruction.parts.2 =
      some (bytesOfWord instruction.encode) := by
  have back :=
    congrArg (Option.map fun found => bytesOfWord found.encode) instruction.ofParts?_parts
  refine Eq.trans ?_ back
  cases instruction <;> rfl

/-- The text of a word stands for the two bytes of the word. -/
theorem bytesOfText?_ofWord (word : Word) :
    bytesOfText? (ofWord word) = some (bytesOfWord word) := by
  cases decoded : Instruction.decode word with
  | none =>
    have parts : partsOfWord word = ("DW", [.word word]) := by rw [partsOfWord, decoded]
    have closed : ' ' ∉ "DW".toList := by decide
    rw [ofWord, parts, bytesOfText?_line closed (by simp [Operand.IsPlain])]
    rfl
  | some instruction =>
    have parts : partsOfWord word = instruction.parts := by rw [partsOfWord, decoded]
    have same : instruction.encode = word := by
      rw [Instruction.encode, Instruction.number_of_decode decoded, UInt16.ofNat_toNat]
    rw [ofWord, parts, bytesOfText?_line instruction.blank_not_mem_name instruction.isPlain_parts,
      bytesOfParts?_parts, same]

/-- The text of a single byte stands for the byte. -/
theorem bytesOfText?_ofByte (byte : UInt8) : bytesOfText? (ofByte byte) = some [byte] := by
  rw [ofByte, bytesOfText?_line (by decide) (by simp [Operand.IsPlain])]
  rfl

end Mnemonic

end Chip8
