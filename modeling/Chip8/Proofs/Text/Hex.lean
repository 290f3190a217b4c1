/-
# Reading hexadecimal text

The digits of a number stand for the number again, also when they are filled up with zeros,
so a number is determined by its text, whatever the width.  A text is as wide as was asked
for when the number has no more digits.
-/
import Chip8.Text.Hex

namespace Chip8.Text.Hex

/-- The value of an upper-case digit. -/
def digitValue (digit : Char) : Nat :=
  if digit.toNat < 58 then digit.toNat - 48 else digit.toNat - 55

/-- The number that digits stand for, the most significant one first. -/
def value (text : List Char) : Nat :=
  text.foldl (fun number digit => number * 16 + digitValue digit) 0

theorem digitValue_digit : ∀ number < 16, digitValue (digit number) = number := by decide

theorem value_append_singleton (text : List Char) (last : Char) :
    value (text ++ [last]) = value text * 16 + digitValue last := by
  rw [value, List.foldl_append]
  rfl

theorem value_digits (number : Nat) : value (digits number) = number := by
  fun_induction digits number with
  | case1 number small => exact (Nat.zero_add _).trans (digitValue_digit number small)
  | case2 number large ih =>
    rw [value_append_singleton, ih, digitValue_digit _ (Nat.mod_lt _ (by decide))]
    omega

/-- Leading zeros do not count. -/
theorem value_fill (width : Nat) (text : List Char) : value (fill width text) = value text := by
  have zeros (count : Nat) : value (List.replicate count '0') = 0 := by
    induction count with
    | zero => rfl
    | succ count ih =>
      rw [List.replicate_succ', value_append_singleton, ih]
      rfl
  rw [fill, value, List.foldl_append]
  exact congrArg (text.foldl _) (zeros _)

/-- A number is read back from its text. -/
theorem value_chars (width number : Nat) : value (chars width number) = number :=
  (value_fill width _).trans (value_digits number)

/-- A number is determined by its text. -/
theorem text_inj {width first second : Nat} :
    text width first = text width second ↔ first = second := by
  constructor
  · intro same
    have values := congrArg value (String.ofList_injective same)
    rwa [value_chars, value_chars] at values
  · rintro rfl
    rfl

/-- A number that has at most as many digits as the width fills it exactly. -/
theorem length_chars {width number : Nat} (bound : number < Nat.pow 16 (width + 1)) :
    (chars (width + 1) number).length = width + 1 := by
  have few := length_digits_le width number bound
  show (fill (width + 1) (digits number)).length = width + 1
  rw [length_fill]
  omega

theorem exists_digit_of_mem_digits {number : Nat} {letter : Char}
    (member : letter ∈ digits number) : ∃ value < 16, letter = digit value := by
  fun_induction digits number with
  | case1 number small => exact ⟨number, small, List.mem_singleton.mp member⟩
  | case2 number large ih =>
    rcases List.mem_append.mp member with front | last
    · exact ih front
    · exact ⟨_, Nat.mod_lt _ (by decide), List.mem_singleton.mp last⟩

/-- The text of a number consists of digits. -/
theorem exists_digit_of_mem_chars {width number : Nat} {letter : Char}
    (member : letter ∈ chars width number) : ∃ value < 16, letter = digit value := by
  rcases List.mem_append.mp member with zero | front
  · exact ⟨0, by decide, List.eq_of_mem_replicate zero⟩
  · exact exists_digit_of_mem_digits front

/-- No blank and no comma stands in the text of a number. -/
theorem not_separator_of_mem_chars {width number : Nat} {letter : Char}
    (member : letter ∈ chars width number) : letter ≠ ' ' ∧ letter ≠ ',' := by
  obtain ⟨value, small, rfl⟩ := exists_digit_of_mem_chars member
  have plain : ∀ value < 16, digit value ≠ ' ' ∧ digit value ≠ ',' := by decide
  exact plain value small

theorem blank_not_mem_text (width number : Nat) : ' ' ∉ (text width number).toList := by
  rw [text, String.toList_ofList]
  exact fun member => (not_separator_of_mem_chars member).1 rfl

end Chip8.Text.Hex
