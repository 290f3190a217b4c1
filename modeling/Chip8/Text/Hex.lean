/-
# Hexadecimal text

Addresses, words and bytes are written in base sixteen with a least width.  A
number that is shorter than the width is filled up with zeros, a longer one is
written in full, and the sign of a negative number takes one place of the width.
-/

namespace Chip8.Text.Hex

/-- The upper-case digit of a value below sixteen. -/
def digit (value : Nat) : Char :=
  if value < 10 then Char.ofNat (48 + value) else Char.ofNat (55 + value)

/-- The digits of a number, the most significant one first, without leading
zeros; zero itself has the one digit `0`. -/
def digits (number : Nat) : List Char :=
  if number < 16 then [digit number]
  else digits (number / 16) ++ [digit (number % 16)]

/-- Fill digits up with zeros on the left until there are `width` of them. -/
def fill (width : Nat) (text : List Char) : List Char :=
  List.replicate (width - text.length) '0' ++ text

/-- A whole number with at least `width` characters, the sign among them. -/
def chars (width : Nat) : Int → List Char
  | .ofNat number => fill width (digits number)
  | .negSucc below => '-' :: fill (width - 1) (digits (below + 1))

/-- The upper-case text of a whole number with at least `width` characters. -/
def text (width : Nat) (number : Int) : String :=
  String.ofList (chars width number)

/-- The lower-case text of a whole number after the mark `0x`; a minus sign
stands before the mark. -/
def marked : Int → String
  | .ofNat number => "0x" ++ String.ofList ((digits number).map Char.toLower)
  | .negSucc below => "-0x" ++ String.ofList ((digits (below + 1)).map Char.toLower)

/-- Filling up never shortens a text and reaches the width. -/
theorem length_fill (width : Nat) (text : List Char) :
    (fill width text).length = max width text.length := by
  simp only [fill, List.length_append, List.length_replicate]
  omega

/-- A number below `16 ^ (k + 1)` has at most `k + 1` digits. -/
theorem length_digits_le (k : Nat) :
    ∀ number : Nat, number < Nat.pow 16 (k + 1) → (digits number).length ≤ k + 1 := by
  induction k with
  | zero =>
    intro number bound
    rw [digits, if_pos (by simpa using bound)]
    simp
  | succ k ih =>
    intro number bound
    rw [digits]
    split
    · simp
    · rw [List.length_append, List.length_singleton]
      have grown : Nat.pow 16 (k + 1 + 1) = Nat.pow 16 (k + 1) * 16 := rfl
      have step := ih (number / 16) (by
        rw [grown] at bound
        exact Nat.div_lt_of_lt_mul (by omega))
      omega

end Chip8.Text.Hex
