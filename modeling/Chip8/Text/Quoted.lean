/-
# Quoted text

A text inside a message stands between quotes.  Single quotes are used unless the
text holds a single quote and no double quote.  The chosen quote, the backslash
and characters that do not print are escaped; every other character stands for
itself.
-/
import Chip8.Text.Printable

namespace Chip8.Text.Quoted

/-- The quote put around a text: the double quote exactly when the text holds a
single quote and no double quote. -/
def quoteFor (text : List Char) : Char :=
  if text.contains '\'' && !text.contains '"' then '"' else '\''

/-- Exactly `width` lower-case hexadecimal digits of a number. -/
def hexDigits : Nat → Nat → List Char
  | 0, _ => []
  | width + 1, number =>
    hexDigits width (number / 16) ++ [Nat.digitChar (number % 16)]

/-- One character as it is written between the given quotes. -/
def escape (quote c : Char) : List Char :=
  if c == quote || c == '\\' then ['\\', c]
  else if c == '\n' then ['\\', 'n']
  else if c == '\t' then ['\\', 't']
  else if c == '\r' then ['\\', 'r']
  else if isPrintable c then [c]
  else if c.toNat < 0x100 then '\\' :: 'x' :: hexDigits 2 c.toNat
  else if c.toNat < 0x10000 then '\\' :: 'u' :: hexDigits 4 c.toNat
  else '\\' :: 'U' :: hexDigits 8 c.toNat

/-- The text between its quotes. -/
def quote (text : String) : String :=
  let mark := quoteFor text.toList
  String.ofList (mark :: text.toList.flatMap (escape mark) ++ [mark])

end Chip8.Text.Quoted
