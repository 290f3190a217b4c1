/-
# Listings

A listing shows a program word by word, each with its address.  A last byte that
is left alone is shown as data.
-/
import Chip8.ByteData
import Chip8.Instruction.Mnemonic

namespace Chip8

/-- One line of a listing. -/
structure ListingLine where
  address : Int
  text : String
deriving DecidableEq, Repr

namespace Listing

/-- The word of two bytes, the first of them the high one. -/
def wordOf (high low : UInt8) : Word := high.toUInt16 <<< 8 ||| low.toUInt16

/-- The listing of bytes that lie in memory from an address on. -/
def ofBytes (address : Int) : List UInt8 → List ListingLine
  | high :: low :: rest =>
    ⟨address, Mnemonic.ofWord (wordOf high low)⟩ :: ofBytes (address + wordBytes) rest
  | [last] => [⟨address, Mnemonic.ofByte last⟩]
  | [] => []

/-- The listing of a program that would be loaded at `origin`, without its first
`offset` bytes. -/
def ofProgram (program : ByteData) (origin offset : Int) : Except Error (List ListingLine) := do
  let bytes ← program.toBytes
  if offset < 0 then throw (.negativeOffset offset)
  return ofBytes (origin + offset) (bytes.drop offset.toNat)

/-- The word of a number, if it is one. -/
def checkedWord (number : Int) : Except Error Word :=
  if 0 ≤ number ∧ number ≤ 65535 then .ok (UInt16.ofNat number.toNat)
  else .error (.wordOutOfRange number)

/-- Two bytes make one line. -/
theorem length_ofBytes (address : Int) (bytes : List UInt8) :
    (ofBytes address bytes).length = (bytes.length + 1) / 2 := by
  fun_induction ofBytes address bytes with
  | case1 address high low rest ih =>
    simp only [List.length_cons, ih]
    omega
  | case2 => simp
  | case3 => simp

end Listing

end Chip8
