/-
# Widths of numbers

A host hands over whole numbers of any size, but each of them is kept in a fixed
number of bits.  A number that does not fit is refused before anything happens to
the machine.  Inside the machine nothing is refused: sixteen bits keep the low end of
a number.
-/
import Chip8.Error

namespace Chip8

/-- The widths in which numbers of a host are kept. -/
inductive Width where
  /-- Eight bits without a sign. -/
  | byte
  /-- Sixteen bits without a sign. -/
  | word
  /-- 32 bits with a sign. -/
  | signed32
  /-- 64 bits with a sign. -/
  | signed64
deriving DecidableEq, Repr

namespace Width

/-- The least number of a width. -/
def lowest : Width → Int
  | .byte => 0
  | .word => 0
  | .signed32 => -0x80000000
  | .signed64 => -0x8000000000000000

/-- The greatest number of a width. -/
def highest : Width → Int
  | .byte => 0xFF
  | .word => 0xFFFF
  | .signed32 => 0x7FFFFFFF
  | .signed64 => 0x7FFFFFFFFFFFFFFF

/-- Whether a number can be kept in a width. -/
def Holds (width : Width) (number : Int) : Prop :=
  width.lowest ≤ number ∧ number ≤ width.highest

instance (width : Width) (number : Int) : Decidable (width.Holds number) := by
  unfold Holds
  infer_instance

/-- Refuse a number that cannot be kept in a width. -/
def check (width : Width) (number : Int) : Except Error Unit :=
  if width.Holds number then .ok () else .error (.numberOutOfRange number)

/-- A number passes the check of a width exactly when the width holds it. -/
theorem check_eq_ok_iff (width : Width) (number : Int) :
    width.check number = .ok () ↔ width.Holds number := by
  unfold check
  by_cases held : width.Holds number
  · simp [held]
  · simp [held]

/-- A number that is not negative needs to fit at its upper end only. -/
theorem signed32_holds_of_nonneg {number : Int} (nonneg : 0 ≤ number)
    (fits : number ≤ 0x7FFFFFFF) : signed32.Holds number :=
  ⟨Int.le_trans (by decide) nonneg, fits⟩

/-- A byte is a 32-bit number. -/
theorem signed32_holds_byte (byte : UInt8) : signed32.Holds byte.toNat := by
  have bound := byte.toNat_lt
  exact signed32_holds_of_nonneg (Int.natCast_nonneg _) (by omega)

end Width

/-! ## Sixteen bits -/

/-- Sixteen bits keep a number modulo `2 ^ 16`. -/
theorem toNat_ofInt (number : Int) : ((UInt16.ofInt number).toNat : Int) = number % 0x10000 := by
  rw [UInt16.ofInt, UInt16.toNat_ofNat']
  omega

theorem ofInt_toNat (word : UInt16) : UInt16.ofInt word.toNat = word := by
  rw [← UInt16.toNat_inj]
  have kept := toNat_ofInt word.toNat
  have bound := UInt16.toNat_lt word
  omega

theorem ofInt_natCast (number : Nat) : UInt16.ofInt number = UInt16.ofNat number := by
  rw [← UInt16.toNat_inj, UInt16.toNat_ofNat']
  have kept := toNat_ofInt number
  omega

theorem toNat_add_two {address : UInt16} (small : address.toNat + 2 < 0x10000) :
    (address + 2).toNat = address.toNat + 2 := by
  rw [UInt16.toNat_add]
  exact Nat.mod_eq_of_lt small

end Chip8
