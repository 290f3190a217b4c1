/-
# Keypad

Sixteen keys, `0` to `F`, each of them pressed or released.
-/
import Chip8.Error

namespace Chip8

/-- Which keys are pressed. -/
abbrev Keypad := Vector Bool 16

namespace Keypad

/-- No key is pressed. -/
def released : Keypad := Vector.replicate 16 false

theorem toNat_lt_of_inRange {index : Int} (inRange : 0 ≤ index ∧ index < 16) :
    index.toNat < 16 := by
  omega

/-- The key of an index, if there is one. -/
def ofIndex (index : Int) : Except Error (Fin 16) :=
  if inRange : 0 ≤ index ∧ index < 16 then .ok ⟨index.toNat, toNat_lt_of_inRange inRange⟩
  else .error (.invalidKey index)

/-- The key that the low four bits of a byte name. -/
def ofByte (byte : UInt8) : Fin 16 := ⟨byte.toNat % 16, by omega⟩

/-- Press or release a key. -/
def set (keypad : Keypad) (key : Fin 16) (pressed : Bool) : Keypad :=
  keypad.setIfInBounds key.val pressed

/-- Whether a key is pressed. -/
def isPressed (keypad : Keypad) (key : Fin 16) : Bool := keypad.get key

/-- The lowest pressed key. -/
def lowest? (keypad : Keypad) : Option (Fin 16) :=
  (List.finRange 16).find? keypad.isPressed

/-- No key is found exactly when none is pressed. -/
theorem lowest?_eq_none_iff (keypad : Keypad) :
    keypad.lowest? = none ↔ ∀ key, keypad.isPressed key = false := by
  simp [lowest?, List.find?_eq_none]

end Keypad

end Chip8
