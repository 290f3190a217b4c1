/-
# Screen resolutions

The screen shows 64 by 32 pixels, or 128 by 64 in the extended resolution.
-/
import Chip8.Error

namespace Chip8

/-- The two resolutions of the screen. -/
inductive Resolution where
  | standard
  | extended
deriving DecidableEq, Repr

namespace Resolution

/-- The number of columns that are shown. -/
def width : Resolution → Nat
  | .standard => 64
  | .extended => 128

/-- The number of rows that are shown. -/
def height : Resolution → Nat
  | .standard => 32
  | .extended => 64

/-- The resolution that a host's setting names: zero is the standard one and one
is the extended one. -/
def ofSetting (setting : Setting) : Except Error Resolution :=
  match setting.toBool? with
  | some false => .ok .standard
  | some true => .ok .extended
  | none => .error (.invalidResolution setting)

/-- A resolution shows at least one column. -/
theorem width_pos (resolution : Resolution) : 0 < resolution.width := by
  cases resolution <;> decide

/-- A resolution shows at least one row. -/
theorem height_pos (resolution : Resolution) : 0 < resolution.height := by
  cases resolution <;> decide

/-- No resolution shows more columns than the extended one. -/
theorem width_le (resolution : Resolution) : resolution.width ≤ 128 := by
  cases resolution <;> decide

/-- No resolution shows more rows than the extended one. -/
theorem height_le (resolution : Resolution) : resolution.height ≤ 64 := by
  cases resolution <;> decide

end Resolution

end Chip8
