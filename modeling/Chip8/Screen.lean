/-
# Screen

The screen always has the pixels of the extended resolution.  In the standard
resolution only the top left part of it is active.
-/
import Chip8.Bitmap
import Chip8.Resolution

namespace Chip8

/-- All pixels of the screen, those outside the active part among them. -/
abbrev Screen := Bitmap 128 64

namespace Screen

/-- Whether a pixel belongs to the active part of the screen. -/
def isActive (resolution : Resolution) (x : Fin 128) (y : Fin 64) : Bool :=
  x.val < resolution.width && y.val < resolution.height

/-- The active part of the screen. -/
def active (screen : Screen) (resolution : Resolution) :
    Bitmap resolution.width resolution.height :=
  Bitmap.ofPixels fun x y =>
    screen.pixel (x.castLE resolution.width_le) (y.castLE resolution.height_le)

/-- The active part shows the pixels of the screen in their places. -/
theorem pixel_active (screen : Screen) (resolution : Resolution)
    (x : Fin resolution.width) (y : Fin resolution.height) :
    (screen.active resolution).pixel x y =
      screen.pixel (x.castLE resolution.width_le) (y.castLE resolution.height_le) := by
  simp [active]

end Screen

end Chip8
