/-
# Scrolling

The picture moves down by any number of rows, or sideways by four columns.  The
whole screen is turned round, and then everything that came in over an edge or
lies outside the active part is switched off.
-/
import Chip8.Screen

namespace Chip8.Screen

/-- The number of columns of a sideways scroll. -/
def scrollColumns : Nat := 4

/-- The row that comes to lie in row `y` when the screen is turned down by `rows`
rows. -/
def turnedRow (rows : Int) (y : Fin 64) : Fin 64 :=
  ⟨((y.val - rows) % 64).toNat, by omega⟩

/-- The column that comes to lie in column `x` when the screen is turned to the
right by `columns` columns. -/
def turnedColumn (columns : Int) (x : Fin 128) : Fin 128 :=
  ⟨((x.val - columns) % 128).toNat, by omega⟩

/-- Move the picture down; the rows above it are blank. -/
def scrollDown (screen : Screen) (resolution : Resolution) (rows : Int) : Screen :=
  Bitmap.ofPixels fun x y =>
    screen.pixel x (turnedRow rows y) && isActive resolution x y && decide (rows ≤ y.val)

/-- Move the picture four columns to the right. -/
def scrollRight (screen : Screen) (resolution : Resolution) : Screen :=
  Bitmap.ofPixels fun x y =>
    screen.pixel (turnedColumn scrollColumns x) y && isActive resolution x y &&
      decide (scrollColumns ≤ x.val)

/-- Move the picture four columns to the left. -/
def scrollLeft (screen : Screen) (resolution : Resolution) : Screen :=
  Bitmap.ofPixels fun x y =>
    screen.pixel (turnedColumn (-scrollColumns) x) y && isActive resolution x y &&
      decide (x.val + scrollColumns < resolution.width)

@[simp]
theorem pixel_scrollDown (screen : Screen) (resolution : Resolution) (rows : Int)
    (x : Fin 128) (y : Fin 64) :
    (screen.scrollDown resolution rows).pixel x y =
      (screen.pixel x (turnedRow rows y) && isActive resolution x y && decide (rows ≤ y.val)) := by
  simp [scrollDown]

@[simp]
theorem pixel_scrollRight (screen : Screen) (resolution : Resolution) (x : Fin 128) (y : Fin 64) :
    (screen.scrollRight resolution).pixel x y =
      (screen.pixel (turnedColumn scrollColumns x) y && isActive resolution x y &&
        decide (scrollColumns ≤ x.val)) := by
  simp [scrollRight]

@[simp]
theorem pixel_scrollLeft (screen : Screen) (resolution : Resolution) (x : Fin 128) (y : Fin 64) :
    (screen.scrollLeft resolution).pixel x y =
      (screen.pixel (turnedColumn (-scrollColumns) x) y && isActive resolution x y &&
        decide (x.val + scrollColumns < resolution.width)) := by
  simp [scrollLeft]

end Chip8.Screen
