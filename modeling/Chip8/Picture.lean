/-
# Pictures

A picture shows a bitmap in two colours.  Every pixel of the bitmap becomes a
square of equal pixels; a scale of one or less leaves the pixels as they are.  A
picture that a host could not hold is refused before it is made.
-/
import Chip8.Bitmap
import Chip8.ByteData
import Chip8.Palette

namespace Chip8

/-- Rows of coloured pixels. -/
structure Picture where
  height : Nat
  width : Nat
  rows : List (List Colour)
deriving DecidableEq, Repr

namespace Picture

/-- A list in which every element stands `count` times. -/
def repeatEach {α : Type} (count : Nat) (elements : List α) : List α :=
  elements.flatMap (List.replicate count)

/-- The number of pixels along the side of a square. -/
def side (scale : Int) : Nat := max 1 scale.toNat

/-- The picture of a bitmap. -/
def ofBitmap {width height : Nat} (bitmap : Bitmap width height) (scale : Int)
    (palette : Palette) : Picture where
  height := height * side scale
  width := width * side scale
  rows := repeatEach (side scale) <| bitmap.rows.toList.map fun row =>
    repeatEach (side scale) <| row.toList.map fun lit => if lit then palette.on else palette.off

/-- The number of bytes that a colour takes. -/
def colourBytes : Nat := 3

/-- Refuse a picture that a host cannot hold.  Its bytes must be counted by a 64-bit
number, where a picture without rows or columns is counted as if it had one, and the
host must have room for them. -/
def checkSize (height width room : Nat) : Except Error Unit :=
  if Width.signed64.highest < max 1 height * max 1 width * colourBytes then .error .pictureTooLarge
  else if room < height * width * colourBytes then .error .outOfMemory
  else .ok ()

/-- Refuse a scale that is no 64-bit number or makes a bitmap too large.  The rows are
scaled before the columns. -/
def checkScale (height width : Nat) (scale : Int) (room : Nat) : Except Error Unit := do
  if 1 < scale then
    Width.signed64.check scale
    checkSize (height * side scale) width room
    checkSize (height * side scale) (width * side scale) room

/-- The picture of a bitmap in the colours that were asked for, on a host with some room.
The colours are checked before the scale. -/
def ofBitmap? {width height : Nat} (bitmap : Bitmap width height) (scale : Int)
    (colours : Palette.Choice) (room : Nat) : Except Error Picture := do
  let palette ← colours.resolve
  checkScale height width scale room
  return ofBitmap bitmap scale palette

/-- What a host hands over as a list of columns: a bitmap, or an empty list, which does not
say how many rows there are. -/
inductive Columns where
  | empty
  | bitmap {width height : Nat} (columns : Bitmap width height)

/-- A bitmap without columns is an empty list of them. -/
instance {width height : Nat} : CoeOut (Bitmap width height) Columns :=
  ⟨fun columns => if width = 0 then .empty else .bitmap columns⟩

/-- The picture of a list of columns.  An empty list is refused before all else. -/
def render (columns : Columns) (scale : Int) (colours : Palette.Choice)
    (room : Nat := usualRoom) : Except Error Picture :=
  match columns with
  | .empty => .error .noColumns
  | .bitmap columns => ofBitmap? columns scale colours room

/-- A scale of one or less is never refused. -/
theorem checkScale_of_le_one (height width : Nat) {scale : Int} (small : scale ≤ 1)
    (room : Nat) : checkScale height width scale room = .ok () := by
  simp [checkScale, Int.not_lt.mpr small, pure, Except.pure]

/-- Repeating each element multiplies the length. -/
theorem length_repeatEach {α : Type} (count : Nat) (elements : List α) :
    (repeatEach count elements).length = elements.length * count := by
  simp [repeatEach, List.length_flatMap, List.map_const']

end Picture

end Chip8
