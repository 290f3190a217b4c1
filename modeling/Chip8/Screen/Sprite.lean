/-
# Sprites

A sprite is a stack of rows, eight or sixteen pixels wide.  It is drawn by
switching every pixel that it covers, and the drawing reports whether a lit pixel
went out.  The position is taken modulo the size of the active part of the screen,
and a sprite that reaches over the right or the lower edge goes on at the opposite
one.
-/
import Chip8.Screen
import Chip8.Width

namespace Chip8

/-- The rows of a sprite as bit patterns, the leftmost pixel in the highest bit. -/
structure Sprite where
  wide : Bool
  rows : List UInt16
deriving DecidableEq, Repr

namespace Sprite

/-- The number of pixels in a row. -/
def width (sprite : Sprite) : Nat := if sprite.wide then 16 else 8

/-- Two bytes as a row of sixteen pixels, the first byte on the left. -/
def join (left right : UInt16) : UInt16 := left <<< 8 ||| right

/-- The rows of a wide sprite from its bytes, two bytes a row. -/
def pairs : List UInt8 → List UInt16
  | left :: right :: rest => join left.toUInt16 right.toUInt16 :: pairs rest
  | _ => []

/-- A sprite from its bytes in memory. -/
def ofBytes (wide : Bool) (bytes : List UInt8) : Sprite :=
  ⟨wide, if wide then pairs bytes else bytes.map UInt8.toUInt16⟩

/-- The elements at the even places of a list. -/
def evens {α : Type} : List α → List α
  | first :: _ :: rest => first :: evens rest
  | [last] => [last]
  | [] => []

/-- The elements at the odd places of a list. -/
def odds {α : Type} : List α → List α
  | _ :: second :: rest => second :: odds rest
  | _ => []

/-- Combine left and right halves row by row.  A single half goes with every half
of the other side; otherwise both sides must be equally long. -/
def combine (left right : List UInt16) : Except Error (List UInt16) :=
  if left.length = right.length then .ok (List.zipWith join left right)
  else
    match left, right with
    | [half], _ => .ok (right.map (join half))
    | _, [half] => .ok (left.map fun other => join other half)
    | _, _ => .error .unpairedSprite

/-- A sprite from its elements: one element a row, or for a wide sprite left and
right halves in turn. -/
def ofElements (wide : Bool) (elements : List UInt16) : Except Error Sprite :=
  if wide then
    match combine (evens elements) (odds elements) with
    | .ok rows => .ok ⟨true, rows⟩
    | .error error => .error error
  else .ok ⟨false, elements⟩

/-- A sprite from a host's numbers, which must be 32-bit numbers and of which the low
sixteen bits count. -/
def ofNumbers (wide : Bool) (numbers : List Int) : Except Error Sprite := do
  numbers.forM Width.signed32.check
  ofElements wide (numbers.map UInt16.ofInt)

/-- Whether the sprite's own pixel in a column and a row is lit. -/
def isLit (sprite : Sprite) (column row : Nat) : Bool :=
  column < sprite.width &&
    match sprite.rows[row]? with
    | some bits => bits.toNat.testBit (sprite.width - 1 - column)
    | none => false

/-- The pixels of the screen that a sprite at `(x, y)` covers.  The column of the
sprite that meets a pixel is the distance from `x`, modulo the active width, and
likewise for the row. -/
def mask (sprite : Sprite) (resolution : Resolution) (x y : Int) : Screen :=
  let left := x % resolution.width
  let top := y % resolution.height
  Bitmap.ofPixels fun px py =>
    Screen.isActive resolution px py &&
      sprite.isLit ((px.val - left) % resolution.width).toNat
        ((py.val - top) % resolution.height).toNat

/-- No pixel outside the active part of the screen is covered. -/
theorem pixel_mask_of_not_active (sprite : Sprite) {resolution : Resolution} (x y : Int)
    {px : Fin 128} {py : Fin 64} (outside : Screen.isActive resolution px py = false) :
    (sprite.mask resolution x y).pixel px py = false := by
  simp [mask, outside]

end Sprite

namespace Screen

/-- The distance of a pixel from an origin along a side of the active part, counted
round the edge.  The origin is taken modulo the length of the side. -/
def distance (length : Nat) (origin : Int) (pixel : Nat) : Nat :=
  ((pixel - origin % length) % length).toNat

/-- The row pattern at an index of a table.  Past the end of the table it is the last
one. -/
def rowAt (table : List UInt16) (row : Nat) : UInt16 := table.getD (min row (table.length - 1)) 0

/-- Whether a row pattern of `width` pixels, at most sixteen, is lit in a column.  The
leftmost pixel is the highest of its `width` bits; columns past the right end read
the lowest bit. -/
def bitAt (pattern : UInt16) (width column : Nat) : Bool :=
  (pattern >>> UInt16.ofNat (min (width - 1 - column) 15)) &&& 1 == 1

/-- The pixels that the first `height` row patterns of a table cover, with the upper
left corner at `(x, y)`. -/
def covered (resolution : Resolution) (x y : Int) (table : List UInt16) (height width : Nat) :
    Screen :=
  Bitmap.ofPixels fun px py =>
    let column := distance resolution.width x px.val
    let row := distance resolution.height y py.val
    isActive resolution px py && decide (column < width) && decide (row < height) &&
      bitAt (rowAt table row) width column

/-- Switch the pixels that the first `height` row patterns of a table cover, and say
whether a lit pixel went out. -/
def blit (screen : Screen) (resolution : Resolution) (x y : Int) (table : List UInt16)
    (height width : Nat) : Screen × Bool :=
  let mask := covered resolution x y table height width
  (screen.xor mask, (screen.inter mask).isLit)

/-- Draw a sprite with all its rows, and say whether a lit pixel went out. -/
def draw (screen : Screen) (resolution : Resolution) (x y : Int) (sprite : Sprite) :
    Screen × Bool :=
  screen.blit resolution x y sprite.rows sprite.rows.length sprite.width

end Screen

end Chip8
