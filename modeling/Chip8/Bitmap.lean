/-
# Bitmaps

A bitmap is a rectangle of pixels that are lit or not.  Pixels are named by their
column `x` and their row `y`, counted from the top left corner.  A bitmap is known
by its pixels: `ofPixels` builds it from them and `ext` compares by them, so that
every operation here is a rule for single pixels.
-/

namespace Chip8

/-- A rectangle of pixels, kept row by row. -/
structure Bitmap (width height : Nat) where
  rows : Vector (Vector Bool width) height
deriving DecidableEq

namespace Bitmap

variable {width height : Nat}

/-- Whether the pixel of a column and a row is lit. -/
def pixel (bitmap : Bitmap width height) (x : Fin width) (y : Fin height) : Bool :=
  bitmap.rows[y][x]

/-- The bitmap whose pixels follow a rule. -/
def ofPixels (rule : Fin width → Fin height → Bool) : Bitmap width height :=
  ⟨Vector.ofFn fun y => Vector.ofFn fun x => rule x y⟩

@[simp]
theorem pixel_ofPixels (rule : Fin width → Fin height → Bool) (x : Fin width) (y : Fin height) :
    (ofPixels rule).pixel x y = rule x y := by
  simp [pixel, ofPixels]

/-- Bitmaps with the same pixels are the same. -/
@[ext]
theorem ext {first second : Bitmap width height}
    (same : ∀ x y, first.pixel x y = second.pixel x y) : first = second := by
  obtain ⟨firstRows⟩ := first
  obtain ⟨secondRows⟩ := second
  congr
  apply Vector.ext
  intro y yBound
  apply Vector.ext
  intro x xBound
  exact same ⟨x, xBound⟩ ⟨y, yBound⟩

/-- The bitmap without lit pixels. -/
def blank : Bitmap width height := ofPixels fun _ _ => false

/-- The pixels that are lit in exactly one of two bitmaps. -/
def xor (first second : Bitmap width height) : Bitmap width height :=
  ofPixels fun x y => first.pixel x y ^^ second.pixel x y

/-- The pixels that are lit in both bitmaps. -/
def inter (first second : Bitmap width height) : Bitmap width height :=
  ofPixels fun x y => first.pixel x y && second.pixel x y

/-- Whether any pixel is lit. -/
def isLit (bitmap : Bitmap width height) : Bool :=
  bitmap.rows.any fun row => row.any id

/-- A bitmap is lit when one of its pixels is. -/
theorem isLit_iff (bitmap : Bitmap width height) :
    bitmap.isLit = true ↔ ∃ x y, bitmap.pixel x y = true := by
  unfold isLit
  rw [Vector.any_iff_exists]
  constructor
  · rintro ⟨y, yBound, lit⟩
    obtain ⟨x, xBound, here⟩ := Vector.any_iff_exists.mp lit
    exact ⟨⟨x, xBound⟩, ⟨y, yBound⟩, here⟩
  · rintro ⟨x, y, here⟩
    exact ⟨y, y.isLt, Vector.any_iff_exists.mpr ⟨x, x.isLt, here⟩⟩

@[simp]
theorem pixel_blank (x : Fin width) (y : Fin height) :
    (blank : Bitmap width height).pixel x y = false := by
  simp [blank]

@[simp]
theorem pixel_xor (first second : Bitmap width height) (x : Fin width) (y : Fin height) :
    (first.xor second).pixel x y = (first.pixel x y ^^ second.pixel x y) := by
  simp [xor]

@[simp]
theorem pixel_inter (first second : Bitmap width height) (x : Fin width) (y : Fin height) :
    (first.inter second).pixel x y = (first.pixel x y && second.pixel x y) := by
  simp [inter]

end Bitmap

end Chip8
