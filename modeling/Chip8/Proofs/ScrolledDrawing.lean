/-
# Drawings under a scroll

A drawing that lies in the active part as a whole moves with the picture: drawing first and
scrolling afterwards leads to the same picture as scrolling first and drawing at the place to
which the sprite has moved, as long as the sprite lies in the active part there too.  Both
drawings collide or neither does.

Drawing reckons its places modulo the active part, while scrolling turns the screen and masks
it.  They meet on the plane around the picture: inside the active part a drawing is a stamp
that is put down at its corner (`pixel_covered_iff`), and a scroll is a `shift`, which moves
the stamp (`shift_covered`), goes through the switching of pixels (`shift_xor`) and loses no
pixel that stays inside (`isLit_shift`).  `shift_blit` puts these together, and the main
result, `drawings_move_with_scrolls`, takes the three scrolls from it.
-/
import Chip8.Proofs.Drawing
import Chip8.Proofs.Scrolling

namespace Chip8

/-- A rectangle of `width` by `height` pixels with its upper left corner at `(x, y)` lies in
the active part of the screen. -/
structure Resolution.Frames (resolution : Resolution) (x y : Int) (width height : Nat) :
    Prop where
  left : 0 ≤ x
  right : x + width ≤ resolution.width
  top : 0 ≤ y
  bottom : y + height ≤ resolution.height

/-- The places of a rectangle in the active part belong to it. -/
theorem Resolution.Frames.contains {resolution : Resolution} {x y : Int} {width height : Nat}
    (framed : resolution.Frames x y width height) {column row : Nat} (across : column < width)
    (down : row < height) : resolution.Contains (x + column) (y + row) := by
  obtain ⟨left, right, top, bottom⟩ := framed
  exact ⟨⟨by omega, by omega⟩, by omega, by omega⟩

namespace Screen

variable {resolution : Resolution} {screen : Screen}

/-! ## A drawing inside the active part -/

/-- A pixel lies at a distance from an origin without going round the edge, when a stretch
from the origin on that ends before the edge is longer than the distance. -/
theorem distance_eq_iff {length extent pixel offset : Nat} {origin : Int} (nonneg : 0 ≤ origin)
    (inside : origin + extent ≤ length) (shown : pixel < length) (short : offset < extent) :
    distance length origin pixel = offset ↔ (pixel : Int) = origin + offset := by
  have reckoned := distance_eq (show 0 < length by omega) origin pixel
  by_cases after : origin ≤ pixel
  · rw [Int.emod_eq_of_lt (by omega) (by omega)] at reckoned
    omega
  · -- Left of the origin the distance is counted round the edge, beyond the whole stretch.
    have turned : ((pixel : Int) - origin) % length = pixel - origin + length := by
      rw [← Int.add_emod_right, Int.emod_eq_of_lt (by omega) (by omega)]
    omega

/-- The pixels that a drawing inside the active part covers are those of its rows, put down at
its corner. -/
theorem pixel_covered_iff {x y : Int} {height width : Nat}
    (framed : resolution.Frames x y width height) (table : List UInt16) {px : Fin 128}
    {py : Fin 64} :
    (covered resolution x y table height width).pixel px py = true ↔
      ∃ column < width, ∃ row < height, (px.val : Int) = x + column ∧
        (py.val : Int) = y + row ∧ bitAt (rowAt table row) width column = true := by
  rw [pixel_covered]
  have column {offset : Nat} (shown : px.val < resolution.width) (across : offset < width) :=
    distance_eq_iff framed.left framed.right shown across
  have row {offset : Nat} (shown : py.val < resolution.height) (down : offset < height) :=
    distance_eq_iff framed.top framed.bottom shown down
  constructor
  · rintro ⟨active, across, down, lit⟩
    have here := isActive_iff_contains.mp active
    have shownX := Int.ofNat_lt.mp here.1.2
    have shownY := Int.ofNat_lt.mp here.2.2
    exact ⟨_, across, _, down, (column shownX across).mp rfl, (row shownY down).mp rfl, lit⟩
  · rintro ⟨offset, across, line, down, columnIs, rowIs, lit⟩
    have here : resolution.Contains px.val py.val := by
      rw [columnIs, rowIs]
      exact framed.contains across down
    have shownX := Int.ofNat_lt.mp here.1.2
    have shownY := Int.ofNat_lt.mp here.2.2
    rw [(column shownX across).mpr columnIs, (row shownY down).mpr rowIs]
    exact ⟨isActive_iff_contains.mpr here, across, down, lit⟩

/-- A drawing moves with a shift that keeps it inside the active part. -/
theorem shift_covered {x y columns rows : Int} {height width : Nat}
    (framed : resolution.Frames x y width height)
    (moved : resolution.Frames (x + columns) (y + rows) width height) (table : List UInt16) :
    (covered resolution x y table height width).shift resolution columns rows =
      covered resolution (x + columns) (y + rows) table height width := by
  apply Bitmap.ext
  intro px py
  rw [Bool.eq_iff_iff, pixel_shift_iff, pixel_covered_iff moved]
  constructor
  · rintro ⟨-, -, qx, qy, qxIs, qyIs, lit⟩
    obtain ⟨column, across, row, down, columnIs, rowIs, lit⟩ :=
      (pixel_covered_iff framed table).mp lit
    exact ⟨column, across, row, down, by omega, by omega, lit⟩
  · rintro ⟨column, across, row, down, columnIs, rowIs, lit⟩
    have here := moved.contains across down
    have there := framed.contains across down
    rw [← columnIs, ← rowIs] at here
    have columnBack : (px.val : Int) - columns = x + column := by omega
    have rowBack : (py.val : Int) - rows = y + row := by omega
    rw [columnBack, rowBack]
    refine ⟨here, there, ⟨_, there.column_lt⟩, ⟨_, there.row_lt⟩, Int.toNat_of_nonneg there.1.1,
      Int.toNat_of_nonneg there.2.1, (pixel_covered_iff framed table).mpr ?_⟩
    exact ⟨column, across, row, down, Int.toNat_of_nonneg there.1.1,
      Int.toNat_of_nonneg there.2.1, lit⟩

/-! ## Shifts and the switching of pixels -/

/-- Pixels that are combined one by one can be combined after a shift as well, if blank pixels
combine to a blank one. -/
theorem pixel_shift_of_pixelwise {first second combined : Screen} {combine : Bool → Bool → Bool}
    (blank : combine false false = false)
    (pixelwise : ∀ px py,
      combined.pixel px py = combine (first.pixel px py) (second.pixel px py))
    (columns rows : Int) (px : Fin 128) (py : Fin 64) :
    (combined.shift resolution columns rows).pixel px py =
      combine ((first.shift resolution columns rows).pixel px py)
        ((second.shift resolution columns rows).pixel px py) := by
  rw [pixel_shift, pixel_shift, pixel_shift]
  cases isActive resolution px py with
  | false => exact blank.symm
  | true =>
    simp only [Bool.true_and]
    by_cases inside : resolution.Contains (px.val - columns) (py.val - rows)
    · rw [litAt, litAt, litAt, dif_pos inside, dif_pos inside, dif_pos inside, pixelwise]
    · rw [litAt_of_not_contains inside, litAt_of_not_contains inside,
        litAt_of_not_contains inside, blank]

/-- A switched picture is shifted by shifting it and what is switched. -/
theorem shift_xor (first second : Screen) (columns rows : Int) :
    shift (first.xor second) resolution columns rows =
      (first.shift resolution columns rows).xor (second.shift resolution columns rows) := by
  apply Bitmap.ext
  intro px py
  rw [Bitmap.pixel_xor, pixel_shift_of_pixelwise rfl (Bitmap.pixel_xor first second)]

theorem shift_inter (first second : Screen) (columns rows : Int) :
    shift (first.inter second) resolution columns rows =
      (first.shift resolution columns rows).inter (second.shift resolution columns rows) := by
  apply Bitmap.ext
  intro px py
  rw [Bitmap.pixel_inter, pixel_shift_of_pixelwise rfl (Bitmap.pixel_inter first second)]

/-- A shift that moves no lit pixel out of the active part leaves a lit picture lit, and a
blank one blank. -/
theorem isLit_shift {columns rows : Int}
    (stays : ∀ px py, screen.pixel px py = true → resolution.Contains px.val py.val ∧
      resolution.Contains (px.val + columns) (py.val + rows)) :
    (screen.shift resolution columns rows).isLit = screen.isLit := by
  rw [Bool.eq_iff_iff, Bitmap.isLit_iff, Bitmap.isLit_iff]
  constructor
  · rintro ⟨px, py, shifted⟩
    obtain ⟨-, -, qx, qy, -, -, lit⟩ := pixel_shift_iff.mp shifted
    exact ⟨qx, qy, lit⟩
  · rintro ⟨px, py, lit⟩
    obtain ⟨there, here⟩ := stays px py lit
    have column := Int.toNat_of_nonneg here.1.1
    have row := Int.toNat_of_nonneg here.2.1
    refine ⟨⟨_, here.column_lt⟩, ⟨_, here.row_lt⟩, pixel_shift_iff.mpr ?_⟩
    rw [column, row, Int.add_sub_cancel, Int.add_sub_cancel]
    exact ⟨here, there, px, py, rfl, rfl, lit⟩

/-- Drawing commutes with a shift that keeps the drawing inside the active part: the picture is
the same and so is the report of a collision. -/
theorem shift_blit {x y columns rows : Int} {height width : Nat}
    (framed : resolution.Frames x y width height)
    (moved : resolution.Frames (x + columns) (y + rows) width height) (screen : Screen)
    (table : List UInt16) :
    (screen.shift resolution columns rows).blit resolution (x + columns) (y + rows) table height
        width =
      ((screen.blit resolution x y table height width).1.shift resolution columns rows,
        (screen.blit resolution x y table height width).2) := by
  -- The collision is reported from the pixels that picture and drawing share; they lie within
  -- the drawing, so that the shift loses none of them.
  simp only [blit, ← shift_covered framed moved table, shift_xor, ← shift_inter]
  refine congrArg (Prod.mk _) (isLit_shift fun px py lit => ?_)
  rw [Bitmap.pixel_inter, Bool.and_eq_true] at lit
  obtain ⟨column, across, row, down, columnIs, rowIs, -⟩ :=
    (pixel_covered_iff framed table).mp lit.2
  have there := framed.contains across down
  have here := moved.contains across down
  rw [columnIs, rowIs, Int.add_right_comm x, Int.add_right_comm y]
  exact ⟨there, here⟩

theorem scrollDown_blit {x y rows : Int} {height width : Nat}
    (framed : resolution.Frames x y width height) (down : 0 ≤ rows)
    (inside : y + height + rows ≤ resolution.height) (screen : Screen) (table : List UInt16) :
    (screen.scrollDown resolution rows).blit resolution x (y + rows) table height width =
      ((screen.blit resolution x y table height width).1.scrollDown resolution rows,
        (screen.blit resolution x y table height width).2) := by
  have ⟨left, right, top, bottom⟩ := framed
  have moved : resolution.Frames (x + 0) (y + rows) width height :=
    ⟨by omega, by omega, by omega, by omega⟩
  rw [scrollDown_eq_shift down, scrollDown_eq_shift down]
  have carried := shift_blit framed moved screen table
  rwa [Int.add_zero] at carried

theorem scrollRight_blit {x y : Int} {height width : Nat}
    (framed : resolution.Frames x y width height) (inside : x + width + 4 ≤ resolution.width)
    (screen : Screen) (table : List UInt16) :
    (screen.scrollRight resolution).blit resolution (x + 4) y table height width =
      ((screen.blit resolution x y table height width).1.scrollRight resolution,
        (screen.blit resolution x y table height width).2) := by
  have ⟨left, right, top, bottom⟩ := framed
  have moved : resolution.Frames (x + 4) (y + 0) width height :=
    ⟨by omega, by omega, by omega, by omega⟩
  rw [scrollRight_eq_shift, scrollRight_eq_shift]
  have carried := shift_blit framed moved screen table
  rwa [Int.add_zero] at carried

theorem scrollLeft_blit {x y : Int} {height width : Nat}
    (framed : resolution.Frames x y width height) (inside : 4 ≤ x)
    (screen : Screen) (table : List UInt16) :
    (screen.scrollLeft resolution).blit resolution (x - 4) y table height width =
      ((screen.blit resolution x y table height width).1.scrollLeft resolution,
        (screen.blit resolution x y table height width).2) := by
  have ⟨left, right, top, bottom⟩ := framed
  have moved : resolution.Frames (x + -4) (y + 0) width height :=
    ⟨by omega, by omega, by omega, by omega⟩
  rw [scrollLeft_eq_shift, scrollLeft_eq_shift]
  have carried := shift_blit framed moved screen table
  rwa [Int.add_zero] at carried

end Screen

namespace Machine

variable {machine : Machine} {x y : Int} {sprite : Sprite}

/-- The machine with another picture on its screen. -/
def withScreen (machine : Machine) (screen : Screen) : Machine := { machine with screen := screen }

theorem scrollDown_withScreen (machine : Machine) (screen : Screen) {rows : Int}
    (held : Width.signed32.Holds rows) :
    (machine.withScreen screen).scrollDown rows =
      .ok (machine.withScreen (screen.scrollDown machine.resolution rows)) :=
  scrollDown_eq_ok _ held

theorem execute_scrollRight_withScreen (machine : Machine) (screen : Screen) :
    (machine.withScreen screen).execute .scrollRight =
      machine.withScreen (screen.scrollRight machine.resolution) :=
  rfl

theorem execute_scrollLeft_withScreen (machine : Machine) (screen : Screen) :
    (machine.withScreen screen).execute .scrollLeft =
      machine.withScreen (screen.scrollLeft machine.resolution) :=
  rfl

/-- A host draws a sprite inside the active part of whatever picture without any refusal. -/
theorem drawNumbers_withScreen (machine : Machine) (screen : Screen) {after : Screen}
    {collided wide : Bool} {numbers : List Int} (made : Sprite.ofNumbers wide numbers = .ok sprite)
    (framed : machine.resolution.Frames x y sprite.width sprite.rows.length)
    (drawn : screen.draw machine.resolution x y sprite = (after, collided)) :
    (machine.withScreen screen).drawNumbers x y wide numbers =
      .ok (machine.withScreen after, collided) := by
  have ⟨left, right, top, bottom⟩ := framed
  have across := machine.resolution.width_le
  have down := machine.resolution.height_le
  have answered := (machine.withScreen screen).drawNumbers_eq_ok
    (Width.signed32_holds_of_nonneg left (by omega))
    (Width.signed32_holds_of_nonneg top (by omega)) made
  have same : (machine.withScreen screen).screen.draw (machine.withScreen screen).resolution x y
      sprite = (after, collided) := drawn
  rw [answered, same]
  rfl

/-- Scrolling carries a drawing along.  A picture on which rows of any width are drawn inside
the active part, and which is then scrolled, is the scrolled picture on which they are drawn at
the place that the scroll has moved them to, if that place lies inside the active part as well;
and the drawings report the same collision.  So does a host find it that draws a sprite: none
of its calls is refused, and it comes to the same machine in either order. -/
theorem drawings_move_with_scrolls (machine : Machine) :
    (∀ (table : List UInt16) (height width : Nat) (x y : Int),
      machine.resolution.Frames x y width height →
      let drawn := machine.screen.blit machine.resolution x y table height width
      (∀ rows : Int, 0 ≤ rows → y + height + rows ≤ machine.resolution.height →
        (machine.screen.scrollDown machine.resolution rows).blit machine.resolution x (y + rows)
            table height width =
          (drawn.1.scrollDown machine.resolution rows, drawn.2)) ∧
      (x + width + 4 ≤ machine.resolution.width →
        (machine.screen.scrollRight machine.resolution).blit machine.resolution (x + 4) y
            table height width =
          (drawn.1.scrollRight machine.resolution, drawn.2)) ∧
      (4 ≤ x →
        (machine.screen.scrollLeft machine.resolution).blit machine.resolution (x - 4) y
            table height width =
          (drawn.1.scrollLeft machine.resolution, drawn.2))) ∧
    ∀ (wide : Bool) (numbers : List Int) (sprite : Sprite) (x y : Int),
      Sprite.ofNumbers wide numbers = .ok sprite →
      machine.resolution.Frames x y sprite.width sprite.rows.length →
      ∃ (drawn : Machine) (collided : Bool),
        machine.drawNumbers x y wide numbers = .ok (drawn, collided) ∧
        (∀ rows : Int, 0 ≤ rows →
          y + sprite.rows.length + rows ≤ machine.resolution.height →
          ∃ scrolled after : Machine, machine.scrollDown rows = .ok scrolled ∧
            drawn.scrollDown rows = .ok after ∧
            scrolled.drawNumbers x (y + rows) wide numbers = .ok (after, collided)) ∧
        (x + sprite.width + 4 ≤ machine.resolution.width →
          (machine.execute .scrollRight).drawNumbers (x + 4) y wide numbers =
            .ok (drawn.execute .scrollRight, collided)) ∧
        (4 ≤ x →
          (machine.execute .scrollLeft).drawNumbers (x - 4) y wide numbers =
            .ok (drawn.execute .scrollLeft, collided)) := by
  refine ⟨?blit, ?host⟩
  case blit =>
    intro table height width x y framed drawn
    exact ⟨fun rows down inside => Screen.scrollDown_blit framed down inside _ table,
      fun inside => Screen.scrollRight_blit framed inside _ table,
      fun inside => Screen.scrollLeft_blit framed inside _ table⟩
  case host =>
    intro wide numbers sprite x y made framed
    have ⟨left, right, top, bottom⟩ := framed
    rcases drawn : machine.screen.draw machine.resolution x y sprite with ⟨picture, collided⟩
    refine ⟨machine.withScreen picture, collided,
      machine.drawNumbers_withScreen machine.screen made framed drawn, ?down, ?right, ?left⟩
    case down =>
      intro rows down inside
      have tall := machine.resolution.height_le
      have held : Width.signed32.Holds rows := Width.signed32_holds_of_nonneg down (by omega)
      have moved : machine.resolution.Frames x (y + rows) sprite.width sprite.rows.length :=
        ⟨left, right, by omega, by omega⟩
      have carried := Screen.scrollDown_blit framed down inside machine.screen sprite.rows
      rw [← Screen.draw, ← Screen.draw, drawn] at carried
      exact ⟨_, _, machine.scrollDown_withScreen machine.screen held,
        machine.scrollDown_withScreen picture held,
        machine.drawNumbers_withScreen _ made moved carried⟩
    case right =>
      intro inside
      have moved : machine.resolution.Frames (x + 4) y sprite.width sprite.rows.length :=
        ⟨by omega, by omega, top, bottom⟩
      have carried := Screen.scrollRight_blit framed inside machine.screen sprite.rows
      rw [← Screen.draw, ← Screen.draw, drawn] at carried
      rw [execute_scrollRight_withScreen]
      exact machine.drawNumbers_withScreen _ made moved carried
    case left =>
      intro inside
      have moved : machine.resolution.Frames (x - 4) y sprite.width sprite.rows.length :=
        ⟨by omega, by omega, top, bottom⟩
      have carried := Screen.scrollLeft_blit framed inside machine.screen sprite.rows
      rw [← Screen.draw, ← Screen.draw, drawn] at carried
      rw [execute_scrollLeft_withScreen]
      exact machine.drawNumbers_withScreen _ made moved carried

/-- A sprite of one row that a scroll takes to the right edge, and another one to the lower
edge.  It puts out the left one of its two pixels and lights the right one, before the scroll
and after it. -/
theorem drawing_moves_to_the_edges :
    let machine : Machine := { powerOn ⟨0, 0⟩ .standard with
      screen := Bitmap.ofPixels fun px py => px.val == 52 || py.val == 32 }
    ∃ drawn scrolled after : Machine,
      machine.drawNumbers 52 0 false [0xC0] = .ok (drawn, true) ∧
      machine.scrollDown 31 = .ok scrolled ∧ drawn.scrollDown 31 = .ok after ∧
      scrolled.drawNumbers 52 31 false [0xC0] = .ok (after, true) ∧
      (machine.execute .scrollRight).drawNumbers 56 0 false [0xC0] =
        .ok (drawn.execute .scrollRight, true) ∧
      (machine.execute .scrollLeft).drawNumbers 48 0 false [0xC0] =
        .ok (drawn.execute .scrollLeft, true) ∧
      drawn.screen.pixel ⟨52, by decide⟩ ⟨0, by decide⟩ = false ∧
      drawn.screen.pixel ⟨53, by decide⟩ ⟨0, by decide⟩ = true ∧
      (drawn.execute .scrollRight).screen.pixel ⟨57, by decide⟩ ⟨0, by decide⟩ = true := by
  intro machine
  have made : Sprite.ofNumbers false [0xC0] = .ok ⟨false, [0xC0]⟩ := rfl
  have framed : machine.resolution.Frames 52 0 (Sprite.width ⟨false, [0xC0]⟩) 1 :=
    ⟨by decide, by decide, by decide, by decide⟩
  obtain ⟨drawn, collided, draws, down, right, left⟩ :=
    (drawings_move_with_scrolls machine).2 _ _ _ 52 0 made framed
  obtain ⟨scrolled, after, scrolls, scrollsDrawn, same⟩ := down 31 (by decide) (by decide)
  have xHeld : Width.signed32.Holds 52 := by decide
  have yHeld : Width.signed32.Holds 0 := by decide
  have standard : machine.resolution = .standard := rfl
  have covered (px : Fin 128) (struck : px.val = 52 ∨ px.val = 53) :
      (Sprite.mask ⟨false, [0xC0]⟩ machine.resolution 52 0).pixel px ⟨0, by decide⟩ = true := by
    rw [standard, Sprite.mask, Bitmap.pixel_ofPixels]
    decide +revert
  have lit : machine.screen.pixel ⟨52, by decide⟩ ⟨0, by decide⟩ = true :=
    Bitmap.pixel_ofPixels _ _ _
  have dark : machine.screen.pixel ⟨53, by decide⟩ ⟨0, by decide⟩ = false :=
    Bitmap.pixel_ofPixels _ _ _
  obtain ⟨resolution, out, hit⟩ :=
    switched_of_drawNumbers xHeld yHeld made draws (covered ⟨52, by decide⟩ (.inl rfl))
  obtain ⟨-, beside, -⟩ :=
    switched_of_drawNumbers xHeld yHeld made draws (covered ⟨53, by decide⟩ (.inr rfl))
  rw [lit] at out
  rw [dark] at beside
  obtain rfl : collided = true := hit lit
  refine ⟨drawn, scrolled, after, draws, scrolls, scrollsDrawn, same, right (by decide),
    left (by decide), out, beside, ?_⟩
  show (drawn.screen.scrollRight drawn.resolution).pixel ⟨57, by decide⟩ ⟨0, by decide⟩ = true
  rw [Screen.pixel_scrollRight, resolution]
  exact congrArg (· && true && true) beside

end Machine

end Chip8
