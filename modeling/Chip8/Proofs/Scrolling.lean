/-
# Scrolling

A scroll turns the whole screen round, the pixels outside the active part among them, and
then switches off what must not have come in.  What is left is the picture of the active
part, moved as a whole on a plane that is blank around it: no row or column comes back at
the opposite edge, and no pixel enters from outside the active part.

A picture that is moved in this way is a `shift`.  The three scrolls are shifts, and shifts
that turn back on neither axis add up (`shift_shift`); the main result,
`scrolls_move_picture`, is put together from these.
-/
import Chip8.Machine.Access

namespace Chip8

/-! ## The plane around the picture -/

/-- Whether a place of the plane belongs to the active part of the screen. -/
def Resolution.Contains (resolution : Resolution) (x y : Int) : Prop :=
  (0 ≤ x ∧ x < resolution.width) ∧ 0 ≤ y ∧ y < resolution.height

instance (resolution : Resolution) (x y : Int) : Decidable (resolution.Contains x y) := by
  unfold Resolution.Contains
  infer_instance

theorem Resolution.Contains.column_lt {resolution : Resolution} {x y : Int}
    (inside : resolution.Contains x y) : x.toNat < 128 := by
  have left := inside.1
  have wide := resolution.width_le
  omega

theorem Resolution.Contains.row_lt {resolution : Resolution} {x y : Int}
    (inside : resolution.Contains x y) : y.toNat < 64 := by
  have top := inside.2
  have tall := resolution.height_le
  omega

namespace Screen

variable {resolution : Resolution} {screen : Screen}

theorem isActive_iff_contains {px : Fin 128} {py : Fin 64} :
    isActive resolution px py = true ↔ resolution.Contains px.val py.val := by
  rw [isActive, Bool.and_eq_true, decide_eq_true_iff, decide_eq_true_iff, Resolution.Contains]
  omega

/-- Whether the picture is lit at a place of the plane: as the active part shows it, and blank
everywhere else. -/
def litAt (screen : Screen) (resolution : Resolution) (x y : Int) : Bool :=
  if inside : resolution.Contains x y then
    screen.pixel ⟨x.toNat, inside.column_lt⟩ ⟨y.toNat, inside.row_lt⟩
  else false

theorem litAt_of_not_contains {x y : Int} (outside : ¬ resolution.Contains x y) :
    screen.litAt resolution x y = false :=
  dif_neg outside

theorem litAt_of_contains {x y : Int} (inside : resolution.Contains x y) {px : Fin 128}
    {py : Fin 64} (column : (px.val : Int) = x) (row : (py.val : Int) = y) :
    screen.litAt resolution x y = screen.pixel px py := by
  subst column row
  exact dif_pos inside

theorem litAt_eq_true_iff {x y : Int} :
    screen.litAt resolution x y = true ↔
      resolution.Contains x y ∧ ∃ (px : Fin 128) (py : Fin 64), (px.val : Int) = x ∧
        (py.val : Int) = y ∧ screen.pixel px py = true := by
  by_cases inside : resolution.Contains x y
  · rw [and_iff_right inside]
    constructor
    · intro lit
      rw [litAt, dif_pos inside] at lit
      exact ⟨_, _, Int.toNat_of_nonneg inside.1.1, Int.toNat_of_nonneg inside.2.1, lit⟩
    · rintro ⟨px, py, column, row, lit⟩
      rw [litAt_of_contains inside column row, lit]
  · rw [litAt_of_not_contains inside, iff_false_left Bool.false_ne_true]
    exact fun lit => inside lit.1

/-! ## Shifts -/

/-- The picture moved to the right by a number of columns and down by a number of rows. -/
def shift (screen : Screen) (resolution : Resolution) (columns rows : Int) : Screen :=
  Bitmap.ofPixels fun px py =>
    isActive resolution px py && screen.litAt resolution (px.val - columns) (py.val - rows)

theorem pixel_shift (columns rows : Int) (px : Fin 128) (py : Fin 64) :
    (screen.shift resolution columns rows).pixel px py =
      (isActive resolution px py &&
        screen.litAt resolution (px.val - columns) (py.val - rows)) :=
  Bitmap.pixel_ofPixels _ px py

theorem litAt_shift (columns rows x y : Int) :
    (screen.shift resolution columns rows).litAt resolution x y =
      (decide (resolution.Contains x y) &&
        screen.litAt resolution (x - columns) (y - rows)) := by
  by_cases inside : resolution.Contains x y
  · have column := Int.toNat_of_nonneg inside.1.1
    have row := Int.toNat_of_nonneg inside.2.1
    rw [decide_eq_true inside, Bool.true_and, litAt, dif_pos inside, pixel_shift]
    have active : resolution.Contains x.toNat y.toNat := by rwa [column, row]
    rw [isActive_iff_contains.mpr active, Bool.true_and, column, row]
  · rw [litAt_of_not_contains inside, decide_eq_false inside, Bool.false_and]

/-- Two distances on an axis that do not point in opposite directions. -/
def Agree (first second : Int) : Prop :=
  0 ≤ first ∧ 0 ≤ second ∨ first ≤ 0 ∧ second ≤ 0

/-- A picture that is shifted twice is shifted by both distances, unless the second shift
turns back on an axis: what the first one moved over an edge does not return. -/
theorem shift_shift {columns rows columnsAfter rowsAfter : Int}
    (sideways : Agree columns columnsAfter) (upright : Agree rows rowsAfter) :
    (screen.shift resolution columns rows).shift resolution columnsAfter rowsAfter =
      screen.shift resolution (columns + columnsAfter) (rows + rowsAfter) := by
  apply Bitmap.ext
  intro px py
  have column : (px.val : Int) - columnsAfter - columns = px.val - (columns + columnsAfter) := by
    omega
  have row : (py.val : Int) - rowsAfter - rows = py.val - (rows + rowsAfter) := by omega
  rw [pixel_shift, pixel_shift, litAt_shift, column, row, Bool.eq_iff_iff]
  simp only [Bool.and_eq_true, decide_eq_true_iff, isActive_iff_contains]
  refine and_congr_right fun here => and_iff_right_of_imp fun lit => ?_
  -- The place in between lies between two places of the active part on both axes.
  have source := (litAt_eq_true_iff.mp lit).1
  simp only [Resolution.Contains] at here source ⊢
  simp only [Agree] at sideways upright
  omega

/-! ## The scrolls are shifts -/

theorem val_turnedRow {rows : Int} {py : Fin 64} (above : 0 ≤ py.val - rows)
    (below : py.val - rows < 64) : ((turnedRow rows py).val : Int) = py.val - rows :=
  calc ((turnedRow rows py).val : Int)
      = (py.val - rows) % 64 := Int.toNat_of_nonneg (Int.emod_nonneg _ (by decide))
    _ = py.val - rows := Int.emod_eq_of_lt above below

theorem val_turnedColumn {columns : Int} {px : Fin 128} (right : 0 ≤ px.val - columns)
    (left : px.val - columns < 128) :
    ((turnedColumn columns px).val : Int) = px.val - columns :=
  calc ((turnedColumn columns px).val : Int)
      = (px.val - columns) % 128 := Int.toNat_of_nonneg (Int.emod_nonneg _ (by decide))
    _ = px.val - columns := Int.emod_eq_of_lt right left

/-- A turned screen is a shift when the pixels that are kept are those that come from the
active part.  Where a pixel of the screen is turned to otherwise does not matter. -/
theorem eq_shift_of_turned {after : Screen} {columns rows : Int} {column : Fin 128 → Fin 128}
    {row : Fin 64 → Fin 64} {kept : Fin 128 → Fin 64 → Bool}
    (turned : ∀ px py, after.pixel px py =
      (screen.pixel (column px) (row py) && isActive resolution px py && kept px py))
    (keeps : ∀ px py, resolution.Contains px.val py.val →
      (kept px py = true ↔ resolution.Contains (px.val - columns) (py.val - rows)))
    (comes : ∀ px py, resolution.Contains (px.val - columns) (py.val - rows) →
      ((column px).val : Int) = px.val - columns ∧ ((row py).val : Int) = py.val - rows) :
    after = screen.shift resolution columns rows := by
  apply Bitmap.ext
  intro px py
  rw [turned, pixel_shift]
  by_cases here : resolution.Contains px.val py.val
  case neg =>
    rw [Bool.eq_false_iff.mpr fun active => here (isActive_iff_contains.mp active),
      Bool.and_false, Bool.false_and, Bool.false_and]
  rw [isActive_iff_contains.mpr here, Bool.and_true, Bool.true_and]
  by_cases there : resolution.Contains (px.val - columns) (py.val - rows)
  · rw [(keeps px py here).mpr there, Bool.and_true,
      litAt_of_contains there (comes px py there).1 (comes px py there).2]
  · rw [Bool.eq_false_iff.mpr fun keep => there ((keeps px py here).mp keep), Bool.and_false,
      litAt_of_not_contains there]

theorem scrollDown_eq_shift {rows : Int} (down : 0 ≤ rows) :
    screen.scrollDown resolution rows = screen.shift resolution 0 rows := by
  have tall := resolution.height_le
  refine eq_shift_of_turned (pixel_scrollDown screen resolution rows) ?_ ?_
  · intro px py here
    simp only [Resolution.Contains, decide_eq_true_iff] at here ⊢
    omega
  · intro px py there
    simp only [Resolution.Contains] at there
    exact ⟨(Int.sub_zero _).symm, val_turnedRow (by omega) (by omega)⟩

theorem scrollRight_eq_shift :
    screen.scrollRight resolution = screen.shift resolution scrollColumns 0 := by
  have wide := resolution.width_le
  refine eq_shift_of_turned (pixel_scrollRight screen resolution) ?_ ?_
  · intro px py here
    simp only [Resolution.Contains, decide_eq_true_iff] at here ⊢
    omega
  · intro px py there
    simp only [Resolution.Contains] at there
    exact ⟨val_turnedColumn (by omega) (by omega), (Int.sub_zero _).symm⟩

theorem scrollLeft_eq_shift :
    screen.scrollLeft resolution = screen.shift resolution (-scrollColumns) 0 := by
  have wide := resolution.width_le
  refine eq_shift_of_turned (pixel_scrollLeft screen resolution) ?_ ?_
  · intro px py here
    simp only [Resolution.Contains, decide_eq_true_iff] at here ⊢
    omega
  · intro px py there
    simp only [Resolution.Contains] at there
    exact ⟨val_turnedColumn (by omega) (by omega), (Int.sub_zero _).symm⟩

/-! ## The pixels of a scrolled picture -/

variable {px : Fin 128} {py : Fin 64}

theorem pixel_shift_iff {columns rows : Int} :
    (screen.shift resolution columns rows).pixel px py = true ↔
      resolution.Contains px.val py.val ∧
        resolution.Contains (px.val - columns) (py.val - rows) ∧
        ∃ (qx : Fin 128) (qy : Fin 64), (qx.val : Int) = px.val - columns ∧
          (qy.val : Int) = py.val - rows ∧ screen.pixel qx qy = true := by
  rw [pixel_shift, Bool.and_eq_true, isActive_iff_contains, litAt_eq_true_iff]

theorem pixel_scrollDown_iff {rows : Int} (down : 0 ≤ rows) :
    (screen.scrollDown resolution rows).pixel px py = true ↔
      px.val < resolution.width ∧ rows ≤ py.val ∧ py.val < resolution.height ∧
        ∃ above : Fin 64, (above.val : Int) = py.val - rows ∧
          screen.pixel px above = true := by
  rw [scrollDown_eq_shift down, pixel_shift_iff]
  simp only [Resolution.Contains]
  constructor
  · rintro ⟨here, there, qx, above, column, row, lit⟩
    obtain rfl : qx = px := by omega
    exact ⟨by omega, by omega, by omega, above, row, lit⟩
  · rintro ⟨right, top, bottom, above, row, lit⟩
    exact ⟨by omega, by omega, px, above, (Int.sub_zero _).symm, row, lit⟩

theorem pixel_scrollRight_iff :
    (screen.scrollRight resolution).pixel px py = true ↔
      4 ≤ px.val ∧ px.val < resolution.width ∧ py.val < resolution.height ∧
        ∃ left : Fin 128, left.val + 4 = px.val ∧ screen.pixel left py = true := by
  rw [scrollRight_eq_shift, pixel_shift_iff]
  simp only [Resolution.Contains, scrollColumns]
  constructor
  · rintro ⟨here, there, left, qy, column, row, lit⟩
    obtain rfl : qy = py := by omega
    exact ⟨by omega, by omega, by omega, left, by omega, lit⟩
  · rintro ⟨far, right, bottom, left, column, lit⟩
    exact ⟨by omega, by omega, left, py, by omega, (Int.sub_zero _).symm, lit⟩

theorem pixel_scrollLeft_iff :
    (screen.scrollLeft resolution).pixel px py = true ↔
      px.val + 4 < resolution.width ∧ py.val < resolution.height ∧
        ∃ right : Fin 128, right.val = px.val + 4 ∧ screen.pixel right py = true := by
  rw [scrollLeft_eq_shift, pixel_shift_iff]
  simp only [Resolution.Contains, scrollColumns]
  constructor
  · rintro ⟨here, there, right, qy, column, row, lit⟩
    obtain rfl : qy = py := by omega
    exact ⟨by omega, by omega, right, by omega, lit⟩
  · rintro ⟨far, bottom, right, column, lit⟩
    exact ⟨by omega, by omega, right, py, by omega, (Int.sub_zero _).symm, lit⟩

/-! ## One scroll after another -/

theorem scrollDown_scrollDown {first second : Int} (down : 0 ≤ first) (further : 0 ≤ second) :
    (screen.scrollDown resolution first).scrollDown resolution second =
      screen.scrollDown resolution (first + second) := by
  rw [scrollDown_eq_shift down, scrollDown_eq_shift further,
    scrollDown_eq_shift (Int.add_nonneg down further),
    shift_shift (.inl ⟨Int.le_refl 0, Int.le_refl 0⟩) (.inl ⟨down, further⟩)]
  rfl

/-- Shifts along different axes can be taken in either order. -/
theorem shift_comm (columns rows : Int) :
    (screen.shift resolution columns 0).shift resolution 0 rows =
      (screen.shift resolution 0 rows).shift resolution columns 0 := by
  have agree_zero (distance : Int) : Agree distance 0 := by
    unfold Agree
    omega
  have zero_agree (distance : Int) : Agree 0 distance := by
    unfold Agree
    omega
  rw [shift_shift (agree_zero columns) (zero_agree rows),
    shift_shift (zero_agree columns) (agree_zero rows), Int.add_comm columns, Int.add_comm 0 rows]

/-- Four columns are lost on the right when a picture moves there and back. -/
theorem pixel_scrollLeft_scrollRight_iff :
    ((screen.scrollRight resolution).scrollLeft resolution).pixel px py = true ↔
      px.val + 4 < resolution.width ∧ py.val < resolution.height ∧
        screen.pixel px py = true := by
  rw [pixel_scrollLeft_iff]
  refine and_congr_right fun far => and_congr_right fun bottom => ?_
  have wide := resolution.width_le
  constructor
  · rintro ⟨right, column, lit⟩
    obtain ⟨-, -, -, left, back, lit⟩ := pixel_scrollRight_iff.mp lit
    obtain rfl : left = px := by omega
    exact lit
  · intro lit
    refine ⟨⟨px.val + 4, by omega⟩, rfl, pixel_scrollRight_iff.mpr ?_⟩
    exact ⟨Nat.le_add_left 4 px.val, far, bottom, px, rfl, lit⟩

end Screen

namespace Machine

/-! ## What a host sees of a scroll -/

theorem scrollDown_eq_ok (machine : Machine) {rows : Int}
    (fits : Width.signed32.Holds rows) :
    machine.scrollDown rows =
      .ok { machine with screen := machine.screen.scrollDown machine.resolution rows } := by
  rw [scrollDown, (Width.check_eq_ok_iff _ _).mpr fits]
  rfl

theorem scrollDown_eq_error (machine : Machine) {rows : Int}
    (wide : ¬ Width.signed32.Holds rows) :
    machine.scrollDown rows = .error (.numberOutOfRange rows) := by
  rw [scrollDown, Width.check, if_neg wide]
  rfl

/-- Scrolls move the picture of the active part and leave blank what they uncover.  A
number of rows that has no place in 32 bits is refused; whatever other number it is that the
picture is moved down by, and whatever was outside the active part, each pixel of the new
picture is either the one from where it comes or blank. -/
theorem scrolls_move_picture (machine : Machine) :
    (∀ rows : Int, 0 ≤ rows → rows ≤ 0x7FFFFFFF →
      machine.scrollDown rows =
        .ok { machine with screen := machine.screen.scrollDown machine.resolution rows }) ∧
    (∀ rows : Int, 0x7FFFFFFF < rows →
      machine.scrollDown rows = .error (.numberOutOfRange rows)) ∧
    (∀ rows : Int, 0 ≤ rows → ∀ px py,
      ((machine.screen.scrollDown machine.resolution rows).pixel px py = true ↔
        px.val < machine.resolution.width ∧ rows ≤ py.val ∧
          py.val < machine.resolution.height ∧
          ∃ above : Fin 64, (above.val : Int) = py.val - rows ∧
            machine.screen.pixel px above = true)) ∧
    (∀ px py,
      ((machine.screen.scrollRight machine.resolution).pixel px py = true ↔
        4 ≤ px.val ∧ px.val < machine.resolution.width ∧
          py.val < machine.resolution.height ∧
          ∃ left : Fin 128, left.val + 4 = px.val ∧ machine.screen.pixel left py = true)) ∧
    (∀ px py,
      ((machine.screen.scrollLeft machine.resolution).pixel px py = true ↔
        px.val + 4 < machine.resolution.width ∧ py.val < machine.resolution.height ∧
          ∃ right : Fin 128, right.val = px.val + 4 ∧
            machine.screen.pixel right py = true)) ∧
    (∀ first second : Int, 0 ≤ first → 0 ≤ second → first + second ≤ 0x7FFFFFFF →
      (machine.scrollDown first).bind (fun scrolled => scrolled.scrollDown second) =
        machine.scrollDown (first + second)) ∧
    (∀ rows : Int, 0 ≤ rows →
      (machine.screen.scrollRight machine.resolution).scrollDown machine.resolution rows =
          (machine.screen.scrollDown machine.resolution rows).scrollRight machine.resolution ∧
        (machine.screen.scrollLeft machine.resolution).scrollDown machine.resolution rows =
          (machine.screen.scrollDown machine.resolution rows).scrollLeft machine.resolution) ∧
    (∀ px py,
      (((machine.screen.scrollRight machine.resolution).scrollLeft machine.resolution).pixel
          px py = true ↔
        px.val + 4 < machine.resolution.width ∧ py.val < machine.resolution.height ∧
          machine.screen.pixel px py = true)) := by
  have answered {rows : Int} (down : 0 ≤ rows) (fits : rows ≤ 0x7FFFFFFF) (shown : Machine) :
      shown.scrollDown rows =
        .ok { shown with screen := shown.screen.scrollDown shown.resolution rows } :=
    shown.scrollDown_eq_ok (Width.signed32_holds_of_nonneg down fits)
  refine ⟨fun rows down fits => answered down fits machine, ?refused,
    fun rows down px py => Screen.pixel_scrollDown_iff down,
    fun px py => Screen.pixel_scrollRight_iff, fun px py => Screen.pixel_scrollLeft_iff,
    ?composed, ?commute, fun px py => Screen.pixel_scrollLeft_scrollRight_iff⟩
  case refused =>
    intro rows wide
    exact machine.scrollDown_eq_error fun held => Int.not_lt.mpr held.2 wide
  case composed =>
    intro first second down further fits
    rw [answered down (by omega), answered (Int.add_nonneg down further) fits,
      ← Screen.scrollDown_scrollDown down further]
    exact answered further (by omega) _
  case commute =>
    intro rows down
    simp only [Screen.scrollDown_eq_shift down, Screen.scrollRight_eq_shift,
      Screen.scrollLeft_eq_shift]
    exact ⟨Screen.shift_comm _ rows, Screen.shift_comm _ rows⟩

/-- A picture with a lit column at its left edge, and another lit column directly beyond its
right edge. -/
theorem column_beyond_edge_stays_out :
    let machine : Machine := { powerOn ⟨0, 0⟩ .standard with
      screen := Bitmap.ofPixels fun px _ => px.val == 0 || px.val == 64 }
    (machine.scrollDown 1).bind (fun scrolled => scrolled.scrollDown 30) =
        .ok { machine with screen := machine.screen.scrollDown .standard 31 } ∧
      machine.scrollDown 0x80000000 = .error (.numberOutOfRange 0x80000000) ∧
      (machine.screen.scrollDown .standard 31).pixel ⟨0, by decide⟩ ⟨31, by decide⟩ = true ∧
      (machine.screen.scrollDown .standard 31).pixel ⟨0, by decide⟩ ⟨30, by decide⟩ = false ∧
      (machine.screen.scrollRight .standard).pixel ⟨4, by decide⟩ ⟨0, by decide⟩ = true ∧
      (machine.screen.scrollLeft .standard).pixel ⟨60, by decide⟩ ⟨0, by decide⟩ = false ∧
      ((machine.screen.scrollRight .standard).scrollLeft .standard).pixel
        ⟨0, by decide⟩ ⟨0, by decide⟩ = true := by
  intro machine
  obtain ⟨moved, refused, down, right, left, composed, -, back⟩ := scrolls_move_picture machine
  have lit (py : Fin 64) : machine.screen.pixel ⟨0, by decide⟩ py = true :=
    Bitmap.pixel_ofPixels _ _ _
  refine ⟨?_, refused _ (by decide), ?_, ?_, ?_, ?_, ?_⟩
  · rw [composed 1 30 (by decide) (by decide) (by decide)]
    exact moved 31 (by decide) (by decide)
  · exact (down 31 (by decide) _ _).mpr
      ⟨by decide, by decide, by decide, ⟨0, by decide⟩, by decide, lit _⟩
  · refine Bool.eq_false_iff.mpr fun there => ?_
    exact absurd ((down 31 (by decide) _ _).mp there).2.1 (by decide)
  · exact (right _ _).mpr ⟨by decide, by decide, by decide, ⟨0, by decide⟩, by decide, lit _⟩
  · refine Bool.eq_false_iff.mpr fun there => ?_
    exact absurd ((left _ _).mp there).1 (by decide)
  · exact (back _ _).mpr ⟨by decide, by decide, lit _⟩

/-- Not every number of rows gives a picture: one that has no place in 32 bits is refused,
although every row that it would leave is blank. -/
theorem some_scroll_has_no_picture :
    ¬ ∀ (machine : Machine) (rows : Int), 0 ≤ rows → ∃ scrolled : Screen,
      machine.scrollDown rows = .ok { machine with screen := scrolled } ∧
        ∀ px py, (scrolled.pixel px py = true ↔
          px.val < machine.resolution.width ∧ rows ≤ py.val ∧
            py.val < machine.resolution.height ∧
            ∃ above : Fin 64, (above.val : Int) = py.val - rows ∧
              machine.screen.pixel px above = true) := by
  intro always
  let machine := powerOn ⟨0, 0⟩ .standard
  obtain ⟨scrolled, moved, -⟩ := always machine 0x80000000 (by decide)
  rw [machine.scrollDown_eq_error (by decide)] at moved
  cases moved

end Machine

end Chip8
