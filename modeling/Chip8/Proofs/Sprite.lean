/-
# Sprites

A sprite is drawn from a table of row patterns, of which the first ones count, with a
position that is taken modulo the active part of the screen.  The pixels that a sprite
covers are its mask: `covered_rows` says that drawing from the table of all its rows
switches exactly these, and `pixel_mask_ofBytes_iff` says of a host's bytes which pixels
they are.
-/
import Chip8.Screen.Sprite

namespace Chip8

namespace Sprite

/-! ## Rows of a host's bytes -/

/-- The number of rows that bytes make, one byte a row or two. -/
def rowCount (wide : Bool) (bytes : List UInt8) : Nat :=
  if wide then bytes.length / 2 else bytes.length

/-- The pattern of a row as a number, the first of two bytes on the left. -/
def rowBits (wide : Bool) (bytes : List UInt8) (row : Nat) : Nat :=
  if wide then 256 * (bytes.getD (2 * row) 0).toNat + (bytes.getD (2 * row + 1) 0).toNat
  else (bytes.getD row 0).toNat

theorem toNat_join (left right : UInt8) :
    (join left.toUInt16 right.toUInt16).toNat = 256 * left.toNat + right.toNat := by
  have leftBound := left.toNat_lt
  have shifted : left.toNat <<< 8 % 65536 = 256 * left.toNat := by
    rw [Nat.shiftLeft_eq]
    omega
  calc (join left.toUInt16 right.toUInt16).toNat
      = left.toNat <<< 8 % 65536 ||| right.toNat := by
        rw [join, UInt16.toNat_or, UInt16.toNat_shiftLeft, UInt8.toNat_toUInt16,
          UInt8.toNat_toUInt16]
        rfl
    _ = 256 * left.toNat + right.toNat := by
        rw [shifted]
        exact (Nat.two_pow_add_eq_or_of_lt right.toNat_lt left.toNat).symm

theorem length_pairs : ∀ bytes : List UInt8, (pairs bytes).length = bytes.length / 2
  | [] => rfl
  | [_] => by simp [pairs]
  | left :: right :: rest => by
    rw [pairs, List.length_cons, length_pairs rest, List.length_cons, List.length_cons]
    omega

theorem toNat_getD_pairs : ∀ (bytes : List UInt8) (row : Nat), row < bytes.length / 2 →
    ((pairs bytes).getD row 0).toNat = rowBits true bytes row
  | [], _, inside => by simp at inside
  | [_], _, inside => by simp at inside
  | left :: right :: _, 0, _ => toNat_join left right
  | left :: right :: rest, row + 1, inside => by
    rw [List.length_cons, List.length_cons] at inside
    exact toNat_getD_pairs rest row (by omega)

theorem length_rows_ofBytes (wide : Bool) (bytes : List UInt8) :
    (ofBytes wide bytes).rows.length = rowCount wide bytes := by
  cases wide with
  | false => exact List.length_map _
  | true => exact length_pairs bytes

theorem toNat_getD_rows_ofBytes (wide : Bool) (bytes : List UInt8) {row : Nat}
    (inside : row < rowCount wide bytes) :
    ((ofBytes wide bytes).rows.getD row 0).toNat = rowBits wide bytes row := by
  cases wide with
  | false =>
    have bound : row < bytes.length := inside
    show ((bytes.map UInt8.toUInt16).getD row 0).toNat = (bytes.getD row 0).toNat
    simp [bound]
  | true => exact toNat_getD_pairs bytes row inside

/-- Whether a pixel of a row is lit, read off the bytes. -/
theorem isLit_ofBytes_iff (wide : Bool) (bytes : List UInt8) (column row : Nat) :
    (ofBytes wide bytes).isLit column row = true ↔
      column < (ofBytes wide bytes).width ∧ row < rowCount wide bytes ∧
        (rowBits wide bytes row).testBit ((ofBytes wide bytes).width - 1 - column) = true := by
  rw [isLit, Bool.and_eq_true, decide_eq_true_iff, and_congr_right_iff]
  intro _
  by_cases inside : row < rowCount wide bytes
  · have bound : row < (ofBytes wide bytes).rows.length := by
      rw [length_rows_ofBytes]
      exact inside
    have bits := toNat_getD_rows_ofBytes wide bytes inside
    rw [List.getD_eq_getElem?_getD, List.getElem?_eq_getElem bound, Option.getD_some] at bits
    simp only [List.getElem?_eq_getElem bound, bits, inside, true_and]
  · have beyond : (ofBytes wide bytes).rows[row]? = none := by
      rw [List.getElem?_eq_none_iff, length_rows_ofBytes]
      omega
    simp only [beyond, inside, false_and, Bool.false_eq_true]

/-! ## Elements of a host's sprite -/

theorem length_evens_eq_length_odds : ∀ bytes : List UInt8, bytes.length % 2 = 0 →
    (evens (bytes.map UInt8.toUInt16)).length = (odds (bytes.map UInt8.toUInt16)).length
  | [], _ => rfl
  | [_], paired => by simp at paired
  | left :: right :: rest, paired => by
    rw [List.length_cons, List.length_cons] at paired
    have shorter := length_evens_eq_length_odds rest (by omega)
    simpa [evens, odds] using shorter

theorem zipWith_evens_odds : ∀ bytes : List UInt8,
    List.zipWith join (evens (bytes.map UInt8.toUInt16)) (odds (bytes.map UInt8.toUInt16)) =
      pairs bytes
  | [] => rfl
  | [_] => rfl
  | left :: right :: rest => by
    show _ :: List.zipWith join _ _ = _
    rw [zipWith_evens_odds rest]
    rfl

/-- An even number of bytes makes a wide sprite, and any number of them a narrow one. -/
theorem ofElements_bytes {wide : Bool} {bytes : List UInt8}
    (paired : wide = true → bytes.length % 2 = 0) :
    ofElements wide (bytes.map UInt8.toUInt16) = .ok (ofBytes wide bytes) := by
  cases wide with
  | false => rfl
  | true =>
    rw [ofElements, if_pos rfl, combine.eq_def,
      if_pos (length_evens_eq_length_odds bytes (paired rfl)), zipWith_evens_odds]
    rfl

theorem forM_check_bytes (bytes : List UInt8) :
    (bytes.map fun byte => (byte.toNat : Int)).forM Width.signed32.check = .ok () := by
  induction bytes with
  | nil => rfl
  | cons byte bytes ih =>
    have held := (Width.check_eq_ok_iff _ _).mpr (Width.signed32_holds_byte byte)
    show (Width.signed32.check byte.toNat >>= fun _ => List.forM _ _) = _
    rw [held]
    exact ih

theorem ofNumbers_bytes {wide : Bool} {bytes : List UInt8}
    (paired : wide = true → bytes.length % 2 = 0) :
    ofNumbers wide (bytes.map fun byte => (byte.toNat : Int)) = .ok (ofBytes wide bytes) := by
  have elements : (bytes.map fun byte => (byte.toNat : Int)).map UInt16.ofInt =
      bytes.map UInt8.toUInt16 := by
    rw [List.map_map]
    congr 1
    funext byte
    exact (ofInt_natCast byte.toNat).trans (UInt16.ofNat_uInt8ToNat byte)
  rw [ofNumbers, forM_check_bytes, elements]
  exact ofElements_bytes paired

end Sprite

namespace Screen

/-! ## Pixels that a table covers -/

/-- A pixel lies at its distance from the origin of a drawing, modulo the side. -/
theorem distance_eq {length : Nat} (positive : 0 < length) (origin : Int) (pixel : Nat) :
    (distance length origin pixel : Int) = (pixel - origin) % length := by
  rw [distance, Int.toNat_of_nonneg (Int.emod_nonneg _ (by omega)), Int.sub_emod_emod]

theorem bitAt_eq_testBit (pattern : UInt16) {width : Nat} (narrow : width ≤ 16) (column : Nat) :
    bitAt pattern width column = pattern.toNat.testBit (width - 1 - column) := by
  have shift : (UInt16.ofNat (min (width - 1 - column) 15)).toNat % 16 = width - 1 - column := by
    rw [UInt16.toNat_ofNat_of_lt' (by show _ < 65536; omega)]
    omega
  rw [bitAt, Bool.eq_iff_iff, beq_iff_eq, ← UInt16.toNat_inj, UInt16.toNat_and,
    UInt16.toNat_shiftRight, shift, Nat.testBit]
  simp

theorem rowAt_of_lt {table : List UInt16} {row : Nat} (inside : row < table.length) :
    rowAt table row = table.getD row 0 := by
  rw [rowAt, show min row (table.length - 1) = row by omega]

theorem pixel_covered (resolution : Resolution) (x y : Int) (table : List UInt16)
    (height width : Nat) (px : Fin 128) (py : Fin 64) :
    (covered resolution x y table height width).pixel px py = true ↔
      isActive resolution px py = true ∧ distance resolution.width x px.val < width ∧
        distance resolution.height y py.val < height ∧
        bitAt (rowAt table (distance resolution.height y py.val)) width
          (distance resolution.width x px.val) = true := by
  simp only [covered, Bitmap.pixel_ofPixels, Bool.and_eq_true, decide_eq_true_eq, and_assoc]

/-- Only the rows that are drawn are read from a table. -/
theorem covered_congr {resolution : Resolution} {x y : Int} {first second : List UInt16}
    {height width : Nat} (same : ∀ row < height, rowAt first row = rowAt second row) :
    covered resolution x y first height width = covered resolution x y second height width := by
  ext px py
  rw [Bool.eq_iff_iff, pixel_covered, pixel_covered]
  refine and_congr_right fun _ => and_congr_right fun _ => and_congr_right fun inside => ?_
  rw [same _ inside]

/-- Rows of a table that are not drawn may be left out. -/
theorem covered_take {resolution : Resolution} {x y : Int} {table : List UInt16}
    {height width : Nat} (short : height ≤ table.length) :
    covered resolution x y (table.take height) height width =
      covered resolution x y table height width := by
  apply covered_congr
  intro row inside
  have taken : row < (table.take height).length := by
    rw [List.length_take]
    omega
  rw [rowAt_of_lt taken, rowAt_of_lt (by omega), List.getD_eq_getElem?_getD,
    List.getElem?_take_of_lt inside, List.getD_eq_getElem?_getD]

/-- A table of all rows of a sprite covers the mask of the sprite. -/
theorem covered_rows (resolution : Resolution) (x y : Int) (sprite : Sprite) :
    covered resolution x y sprite.rows sprite.rows.length sprite.width =
      sprite.mask resolution x y := by
  have narrow : sprite.width ≤ 16 := by
    unfold Sprite.width
    split <;> omega
  ext px py
  rw [Bool.eq_iff_iff, pixel_covered, Sprite.mask, Bitmap.pixel_ofPixels, Bool.and_eq_true]
  refine and_congr_right fun _ => ?_
  show _ ↔ sprite.isLit (distance resolution.width x px.val)
    (distance resolution.height y py.val) = true
  generalize distance resolution.width x px.val = column
  generalize distance resolution.height y py.val = row
  rw [Sprite.isLit, Bool.and_eq_true, decide_eq_true_iff]
  refine and_congr_right fun _ => ?_
  by_cases inside : row < sprite.rows.length
  · rw [bitAt_eq_testBit _ narrow, rowAt_of_lt inside, List.getD_eq_getElem?_getD,
      List.getElem?_eq_getElem inside, Option.getD_some]
    exact and_iff_right inside
  · rw [List.getElem?_eq_none (Nat.le_of_not_lt inside)]
    exact iff_of_false (fun covered => inside covered.1) Bool.false_ne_true

/-! ## Drawing switches the mask -/

theorem draw_eq (screen : Screen) (resolution : Resolution) (x y : Int) (sprite : Sprite) :
    screen.draw resolution x y sprite =
      (screen.xor (sprite.mask resolution x y),
        (screen.inter (sprite.mask resolution x y)).isLit) := by
  rw [draw, blit, covered_rows]

/-- Drawing switches exactly the pixels that the sprite covers. -/
@[simp]
theorem pixel_draw (screen : Screen) (resolution : Resolution) (x y : Int) (sprite : Sprite)
    (px : Fin 128) (py : Fin 64) :
    (screen.draw resolution x y sprite).1.pixel px py =
      (screen.pixel px py ^^ (sprite.mask resolution x y).pixel px py) := by
  rw [draw_eq, Bitmap.pixel_xor]

/-- A collision is reported exactly when a pixel is lit before the drawing and not
after it. -/
theorem draw_collides_iff (screen : Screen) (resolution : Resolution) (x y : Int)
    (sprite : Sprite) :
    (screen.draw resolution x y sprite).2 = true ↔
      ∃ px py, screen.pixel px py = true ∧
        (screen.draw resolution x y sprite).1.pixel px py = false := by
  simp only [pixel_draw]
  rw [draw_eq, Bitmap.isLit_iff]
  refine exists_congr fun px => exists_congr fun py => ?_
  rw [Bitmap.pixel_inter]
  cases screen.pixel px py <;> cases (sprite.mask resolution x y).pixel px py <;> decide

/-- A sprite without rows changes nothing and collides with nothing. -/
theorem draw_of_rows_eq_nil (screen : Screen) (resolution : Resolution) (x y : Int)
    {sprite : Sprite} (unused : sprite.rows = []) :
    screen.draw resolution x y sprite = (screen, false) := by
  have nothing : sprite.mask resolution x y = .blank := by
    ext px py
    rw [Sprite.mask, Bitmap.pixel_ofPixels, Sprite.isLit, unused, Bitmap.pixel_blank]
    simp
  have same : screen.xor (sprite.mask resolution x y) = screen := by
    ext px py
    rw [nothing, Bitmap.pixel_xor, Bitmap.pixel_blank, Bool.xor_false]
  have unlit : (screen.inter (sprite.mask resolution x y)).isLit = false := by
    rw [← Bool.not_eq_true, Bitmap.isLit_iff, nothing]
    rintro ⟨px, py, lit⟩
    rw [Bitmap.pixel_inter, Bitmap.pixel_blank, Bool.and_false] at lit
    cases lit
  rw [draw_eq, same, unlit]

end Screen

namespace Sprite

/-! ## The mask of a host's bytes -/

/-- Whether the sprite of a host's bytes covers a pixel, with its upper left corner at
`(x, y)`.  The pixel is in the active part of the screen, and the pixel of the sprite
that falls on it, at the distance from the corner modulo the sides, is lit. -/
def Covers (resolution : Resolution) (wide : Bool) (bytes : List UInt8) (x y : Int)
    (px : Fin 128) (py : Fin 64) : Prop :=
  px.val < resolution.width ∧ py.val < resolution.height ∧ ∃ column row : Nat,
    (column : Int) = (px.val - x) % resolution.width ∧
    (row : Int) = (py.val - y) % resolution.height ∧
    column < (if wide then 16 else 8) ∧ row < rowCount wide bytes ∧
    (rowBits wide bytes row).testBit ((if wide then 16 else 8) - 1 - column) = true

theorem pixel_mask_ofBytes_iff (resolution : Resolution) (wide : Bool) (bytes : List UInt8)
    (x y : Int) (px : Fin 128) (py : Fin 64) :
    ((ofBytes wide bytes).mask resolution x y).pixel px py = true ↔
      Covers resolution wide bytes x y px py := by
  have columnEq := Screen.distance_eq resolution.width_pos x px.val
  have rowEq := Screen.distance_eq resolution.height_pos y py.val
  rw [mask, Bitmap.pixel_ofPixels, Bool.and_eq_true, Screen.isActive, Bool.and_eq_true,
    decide_eq_true_iff, decide_eq_true_iff, and_assoc, Covers]
  refine and_congr_right fun _ => and_congr_right fun _ => ?_
  show (ofBytes wide bytes).isLit (Screen.distance resolution.width x px.val)
    (Screen.distance resolution.height y py.val) = true ↔ _
  rw [isLit_ofBytes_iff]
  constructor
  · intro lit
    exact ⟨_, _, columnEq, rowEq, lit⟩
  · rintro ⟨column, row, columnIs, rowIs, lit⟩
    rw [← columnEq, Int.ofNat_inj] at columnIs
    rw [← rowEq, Int.ofNat_inj] at rowIs
    rw [← columnIs, ← rowIs]
    exact lit

theorem rowBits_lt (wide : Bool) (bytes : List UInt8) (row : Nat) :
    rowBits wide bytes row < if wide then 0x10000 else 0x100 := by
  cases wide with
  | false => exact (bytes.getD row 0).toNat_lt
  | true =>
    have left := (bytes.getD (2 * row) 0).toNat_lt
    have right := (bytes.getD (2 * row + 1) 0).toNat_lt
    show 256 * (bytes.getD (2 * row) 0).toNat + (bytes.getD (2 * row + 1) 0).toNat < 0x10000
    omega

/-- A lit bit of a row lies in one of the columns of the sprite. -/
theorem exists_column_of_rowBits_ne_zero {wide : Bool} {bytes : List UInt8} {row : Nat}
    (lit : rowBits wide bytes row ≠ 0) :
    ∃ column < if wide then 16 else 8,
      (rowBits wide bytes row).testBit ((if wide then 16 else 8) - 1 - column) = true := by
  obtain ⟨bit, set⟩ := Nat.exists_testBit_of_ne_zero lit
  have bound := rowBits_lt wide bytes row
  have below : bit < if wide then 16 else 8 := by
    apply Nat.lt_of_not_le
    intro beyond
    have least := Nat.ge_two_pow_of_testBit set
    have grows := Nat.pow_le_pow_right (show 0 < 2 by decide) beyond
    cases wide <;> simp at bound grows <;> omega
  refine ⟨(if wide then 16 else 8) - 1 - bit, by omega, ?_⟩
  rwa [show (if wide then 16 else 8) - 1 - ((if wide then 16 else 8) - 1 - bit) = bit by omega]

/-- Some pixel of a side lies at any distance from an origin, modulo the side. -/
theorem exists_at_distance {length offset : Nat} (origin : Int) (inside : offset < length) :
    ∃ pixel < length, (offset : Int) = ((pixel : Nat) - origin) % length := by
  have nonneg := Int.emod_nonneg (origin + offset) (show (length : Int) ≠ 0 by omega)
  have bound := Int.emod_lt_of_pos (origin + offset) (show (0 : Int) < length by omega)
  have distance : origin + offset - origin = offset := by omega
  refine ⟨((origin + offset) % length).toNat, by omega, ?_⟩
  rw [Int.toNat_of_nonneg nonneg, Int.emod_sub_emod, distance,
    Int.emod_eq_of_lt (by omega) (by omega)]

/-- A sprite that is not higher than the screen covers something, wherever it is drawn, unless
all its rows are blank. -/
theorem exists_covers_iff {resolution : Resolution} {wide : Bool} {bytes : List UInt8}
    (low : rowCount wide bytes ≤ resolution.height) (x y : Int) :
    (∃ px py, Covers resolution wide bytes x y px py) ↔
      ∃ row < rowCount wide bytes, rowBits wide bytes row ≠ 0 := by
  constructor
  · rintro ⟨px, py, -, -, column, row, -, -, -, inside, set⟩
    refine ⟨row, inside, fun blank => ?_⟩
    rw [blank, Nat.zero_testBit] at set
    exact Bool.false_ne_true set
  · rintro ⟨row, inside, lit⟩
    obtain ⟨column, narrow, set⟩ := exists_column_of_rowBits_ne_zero lit
    have across : column < resolution.width := by
      cases resolution <;> cases wide <;> simp [Resolution.width] at narrow ⊢ <;> omega
    obtain ⟨px, pxBound, columnIs⟩ := exists_at_distance x across
    obtain ⟨py, pyBound, rowIs⟩ := exists_at_distance y (Nat.lt_of_lt_of_le inside low)
    exact ⟨⟨px, Nat.lt_of_lt_of_le pxBound resolution.width_le⟩,
      ⟨py, Nat.lt_of_lt_of_le pyBound resolution.height_le⟩, pxBound, pyBound, column, row,
      columnIs, rowIs, narrow, inside, set⟩

theorem rowCount_take (wide : Bool) (bytes : List UInt8) (rows : Nat) :
    rowCount wide (bytes.take (rows * if wide then 2 else 1)) = min rows (rowCount wide bytes) := by
  cases wide with
  | false =>
    show (bytes.take (rows * 1)).length = min rows bytes.length
    rw [List.length_take, Nat.mul_one]
  | true =>
    show (bytes.take (rows * 2)).length / 2 = min rows (bytes.length / 2)
    rw [List.length_take]
    omega

theorem rowBits_take (wide : Bool) (bytes : List UInt8) {rows row : Nat} (inside : row < rows) :
    rowBits wide (bytes.take (rows * if wide then 2 else 1)) row = rowBits wide bytes row := by
  have kept {length place : Nat} (before : place < length) :
      (bytes.take length).getD place 0 = bytes.getD place 0 := by
    rw [List.getD_eq_getElem?_getD, List.getElem?_take_of_lt before, List.getD_eq_getElem?_getD]
  cases wide with
  | false =>
    show ((bytes.take (rows * 1)).getD row 0).toNat = (bytes.getD row 0).toNat
    rw [kept (by omega)]
  | true =>
    show 256 * ((bytes.take (rows * 2)).getD (2 * row) 0).toNat +
        ((bytes.take (rows * 2)).getD (2 * row + 1) 0).toNat = rowBits true bytes row
    rw [kept (by omega), kept (by omega)]
    rfl

/-- Rows beyond the height of the screen do not show. -/
theorem covers_take_iff (resolution : Resolution) (wide : Bool) (bytes : List UInt8) (x y : Int)
    (px : Fin 128) (py : Fin 64) :
    Covers resolution wide (bytes.take (resolution.height * if wide then 2 else 1)) x y px py ↔
      Covers resolution wide bytes x y px py := by
  refine and_congr_right fun _ => and_congr_right fun _ => ?_
  refine exists_congr fun column => exists_congr fun row => and_congr_right fun _ => ?_
  refine and_congr_right fun rowIs => and_congr_right fun _ => ?_
  have shown : row < resolution.height := by
    have bound := Int.emod_lt_of_pos (py.val - y) (Int.ofNat_lt.mpr resolution.height_pos)
    omega
  rw [rowCount_take, rowBits_take wide bytes shown, Nat.lt_min, and_iff_right shown]

theorem mask_ofBytes_take (resolution : Resolution) (wide : Bool) (bytes : List UInt8)
    (x y : Int) :
    (ofBytes wide (bytes.take (resolution.height * if wide then 2 else 1))).mask resolution x y =
      (ofBytes wide bytes).mask resolution x y := by
  ext px py
  rw [Bool.eq_iff_iff, pixel_mask_ofBytes_iff, pixel_mask_ofBytes_iff, covers_take_iff]

end Sprite

end Chip8
