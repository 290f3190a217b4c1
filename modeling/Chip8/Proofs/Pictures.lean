/-
# What pictures show

In a picture every pixel of a bitmap has become a square of equal pixels: `Picture.Shows` says
so for single pixels of the picture, which know their own place in it only.  As each square
shows its pixel, the bitmap can be seen in the picture, unless the two colours are the same.

Rows and columns are stretched by the same operation on lists, so that one rule for places in a
stretched list, `getElem?_repeatEach`, serves both.

The main result is `pictures_show_bitmaps`.  It holds as far as a host can hold the picture at
all, whatever room the host has: `some_pictures_cannot_be_had`.
-/
import Chip8.Proofs.Session.Invariant

namespace Chip8

/-- The parts of a colour as numbers. -/
def Colour.parts (colour : Colour) : Int × Int × Int :=
  (colour.red.toNat, colour.green.toNat, colour.blue.toNat)

/-- The choice of the two colours of a palette by their parts. -/
def Palette.choice (palette : Palette) : Palette.Choice :=
  .custom palette.on.parts palette.off.parts

namespace Picture

/-- The colour of the pixel in a row and a column, if there is one. -/
def pixel? (picture : Picture) (row column : Nat) : Option Colour :=
  picture.rows[row]?.bind fun pixels => pixels[column]?

/-- A picture shows a bitmap in the colours of a palette, each pixel as a square with sides of a
given length. -/
structure Shows {width height : Nat} (picture : Picture) (bitmap : Bitmap width height)
    (side : Nat) (palette : Palette) : Prop where
  height_eq : picture.height = height * side
  width_eq : picture.width = width * side
  length_rows : picture.rows.length = height * side
  length_row : ∀ pixels ∈ picture.rows, pixels.length = width * side
  pixel : ∀ (x : Fin width) (y : Fin height) (row column : Nat),
    row / side = y.val → column / side = x.val →
    picture.pixel? row column = some (if bitmap.pixel x y then palette.on else palette.off)

/-- The bitmap that can be seen in a picture: the corner of each square tells its pixel. -/
def seen (picture : Picture) (width height side : Nat) (palette : Palette) : Bitmap width height :=
  .ofPixels fun x y => picture.pixel? (y.val * side) (x.val * side) == some palette.on

/-- Whether a host with some room can hold a picture.  The number of its bytes must be a 64-bit
number, where a picture without rows or columns counts as if it had one, and there must be room
for them. -/
def Fits (height width room : Nat) : Prop :=
  max 1 height * max 1 width * colourBytes ≤ Width.signed64.highest ∧
    height * width * colourBytes ≤ room

/-- Whether a bitmap can be scaled on a host with some room.  It can unless it is scaled up; then
the scale must be a 64-bit number and the host must be able to hold the picture. -/
def Scales (height width : Nat) (scale : Int) (room : Nat) : Prop :=
  scale ≤ 1 ∨
    Width.signed64.Holds scale ∧ Fits (height * side scale) (width * side scale) room

instance (height width : Nat) (scale : Int) (room : Nat) :
    Decidable (Scales height width scale room) :=
  inferInstanceAs (Decidable (_ ∨ _ ∧ _ ∧ _))

/-! ## Stretched lists -/

section Lists

variable {α : Type} {count : Nat}

/-- What stands at a place of a stretched list stood at the place divided by the factor. -/
theorem getElem?_repeatEach (positive : 0 < count) (elements : List α) (k : Nat) :
    (repeatEach count elements)[k]? = elements[k / count]? := by
  induction elements generalizing k with
  | nil => rfl
  | cons element elements ih =>
    rw [repeatEach, List.flatMap_cons, ← repeatEach, List.getElem?_append, List.length_replicate]
    -- The place is among the copies of the first element, or that many places farther in the rest.
    split
    case isTrue inside =>
      rw [Nat.div_eq_of_lt inside, List.getElem?_replicate_of_lt inside]
      rfl
    case isFalse outside =>
      obtain ⟨j, rfl⟩ := Nat.exists_eq_add_of_le (Nat.not_lt.mp outside)
      rw [Nat.add_sub_cancel_left, ih, Nat.add_div_left j positive, List.getElem?_cons_succ]

theorem mem_repeatEach {element : α} {elements : List α}
    (member : element ∈ repeatEach count elements) : element ∈ elements := by
  obtain ⟨other, among, copied⟩ := List.mem_flatMap.mp member
  rwa [List.eq_of_mem_replicate copied]

end Lists

theorem side_pos (scale : Int) : 0 < side scale :=
  Nat.lt_of_lt_of_le Nat.one_pos (Nat.le_max_left 1 _)

section Bitmaps

variable {width height : Nat} {bitmap other : Bitmap width height} {palette : Palette}
  {scale : Int} {picture : Picture} {side room : Nat}

/-! ## Pictures of bitmaps -/

/-- A row of squares has the colour of the square in which a place lies. -/
theorem getElem?_row (positive : 0 < side) (x : Fin width) (y : Fin height) {column : Nat}
    (inColumn : column / side = x.val) :
    (repeatEach side (bitmap.rows[y].toList.map fun lit =>
      if lit then palette.on else palette.off))[column]? =
      some (if bitmap.pixel x y then palette.on else palette.off) := by
  have there : bitmap.rows[y].toList[x.val]? = some (bitmap.pixel x y) := by
    rw [Vector.getElem?_toList]
    exact Vector.getElem?_eq_getElem x.isLt
  rw [getElem?_repeatEach positive, inColumn, List.getElem?_map, there]
  rfl

theorem shows_ofBitmap (bitmap : Bitmap width height) (scale : Int) (palette : Palette) :
    (ofBitmap bitmap scale palette).Shows bitmap (Picture.side scale) palette where
  height_eq := rfl
  width_eq := rfl
  length_rows := by
    rw [ofBitmap, length_repeatEach, List.length_map, Vector.length_toList]
  length_row := by
    intro pixels member
    obtain ⟨row, -, rfl⟩ := List.mem_map.mp (mem_repeatEach member)
    rw [length_repeatEach, List.length_map, Vector.length_toList]
  pixel := by
    intro x y row column inRow inColumn
    have there : bitmap.rows.toList[y.val]? = some bitmap.rows[y] := by
      rw [Vector.getElem?_toList]
      exact Vector.getElem?_eq_getElem y.isLt
    rw [pixel?, ofBitmap, getElem?_repeatEach (side_pos scale), inRow, List.getElem?_map, there]
    exact getElem?_row (side_pos scale) x y inColumn

/-- The bitmap of a picture in two colours can be seen in it. -/
theorem Shows.seen_eq (shows : picture.Shows bitmap side palette) (positive : 0 < side)
    (differ : palette.on ≠ palette.off) : picture.seen width height side palette = bitmap := by
  apply Bitmap.ext
  intro x y
  rw [seen, Bitmap.pixel_ofPixels, shows.pixel x y _ _ (Nat.mul_div_cancel _ positive)
    (Nat.mul_div_cancel _ positive)]
  cases bitmap.pixel x y with
  | true => simp
  | false => simp [differ.symm]

/-- The pictures of two bitmaps are equal just when the bitmaps are, if the colours differ. -/
theorem ofBitmap_eq_iff (differ : palette.on ≠ palette.off) :
    ofBitmap bitmap scale palette = ofBitmap other scale palette ↔ bitmap = other := by
  constructor
  · intro same
    rw [← (shows_ofBitmap bitmap scale palette).seen_eq (side_pos scale) differ, same,
      (shows_ofBitmap other scale palette).seen_eq (side_pos scale) differ]
  · rintro rfl
    rfl

/-! ## Scales -/

theorem side_of_pos (positive : 1 ≤ scale) : (Picture.side scale : Int) = scale := by
  rw [Picture.side]
  omega

theorem side_of_le_one (small : scale ≤ 1) : Picture.side scale = 1 := by
  rw [Picture.side]
  omega

theorem ofBitmap_of_le_one (small : scale ≤ 1) :
    ofBitmap bitmap scale palette = ofBitmap bitmap 1 palette := by
  rw [ofBitmap, ofBitmap, side_of_le_one small]
  rfl

/-- A narrower picture takes no more room. -/
theorem Fits.of_le {rows columns fewer : Nat} (fits : Fits rows columns room)
    (narrow : fewer ≤ columns) : Fits rows fewer room := by
  have smaller (height : Nat) {few many : Nat} (least : few ≤ many) :
      height * few * colourBytes ≤ height * many * colourBytes :=
    Nat.mul_le_mul_right _ (Nat.mul_le_mul_left _ least)
  refine ⟨Int.le_trans ?_ fits.1, Nat.le_trans (smaller rows narrow) fits.2⟩
  exact_mod_cast smaller (max 1 rows) (show max 1 fewer ≤ max 1 columns by omega)

theorem checkSize_of_fits {rows columns : Nat} (fits : Fits rows columns room) :
    checkSize rows columns room = .ok () := by
  rw [checkSize, if_neg (Int.not_lt.mpr fits.1), if_neg (Nat.not_lt.mpr fits.2)]

theorem exists_checkSize_of_not_fits {rows columns : Nat} (large : ¬ Fits rows columns room) :
    ∃ cause, checkSize rows columns room = .error cause ∧
      (cause = .pictureTooLarge ∨ cause = .outOfMemory) := by
  rw [checkSize]
  split
  · exact ⟨_, rfl, .inl rfl⟩
  · split
    · exact ⟨_, rfl, .inr rfl⟩
    · rename_i countable provided
      exact absurd ⟨Int.not_lt.mp countable, Nat.not_lt.mp provided⟩ large

theorem checkScale_of_scales (scales : Scales height width scale room) :
    checkScale height width scale room = .ok () := by
  rcases scales with small | ⟨held, fits⟩
  · exact checkScale_of_le_one height width small room
  · have narrow : width ≤ width * Picture.side scale := Nat.le_mul_of_pos_right _ (side_pos scale)
    rw [checkScale, (Width.check_eq_ok_iff _ _).mpr held, checkSize_of_fits (fits.of_le narrow),
      checkSize_of_fits fits]
    split <;> rfl

theorem checkScale_of_wide (wide : Width.signed64.highest < scale) :
    checkScale height width scale room = .error (.numberOutOfRange scale) := by
  have up : 1 < scale := Int.lt_trans (show 1 < Width.signed64.highest by decide) wide
  have outside : ¬ Width.signed64.Holds scale := fun held => absurd held.2 (Int.not_le.mpr wide)
  rw [checkScale, if_pos up, Width.check, if_neg outside]
  rfl

/-- What is wrong with a scale of 64 bits that cannot be had. -/
theorem exists_checkScale_of_not_scales (narrow : scale ≤ Width.signed64.highest)
    (large : ¬ Scales height width scale room) :
    ∃ cause, checkScale height width scale room = .error cause ∧
      (cause = .pictureTooLarge ∨ cause = .outOfMemory) := by
  obtain ⟨up, refused⟩ := not_or.mp large
  have held : Width.signed64.Holds scale :=
    ⟨Int.le_trans (show Width.signed64.lowest ≤ 1 by decide) (Int.le_of_lt (Int.not_le.mp up)),
      narrow⟩
  have unfit : ¬ Fits (height * Picture.side scale) (width * Picture.side scale) room :=
    fun fits => refused ⟨held, fits⟩
  rw [checkScale, if_pos (Int.not_le.mp up), (Width.check_eq_ok_iff _ _).mpr held]
  by_cases fits : Fits (height * Picture.side scale) width room
  · obtain ⟨cause, failed, which⟩ := exists_checkSize_of_not_fits unfit
    rw [checkSize_of_fits fits]
    exact ⟨cause, failed, which⟩
  · obtain ⟨cause, failed, which⟩ := exists_checkSize_of_not_fits fits
    rw [failed]
    exact ⟨cause, rfl, which⟩

/-! ## Pictures that are asked for -/

theorem ofBitmap?_eq {colours : Palette.Choice} (chosen : colours.resolve = .ok palette)
    (bitmap : Bitmap width height) (scale : Int) (room : Nat) :
    ofBitmap? bitmap scale colours room =
      (checkScale height width scale room).map fun _ => ofBitmap bitmap scale palette := by
  rw [ofBitmap?, chosen]
  cases checkScale height width scale room <;> rfl

theorem ofBitmap?_of_scales {colours : Palette.Choice} (chosen : colours.resolve = .ok palette)
    (scales : Scales height width scale room) :
    ofBitmap? bitmap scale colours room = .ok (ofBitmap bitmap scale palette) := by
  rw [ofBitmap?_eq chosen, checkScale_of_scales scales]
  rfl

end Bitmaps

end Picture

/-! ## Colours that are asked for -/

theorem Colour.component_toNat (value : UInt8) : component value.toNat = .ok value := by
  have bound := value.toNat_lt
  rw [component, if_pos (by omega), Int.toNat_natCast, UInt8.ofNat_toNat]

theorem Colour.ofComponents_parts (colour : Colour) :
    ofComponents colour.parts.1 colour.parts.2.1 colour.parts.2.2 = .ok colour := by
  rw [ofComponents, parts, component_toNat, component_toNat, component_toNat]
  rfl

/-- Any two colours can be asked for by their parts. -/
theorem Palette.resolve_choice (palette : Palette) : palette.choice.resolve = .ok palette := by
  rw [choice, Choice.resolve, Colour.ofComponents_parts, Colour.ofComponents_parts]
  rfl

namespace Session

/-! ## Pictures of screens -/

/-- A question that is answered changes nothing. -/
theorem perform_of_answered {α : Type} {session : Session} {call : Call}
    {question : Machine → Except Error α} {answer : α} {shape : α → Reply}
    (asks : call.action = do return shape (← ask question))
    (answered : question session.machine = .ok answer) :
    session.perform call = (.ok (shape answer), session) := by
  rw [perform, asks, EStateM.run_bind, ask, EStateM.run_bind, EStateM.run_get]
  dsimp only
  rw [answered]
  rfl

/-- The active part of a session's screen. -/
def shown (session : Session) :
    Bitmap session.machine.resolution.width session.machine.resolution.height :=
  session.machine.screen.active session.machine.resolution

theorem perform_picture {session : Session} {scale : Int} {colours : Palette.Choice}
    {room : Nat} {palette : Palette} (chosen : colours.resolve = .ok palette)
    (scales : Picture.Scales session.machine.resolution.height session.machine.resolution.width
      scale room) :
    session.perform (.picture scale colours room) =
      (.ok (.picture (.ofBitmap session.shown scale palette)), session) :=
  perform_of_answered rfl (Picture.ofBitmap?_of_scales chosen scales)

/-- In the same resolution, pictures of screens in two colours are equal just when the screens
are. -/
theorem ofBitmap_shown_eq_iff {first second : Session} {palette : Palette} {scale : Int}
    (same : first.machine.resolution = second.machine.resolution)
    (differ : palette.on ≠ palette.off) :
    Picture.ofBitmap first.shown scale palette = Picture.ofBitmap second.shown scale palette ↔
      (first.perform .screen).1 = (second.perform .screen).1 := by
  show _ ↔ Except.ok (Reply.screen first.machine.resolution first.shown) =
    .ok (Reply.screen second.machine.resolution second.shown)
  rw [shown, shown]
  generalize first.machine.resolution = resolution at *
  subst same
  rw [Picture.ofBitmap_eq_iff differ]
  simp

end Session

namespace Picture

/-- A bitmap is shown by the picture of it, at every scale at which a host can hold the picture,
in every palette: `height * scale` rows of `width * scale` pixels, each in the colour of the
bitmap's pixel in whose square it lies.  A scale of zero or less is as good as one.  A scale
beyond 64 bits is refused, and one at which the host can count the rows and the columns but
cannot hold the picture fails too.  In two colours that differ the bitmap can be seen in the
picture, so that sessions in the same resolution give the same picture just when their screens
are the same. -/
theorem pictures_show_bitmaps :
    (∀ palette : Palette, palette.choice.resolve = .ok palette) ∧
    (∀ {width height : Nat} (bitmap : Bitmap width height) (scale : Int)
      (colours : Palette.Choice) (palette : Palette) (room : Nat),
      colours.resolve = .ok palette →
      (1 ≤ scale → Scales height width scale room → ∃ picture,
        ofBitmap? bitmap scale colours room = .ok picture ∧
          picture.Shows bitmap scale.toNat palette ∧
          (palette.on ≠ palette.off →
            picture.seen width height scale.toNat palette = bitmap)) ∧
      (scale ≤ 0 → ofBitmap? bitmap scale colours room = ofBitmap? bitmap 1 colours room) ∧
      (Width.signed64.highest < scale →
        ofBitmap? bitmap scale colours room = .error (.numberOutOfRange scale)) ∧
      (scale ≤ Width.signed64.highest → height * scale ≤ Width.signed64.highest →
        width * scale ≤ Width.signed64.highest → ¬ Scales height width scale room →
        ∃ cause, ofBitmap? bitmap scale colours room = .error cause ∧
          (cause = .pictureTooLarge ∨ cause = .outOfMemory))) ∧
    ∀ (first second : Session) (scale : Int) (colours : Palette.Choice) (palette : Palette)
      (room otherRoom : Nat),
      colours.resolve = .ok palette → palette.on ≠ palette.off →
      first.machine.resolution = second.machine.resolution →
      Scales first.machine.resolution.height first.machine.resolution.width scale room →
      Scales second.machine.resolution.height second.machine.resolution.width scale otherRoom →
      ∃ frame other,
        first.perform (.picture scale colours room) = (.ok (.picture frame), first) ∧
        second.perform (.picture scale colours otherRoom) = (.ok (.picture other), second) ∧
        (frame = other ↔ (first.perform .screen).1 = (second.perform .screen).1) := by
  refine ⟨Palette.resolve_choice, ?bitmaps, ?sessions⟩
  case bitmaps =>
    intro width height bitmap scale colours palette room chosen
    refine ⟨?held, ?small, ?wide, ?large⟩
    case held =>
      intro up scales
      have length : side scale = scale.toNat := by
        have counted := side_of_pos up
        omega
      have shows := shows_ofBitmap bitmap scale palette
      rw [length] at shows
      refine ⟨_, ofBitmap?_of_scales chosen scales, shows, shows.seen_eq ?_⟩
      rw [← length]
      exact side_pos scale
    case small =>
      intro small
      have least : scale ≤ 1 := by omega
      rw [ofBitmap?_of_scales chosen (.inl least),
        ofBitmap?_of_scales chosen (.inl (Int.le_refl 1)), ofBitmap_of_le_one least]
    case wide =>
      intro wide
      rw [ofBitmap?_eq chosen, checkScale_of_wide wide]
      rfl
    case large =>
      intro narrow _ _ large
      obtain ⟨cause, failed, which⟩ := exists_checkScale_of_not_scales narrow large
      refine ⟨cause, ?_, which⟩
      rw [ofBitmap?_eq chosen, failed]
      rfl
  case sessions =>
    intro first second scale colours palette room otherRoom chosen differ same scales scalesToo
    exact ⟨_, _, Session.perform_picture chosen scales, Session.perform_picture chosen scalesToo,
      Session.ofBitmap_shown_eq_iff same differ⟩

/-- A lit pixel beside one that is not, three times as large and far too large, and two screens
that differ. -/
theorem lit_pixel_fills_its_square :
    let bitmap : Bitmap 2 1 := .ofPixels fun x _ => x.val == 0
    let amber : Palette.Choice := .byName "amber"
    let screen : Screen := .ofPixels fun _ _ => true
    let bright : Session := { Session.standard with
      machine := { Session.standard.machine with screen := screen } }
    (∃ picture, ofBitmap? bitmap 3 amber 54 = .ok picture ∧ picture.height = 3 ∧
      picture.width = 6 ∧ picture.pixel? 2 2 = some ⟨255, 176, 0⟩ ∧
      picture.pixel? 2 3 = some ⟨0, 0, 0⟩ ∧
      picture.seen 2 1 3 ⟨⟨255, 176, 0⟩, ⟨0, 0, 0⟩⟩ = bitmap) ∧
      ofBitmap? bitmap (-5) amber 0 = ofBitmap? bitmap 1 amber 0 ∧
      ofBitmap? bitmap 0x8000000000000000 amber 0 =
        .error (.numberOutOfRange 0x8000000000000000) ∧
      (∃ cause, ofBitmap? bitmap 3 amber 53 = .error cause) ∧
      (bright.perform (.picture 2 amber 0x6000)).1 ≠
        (Session.standard.perform (.picture 2 amber 0x8000)).1 := by
  intro bitmap amber screen bright
  obtain ⟨-, bitmaps, sessions⟩ := pictures_show_bitmaps
  have chosen : amber.resolve = .ok ⟨⟨255, 176, 0⟩, ⟨0, 0, 0⟩⟩ := rfl
  have differ : (⟨255, 176, 0⟩ : Colour) ≠ ⟨0, 0, 0⟩ := by decide
  obtain ⟨picture, given, shows, back⟩ :=
    (bitmaps bitmap 3 amber _ 54 chosen).1 (by decide) (by decide)
  obtain ⟨cause, failed, -⟩ :=
    (bitmaps bitmap 3 amber _ 53 chosen).2.2.2 (by decide) (by decide) (by decide) (by decide)
  have plain : Session.standard.machine.resolution = .standard := rfl
  have plainToo : bright.machine.resolution = .standard := rfl
  have scales (room : Nat) (enough : 0x6000 ≤ room) :
      Scales Resolution.standard.height Resolution.standard.width 2 room :=
    .inr ⟨by decide, by decide, enough⟩
  have brightScales := scales 0x6000 (by decide)
  have plainScales := scales 0x8000 (by decide)
  rw [← plainToo] at brightScales
  rw [← plain] at plainScales
  obtain ⟨frame, other, first, second, same⟩ :=
    sessions bright Session.standard 2 amber _ _ _ chosen differ (plainToo.trans plain.symm)
      brightScales plainScales
  refine ⟨⟨picture, given, shows.height_eq, shows.width_eq, ?lit, ?dark, back differ⟩,
    (bitmaps bitmap (-5) amber _ 0 chosen).2.1 (by decide),
    (bitmaps bitmap 0x8000000000000000 amber _ 0 chosen).2.2.1 (by decide), ⟨cause, failed⟩,
    ?screens⟩
  case lit => exact shows.pixel ⟨0, by decide⟩ ⟨0, by decide⟩ 2 2 rfl rfl
  case dark => exact shows.pixel ⟨1, by decide⟩ ⟨0, by decide⟩ 2 3 rfl rfl
  case screens =>
    rw [first, second]
    intro equal
    have screens := same.mp (Session.Reply.picture.inj (Except.ok.inj equal))
    have shown : screen.active .standard = Screen.active .blank .standard :=
      eq_of_heq (Session.Reply.screen.inj (Except.ok.inj screens)).2
    have corner := congrArg (fun shown => shown.pixel ⟨0, by decide⟩ ⟨0, by decide⟩) shown
    rw [Screen.pixel_active, Screen.pixel_active, Bitmap.pixel_blank,
      Bitmap.pixel_ofPixels] at corner
    cases corner

/-- There is not always a picture.  There may be more bytes than can be counted, or a scale that
is no 64-bit number, whatever room the host has; and there may be more bytes than a host has
room for. -/
theorem some_pictures_cannot_be_had :
    let pictured (scale : Int) (room : Nat) : Prop :=
      ∃ picture, ofBitmap? (.blank : Bitmap 1 1) scale Palette.classic.choice room = .ok picture ∧
        picture.Shows (.blank : Bitmap 1 1) scale.toNat .classic
    (∀ room, ¬ pictured 0x4000000000000000 room) ∧ (∀ room, ¬ pictured 0x8000000000000000 room) ∧
      ¬ pictured 1000000000000000 0x1000000000 := by
  intro pictured
  have chosen := Palette.classic.resolve_choice
  have refused {scale : Int} {room : Nat} (narrow : scale ≤ Width.signed64.highest)
      (large : ¬ Scales 1 1 scale room) : ¬ pictured scale room := by
    rintro ⟨picture, given, -⟩
    obtain ⟨cause, failed, -⟩ := exists_checkScale_of_not_scales narrow large
    rw [ofBitmap?_eq chosen, failed] at given
    cases given
  refine ⟨fun room => refused (by decide) ?countless, ?wide, refused (by decide) (by decide)⟩
  case countless =>
    rintro (small | ⟨-, countable, -⟩)
    · exact absurd small (by decide)
    · exact absurd countable (by decide)
  case wide =>
    rintro room ⟨picture, given, -⟩
    rw [ofBitmap?_eq chosen, checkScale_of_wide (by decide)] at given
    cases given

end Picture

end Chip8
