/-
# The active part of the screen

Pixels outside the active part of the screen are never lit.  The operations that turn the
picture or draw over it work on the whole screen and leave the pixels outside to a mask,
and a change of the resolution changes which pixels these are; that no lit pixel is left
there is a property of histories.

What every instruction does to the screen and to the resolution is said once, in
`display_execute`.  The main result is `active_part_shows_all`: a host that looks at the
active part sees every lit pixel.
-/
import Mathlib.Data.Fintype.Prod
import Chip8.Proofs.Invariant
import Chip8.Proofs.Sprite
import Chip8.Proofs.Step

namespace Chip8

/-! ## Lit pixels -/

/-- The lit pixels of a bitmap. -/
def Bitmap.lit {width height : Nat} (bitmap : Bitmap width height) :
    Finset (Fin width × Fin height) :=
  Finset.univ.filter fun place => bitmap.pixel place.1 place.2 = true

theorem Bitmap.mem_lit {width height : Nat} {bitmap : Bitmap width height}
    {spot : Fin width × Fin height} :
    spot ∈ bitmap.lit ↔ bitmap.pixel spot.1 spot.2 = true := by
  rw [lit, Finset.mem_filter, and_iff_right (Finset.mem_univ spot)]

namespace Screen

variable {resolution : Resolution} {screen : Screen}

/-- No pixel outside the active part is lit. -/
def IsInside (resolution : Resolution) (screen : Screen) : Prop :=
  ∀ px py, isActive resolution px py = false → screen.pixel px py = false

/-- The place on the screen of a pixel of the active part. -/
def place (resolution : Resolution) :
    Fin resolution.width × Fin resolution.height ↪ Fin 128 × Fin 64 :=
  (Fin.castLEEmb resolution.width_le).prodMap (Fin.castLEEmb resolution.height_le)

/-- When no pixel outside is lit, the active part shows every lit pixel. -/
theorem IsInside.exists_active (inside : IsInside resolution screen) {px : Fin 128} {py : Fin 64}
    (lit : screen.pixel px py = true) :
    ∃ spot, (screen.active resolution).pixel spot.1 spot.2 = true ∧
      place resolution spot = (px, py) := by
  have active : isActive resolution px py = true := by
    by_contra outside
    rw [inside px py (Bool.eq_false_of_not_eq_true outside)] at lit
    exact Bool.false_ne_true lit
  rw [isActive, Bool.and_eq_true, decide_eq_true_iff, decide_eq_true_iff] at active
  refine ⟨(⟨px, active.1⟩, ⟨py, active.2⟩), ?_, rfl⟩
  rw [pixel_active]
  exact lit

/-- When no pixel outside is lit, the lit pixels of the active part are all lit pixels. -/
theorem IsInside.map_lit_active (inside : IsInside resolution screen) :
    (screen.active resolution).lit.map (place resolution) = screen.lit := by
  ext spot
  rw [Finset.mem_map, Bitmap.mem_lit]
  constructor
  · rintro ⟨spot, lit, rfl⟩
    rw [Bitmap.mem_lit, pixel_active] at lit
    exact lit
  · intro lit
    obtain ⟨shown, lit, same⟩ := inside.exists_active lit
    exact ⟨shown, Bitmap.mem_lit.mpr lit, same⟩

theorem isInside_blank : IsInside resolution .blank :=
  fun px py _ => Bitmap.pixel_blank px py

theorem isInside_scrollDown (rows : Int) :
    IsInside resolution (screen.scrollDown resolution rows) := by
  intro px py outside
  rw [pixel_scrollDown, outside, Bool.and_false, Bool.false_and]

theorem isInside_scrollRight : IsInside resolution (screen.scrollRight resolution) := by
  intro px py outside
  rw [pixel_scrollRight, outside, Bool.and_false, Bool.false_and]

theorem isInside_scrollLeft : IsInside resolution (screen.scrollLeft resolution) := by
  intro px py outside
  rw [pixel_scrollLeft, outside, Bool.and_false, Bool.false_and]

theorem IsInside.blit (inside : IsInside resolution screen) (x y : Int) (table : List UInt16)
    (height width : Nat) :
    IsInside resolution (screen.blit resolution x y table height width).1 := by
  intro px py outside
  have uncovered : (covered resolution x y table height width).pixel px py = false := by
    rw [← Bool.not_eq_true, pixel_covered, outside]
    exact fun covered => Bool.false_ne_true covered.1
  rw [Screen.blit, Bitmap.pixel_xor, uncovered, Bool.xor_false]
  exact inside px py outside

end Screen

namespace Machine

variable {machine : Machine} {instruction : Instruction}

/-! ## What an instruction does to the display -/

/-- The resolution and the screen. -/
def display (machine : Machine) : Resolution × Screen := (machine.resolution, machine.screen)

/-- The resolution and the screen after an instruction that can be carried out. -/
def displayAfter (machine : Machine) : Instruction → Resolution × Screen
  | .clear => (machine.resolution, .blank)
  | .low => (.standard, .blank)
  | .high => (.extended, .blank)
  | .scrollDown rows => (machine.resolution, machine.screen.scrollDown machine.resolution rows.val)
  | .scrollRight => (machine.resolution, machine.screen.scrollRight machine.resolution)
  | .scrollLeft => (machine.resolution, machine.screen.scrollLeft machine.resolution)
  | .draw x y rows =>
    (machine.resolution, (machine.screen.blit machine.resolution (machine.v x).toNat
      (machine.v y).toNat (machine.spriteTable rows).rows (spriteHeight rows)
      (machine.spriteTable rows).width).1)
  | _ => machine.display

theorem display_of_data (machine : Machine) (memory : Memory) (pc index : UInt16)
    (registers : Vector UInt8 16) (delayTimer soundTimer : UInt8) (flags : Vector UInt8 8)
    (mode : Mode) (randomKey : RandomKey) :
    { machine with
      memory := memory
      pc := pc
      index := index
      registers := registers
      delayTimer := delayTimer
      soundTimer := soundTimer
      flags := flags
      mode := mode
      randomKey := randomKey }.display = machine.display :=
  rfl

theorem display_of_screen (machine : Machine) (screen : Screen) :
    { machine with screen := screen }.display = (machine.resolution, screen) :=
  rfl

theorem display_skipIf (machine : Machine) (condition : Bool) :
    (machine.skipIf condition).display = machine.display := by
  unfold skipIf
  split <;> rfl

theorem display_advanceIndex (machine : Machine) (x : Register) :
    (machine.advanceIndex x).display = machine.display := by
  unfold advanceIndex
  split <;> rfl

/-- An instruction that can be carried out does this to the display. -/
theorem display_execute (accepted : machine.faultOf? instruction = none) :
    (machine.execute instruction).display = machine.displayAfter instruction := by
  cases instruction with
  | ret =>
    show machine.returnFromSubroutine.display = machine.display
    unfold returnFromSubroutine
    split <;> rfl
  | call target =>
    show (machine.callSubroutine target).display = machine.display
    unfold callSubroutine
    split <;> rfl
  | waitKey x =>
    show (machine.waitForKey x).display = machine.display
    unfold waitForKey
    split <;> rfl
  | skipIfByte x byte => exact machine.display_skipIf _
  | skipUnlessByte x byte => exact machine.display_skipIf _
  | skipIfEqual x y => exact machine.display_skipIf _
  | skipUnlessEqual x y => exact machine.display_skipIf _
  | skipIfKey x => exact machine.display_skipIf _
  | skipUnlessKey x => exact machine.display_skipIf _
  | arithmetic operation x y =>
    show (machine.combine operation x y).display = machine.display
    unfold combine
    split <;> rfl
  | addIndex x =>
    show (machine.addToIndex x).display = machine.display
    unfold addToIndex
    split <;> rfl
  | draw x y rows =>
    show (machine.drawSprite x y rows).display = _
    rw [drawSprite_of_inside accepted]
    rfl
  | storeDecimal x =>
    show (machine.storeDecimal x).display = machine.display
    rw [storeDecimal_of_inside accepted]
    exact machine.display_of_data _ _ _ _ _ _ _ _ _
  | storeRegisters x =>
    show (machine.storeRegisters x).display = machine.display
    rw [storeRegisters_of_inside accepted, display_advanceIndex]
    exact machine.display_of_data _ _ _ _ _ _ _ _ _
  | loadRegisters x =>
    show (machine.loadRegisters x).display = machine.display
    rw [loadRegisters_of_inside accepted, display_advanceIndex]
    exact machine.display_of_data _ _ _ _ _ _ _ _ _
  | saveFlags x =>
    show (machine.saveFlags x).display = machine.display
    rw [saveFlags, if_neg (not_le_of_flagsFault? accepted)]
    exact machine.display_of_data _ _ _ _ _ _ _ _ _
  | restoreFlags x =>
    show (machine.restoreFlags x).display = machine.display
    rw [restoreFlags, if_neg (not_le_of_flagsFault? accepted)]
    exact machine.display_of_data _ _ _ _ _ _ _ _ _
  | clear => rfl
  | low => rfl
  | high => rfl
  | scrollDown rows => exact machine.display_of_screen _
  | scrollRight => exact machine.display_of_screen _
  | scrollLeft => exact machine.display_of_screen _
  | _ => exact machine.display_of_data _ _ _ _ _ _ _ _ _

/-! ## Histories -/

/-- What an instruction makes of the display has no lit pixel outside the active part. -/
theorem isInside_displayAfter (inside : Screen.IsInside machine.resolution machine.screen)
    (instruction : Instruction) :
    Screen.IsInside (machine.displayAfter instruction).1 (machine.displayAfter instruction).2 := by
  cases instruction with
  | clear => exact Screen.isInside_blank
  | low => exact Screen.isInside_blank
  | high => exact Screen.isInside_blank
  | scrollDown rows => exact Screen.isInside_scrollDown _
  | scrollRight => exact Screen.isInside_scrollRight
  | scrollLeft => exact Screen.isInside_scrollLeft
  | draw x y rows => exact inside.blit _ _ _ _ _
  | _ => exact inside

theorem isInside_step (inside : Screen.IsInside machine.resolution machine.screen) :
    Screen.IsInside machine.step.resolution machine.step.screen := by
  refine machine.step_elim ?stopped ?outside ?refused ?executed
  case stopped => exact fun _ => inside
  case outside => exact fun _ _ => inside
  case refused => exact fun _ _ _ _ _ => inside
  case executed =>
    intro _ _ instruction _ accepted
    have fetched : Screen.IsInside machine.fetched.resolution machine.fetched.screen := inside
    have after := isInside_displayAfter fetched instruction
    rw [← display_execute accepted] at after
    exact after

theorem isInvariant_isInside :
    IsInvariant fun machine => Screen.IsInside machine.resolution machine.screen where
  powerOn _ _ := Screen.isInside_blank
  step _ inside := isInside_step inside
  selectResolution _ _ _ := Screen.isInside_blank
  access _ _ _ _ _ _ _ inside := inside

/-- In the standard resolution no pixel outside the active part is lit on a reachable
machine.  So in either resolution the active part shows every lit pixel in its place, and
has as many lit pixels as the whole screen. -/
theorem active_part_shows_all (reachable : machine.IsReachable) :
    (machine.resolution = .standard → ∀ (px : Fin 128) (py : Fin 64),
      64 ≤ px.val ∨ 32 ≤ py.val → machine.screen.pixel px py = false) ∧
    (∀ (px : Fin 128) (py : Fin 64), machine.screen.pixel px py = true →
      ∃ x y, (machine.screen.active machine.resolution).pixel x y = true ∧
        x.val = px.val ∧ y.val = py.val) ∧
    (machine.screen.active machine.resolution).lit.card = machine.screen.lit.card := by
  have inside := isInvariant_isInside.of_isReachable reachable
  refine ⟨?_, ?_, ?_⟩
  · intro standard px py beyond
    apply inside px py
    rw [standard, Screen.isActive, Bool.and_eq_false_iff, decide_eq_false_iff_not,
      decide_eq_false_iff_not, Nat.not_lt, Nat.not_lt]
    exact beyond
  · intro px py lit
    obtain ⟨spot, lit, same⟩ := inside.exists_active lit
    obtain ⟨column, row⟩ := Prod.mk.inj same
    exact ⟨spot.1, spot.2, lit, congrArg Fin.val column, congrArg Fin.val row⟩
  · rw [← inside.map_lit_active, Finset.card_map]

/-- A row of eight pixels that is drawn across the right edge. -/
theorem wrapped_row_is_shown :
    let machine := (powerOn ⟨0, 0⟩ .standard).performAll
      [.load (.bytes [0xFF]) 0, .load (.bytes [0xD0, 0x01]) programStart, .setRegister 0 62, .step]
    machine.resolution = .standard ∧ machine.screen.pixel 0 30 = true ∧
      machine.screen.pixel 64 30 = false ∧
      (machine.screen.active machine.resolution).lit.card = machine.screen.lit.card := by
  intro machine
  let loaded : Machine := { powerOn ⟨0, 0⟩ .standard with
    memory := (Font.memory.write 0 [0xFF]).write 0x200 [0xD0, 0x01] }.write 0 62
  have stepped : machine = loaded.step := by
    show performAll _ _ = _
    rw [performAll_cons, performAll_cons, performAll_cons, performAll_cons, performAll_nil,
      show (0 : Int) = (0 : Nat) from rfl, perform_load_bytes _ (by decide),
      perform_load_bytes _ (by decide)]
    rfl
  have word : loaded.wordAtPc = 0xD001 :=
    (Font.memory.write 0 [0xFF]).wordAt_write (by decide) 0xD0 0x01
  have drawn : machine = loaded.fetched.executeWord 0xD001 := by
    rw [stepped, step_of_inside rfl (by decide), word]
  have reachable : machine.IsReachable := ⟨_, _, _, rfl⟩
  obtain ⟨outside, -, shown⟩ := active_part_shows_all reachable
  have standard : machine.resolution = .standard := by
    rw [drawn]
    decide +kernel
  have lit : machine.screen.pixel 0 30 = true := by
    rw [drawn]
    decide +kernel
  exact ⟨standard, lit, outside standard 64 30 (.inl (by decide)), shown⟩

end Machine

end Chip8
