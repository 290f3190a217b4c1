/-
# Drawing

A host hands over the bytes of a sprite; the draw instruction finds them at the index
register, where it reads as many bytes as the largest sprite has and draws as many rows
as its digit says.  Both end in the same drawing.

There are two main results.  What a host's bytes do to the screen is said pixel by pixel
in `drawNumbers_switches_mask`, and `executeWord_draws_as_host` says that the instruction
does the same with the bytes at the index register.
-/
import Chip8.Machine.Access
import Chip8.Proofs.Control
import Chip8.Proofs.Sprite

namespace Chip8

namespace Machine

/-- A host draws the sprite that its numbers make, wherever it asks for it. -/
theorem drawNumbers_eq_ok (machine : Machine) {x y : Int} (xHeld : Width.signed32.Holds x)
    (yHeld : Width.signed32.Holds y) {wide : Bool} {numbers : List Int} {sprite : Sprite}
    (made : Sprite.ofNumbers wide numbers = .ok sprite) :
    machine.drawNumbers x y wide numbers =
      .ok ({ machine with screen := (machine.screen.draw machine.resolution x y sprite).1 },
        (machine.screen.draw machine.resolution x y sprite).2) := by
  have xChecked := (Width.check_eq_ok_iff _ _).mpr xHeld
  have yChecked := (Width.check_eq_ok_iff _ _).mpr yHeld
  rw [drawNumbers, made, xChecked, yChecked]
  show (if sprite.rows.isEmpty then _ else _) = _
  split
  case isTrue unused =>
    rw [Screen.draw_of_rows_eq_nil _ _ _ _ (List.isEmpty_iff.mp unused)]
    rfl
  case isFalse => rfl

theorem drawNumbers_bytes (machine : Machine) {x y : Int} (xHeld : Width.signed32.Holds x)
    (yHeld : Width.signed32.Holds y) {wide : Bool} {bytes : List UInt8}
    (paired : wide = true → bytes.length % 2 = 0) :
    machine.drawNumbers x y wide (bytes.map fun byte => (byte.toNat : Int)) =
      .ok ({ machine with
          screen := (machine.screen.draw machine.resolution x y (.ofBytes wide bytes)).1 },
        (machine.screen.draw machine.resolution x y (.ofBytes wide bytes)).2) :=
  machine.drawNumbers_eq_ok xHeld yHeld (Sprite.ofNumbers_bytes paired)

/-- A host that drew a sprite finds each pixel that the sprite covers switched, in the same
resolution, and is told of a collision if the pixel was lit. -/
theorem switched_of_drawNumbers {machine after : Machine} {x y : Int} {wide collided : Bool}
    {numbers : List Int} {sprite : Sprite} (xHeld : Width.signed32.Holds x)
    (yHeld : Width.signed32.Holds y) (made : Sprite.ofNumbers wide numbers = .ok sprite)
    (drawn : machine.drawNumbers x y wide numbers = .ok (after, collided)) {px : Fin 128}
    {py : Fin 64} (covered : (sprite.mask machine.resolution x y).pixel px py = true) :
    after.resolution = machine.resolution ∧
      after.screen.pixel px py = !machine.screen.pixel px py ∧
      (machine.screen.pixel px py = true → collided = true) := by
  rw [machine.drawNumbers_eq_ok xHeld yHeld made] at drawn
  cases drawn
  have switched := Screen.pixel_draw machine.screen machine.resolution x y sprite px py
  rw [covered, Bool.xor_true] at switched
  refine ⟨rfl, switched, fun lit => ?_⟩
  rw [Screen.draw_collides_iff]
  exact ⟨px, py, lit, by rw [switched, lit]; rfl⟩

/-- A host's sprite switches the pixels that it covers, wherever the host asks for it, and
reports a collision exactly when a lit pixel goes out.  Pixels outside the active part
of the screen stay as they are, rows beyond its height do not show, and a sprite without
bytes does nothing. -/
theorem drawNumbers_switches_mask (machine : Machine) {x y : Int}
    (xHeld : Width.signed32.Holds x) (yHeld : Width.signed32.Holds y) {wide : Bool}
    {bytes : List UInt8} (paired : wide = true → bytes.length % 2 = 0) :
    ∃ (mask : Screen) (collided : Bool),
      machine.drawNumbers x y wide (bytes.map fun byte => (byte.toNat : Int)) =
        .ok ({ machine with screen := machine.screen.xor mask }, collided) ∧
      (∀ px py, mask.pixel px py = true ↔
        Sprite.Covers machine.resolution wide bytes x y px py) ∧
      (collided = true ↔ ∃ px py, machine.screen.pixel px py = true ∧
        (machine.screen.xor mask).pixel px py = false) ∧
      (∀ px py, Screen.isActive machine.resolution px py = false →
        (machine.screen.xor mask).pixel px py = machine.screen.pixel px py) ∧
      machine.drawNumbers x y wide
          ((bytes.take (machine.resolution.height * if wide then 2 else 1)).map
            fun byte => (byte.toNat : Int)) =
        .ok ({ machine with screen := machine.screen.xor mask }, collided) ∧
      (bytes = [] → machine.screen.xor mask = machine.screen ∧ collided = false) := by
  have drawn := Screen.draw_eq machine.screen machine.resolution x y (.ofBytes wide bytes)
  refine ⟨(Sprite.ofBytes wide bytes).mask machine.resolution x y,
    (machine.screen.draw machine.resolution x y (.ofBytes wide bytes)).2, ?_, ?_, ?_, ?_, ?_, ?_⟩
  · rw [drawNumbers_bytes machine xHeld yHeld paired, drawn]
  · exact Sprite.pixel_mask_ofBytes_iff machine.resolution wide bytes x y
  · rw [Screen.draw_collides_iff, drawn]
  · intro px py outside
    rw [Bitmap.pixel_xor, Sprite.pixel_mask_of_not_active _ _ _ outside, Bool.xor_false]
  · have takenPaired : wide = true →
        (bytes.take (machine.resolution.height * if wide then 2 else 1)).length % 2 = 0 := by
      rintro rfl
      have even := paired rfl
      rw [List.length_take, if_pos rfl]
      omega
    rw [drawNumbers_bytes machine xHeld yHeld takenPaired, Screen.draw_eq,
      Sprite.mask_ofBytes_take, drawn]
  · rintro rfl
    have unused : (Sprite.ofBytes wide []).rows = [] := by cases wide <;> rfl
    rw [Screen.draw_of_rows_eq_nil _ _ _ _ unused, Prod.mk.injEq] at drawn
    rw [Screen.draw_of_rows_eq_nil _ _ _ _ unused]
    exact ⟨drawn.1.symm, rfl⟩

/-- A wide sprite whose corner lies left of the screen, over one lit pixel. -/
theorem wide_sprite_comes_in_on_the_right :
    let machine : Machine := { powerOn ⟨0, 0⟩ .standard with
      screen := Bitmap.ofPixels fun px py => px.val == 61 && py.val == 31 }
    ∃ (mask : Screen) (collided : Bool),
      machine.drawNumbers (-3) 0x7FFFFFFF true [0x80, 0x01] =
        .ok ({ machine with screen := machine.screen.xor mask }, collided) ∧
      mask.pixel ⟨61, by decide⟩ ⟨31, by decide⟩ = true ∧
      mask.pixel ⟨12, by decide⟩ ⟨31, by decide⟩ = true ∧ collided = true := by
  intro machine
  have xHeld : Width.signed32.Holds (-3) := by decide
  have yHeld : Width.signed32.Holds 0x7FFFFFFF := by decide
  have paired : true = true → ([0x80, 0x01] : List UInt8).length % 2 = 0 := fun _ => rfl
  obtain ⟨mask, collided, drawn, covers, collides, -⟩ :=
    drawNumbers_switches_mask machine xHeld yHeld paired
  have first := (covers ⟨61, by decide⟩ ⟨31, by decide⟩).mpr
    ⟨by decide, by decide, 0, 0, by decide, by decide, by decide, by decide, by decide⟩
  have last := (covers ⟨12, by decide⟩ ⟨31, by decide⟩).mpr
    ⟨by decide, by decide, 15, 0, by decide, by decide, by decide, by decide, by decide⟩
  have lit : machine.screen.pixel ⟨61, by decide⟩ ⟨31, by decide⟩ = true :=
    Bitmap.pixel_ofPixels _ _ _
  refine ⟨mask, collided, drawn, first, last, collides.mpr ⟨_, _, lit, ?_⟩⟩
  rw [Bitmap.pixel_xor, lit, first]
  rfl

/-! ## The draw instruction -/

/-- The rows of the table that are drawn are those of the announced sprite, whose bytes all
lie in memory. -/
theorem blit_spriteTable (machine : Machine) (rows : Fin 16)
    (fits : machine.index.toNat + spriteLength rows ≤ 4096) (x y : Int) :
    machine.screen.blit machine.resolution x y (machine.spriteTable rows).rows
        (spriteHeight rows) (machine.spriteTable rows).width =
      machine.screen.draw machine.resolution x y (.ofBytes (rows.val == 0)
        ((machine.memory.toList.drop machine.index.toNat).take (spriteLength rows))) := by
  rw [← machine.memory.span_eq_take_drop fits]
  by_cases large : rows.val = 0
  · have length : spriteLength rows = 32 := if_pos large
    have table : machine.spriteTable rows =
        .ofBytes true (machine.memory.span machine.index.toNat 32) := if_pos large
    have height : (Sprite.ofBytes true (machine.memory.span machine.index.toNat 32)).rows.length =
        spriteHeight rows := by
      rw [Sprite.length_rows_ofBytes, spriteHeight, if_pos large]
      simp [Sprite.rowCount, Memory.span]
    rw [beq_iff_eq.mpr large, length, table, Screen.draw, height]
  · have length : spriteLength rows = rows.val := if_neg large
    have table : machine.spriteTable rows =
        .ofBytes false ((machine.memory.span machine.index.toNat 32).take 16) := if_neg large
    have height : spriteHeight rows = rows.val := if_neg large
    have drawn : (Sprite.ofBytes false (machine.memory.span machine.index.toNat rows.val)).rows =
        (machine.spriteTable rows).rows.take rows.val := by
      rw [table]
      show List.map _ _ = (List.map _ _).take rows.val
      rw [← List.map_take, List.take_take, Nat.min_eq_left (by omega),
        Memory.take_span _ _ (by omega)]
    have tall : (machine.spriteTable rows).rows.length = 16 := by
      rw [table, Sprite.length_rows_ofBytes]
      simp [Sprite.rowCount, Memory.span]
    have count : ((machine.spriteTable rows).rows.take rows.val).length = rows.val := by
      rw [List.length_take, tall]
      omega
    rw [beq_eq_false_iff_ne.mpr large, length, height, Screen.draw, drawn, count, Screen.blit,
      Screen.blit, Screen.covered_take (by omega), table]
    rfl

/-- The draw instruction draws what a host draws from the bytes at the index register, at
the position that its two registers name before the collision is written.  It changes
the screen and the flag register only. -/
theorem executeWord_draws_as_host (machine : Machine) {word : Word}
    (family : word.family.val = 0xD)
    (fits : machine.index.toNat + spriteLength word.n ≤ 4096) :
    ∃ (screen : Screen) (collided : Bool),
      machine.drawNumbers (machine.v word.x).toNat (machine.v word.y).toNat (word.n.val == 0)
          (((machine.memory.toList.drop machine.index.toNat).take (spriteLength word.n)).map
            fun byte => (byte.toNat : Int)) =
        .ok ({ machine with screen := screen }, collided) ∧
      machine.executeWord word = { machine with screen := screen }.writeFlag collided ∧
      (machine.executeWord word).v flagRegister = collided.toUInt8 ∧
      ∀ k, k ≠ flagRegister → (machine.executeWord word).v k = machine.v k := by
  have paired : (word.n.val == 0) = true →
      ((machine.memory.toList.drop machine.index.toNat).take (spriteLength word.n)).length % 2 =
        0 := by
    intro large
    have length : spriteLength word.n = 32 := if_pos (beq_iff_eq.mp large)
    rw [List.length_take, List.length_drop, Vector.length_toList]
    omega
  have accepted : machine.rangeFault? (spriteLength word.n) = none := if_neg (by omega)
  have drawn := drawNumbers_bytes machine (Width.signed32_holds_byte (machine.v word.x))
    (Width.signed32_holds_byte (machine.v word.y)) paired
  have executed : machine.executeWord word = machine.drawSprite word.x word.y word.n := by
    rw [executeWord, Instruction.decode_draw family]
    rfl
  rw [drawSprite_of_inside accepted] at executed
  simp only [blit_spriteTable machine word.n fits] at executed
  refine ⟨_, _, drawn, executed, ?_, ?_⟩
  · rw [executed, writeFlag, v_write, if_pos rfl]
  · intro k other
    have kept (screen : Screen) : v { machine with screen := screen } k = machine.v k := rfl
    rw [executed, writeFlag, v_write, if_neg (Ne.symm other), kept]

/-- A sprite of one row in the last byte of the memory, drawn at the flag register.  It puts one
pixel out and lights the one beside it, and the register becomes one. -/
theorem executeWord_draws_last_byte :
    let machine : Machine := { powerOn ⟨0, 0⟩ .standard with
      memory := Memory.zero.write 0xFFF [0xC0]
      index := 0xFFF
      registers := Vector.replicate 16 62
      screen := Bitmap.ofPixels fun px py => px.val == 62 && py.val == 30 }
    ∃ (screen : Screen) (collided : Bool),
      machine.drawNumbers 62 62 false [0xC0] = .ok ({ machine with screen := screen }, collided) ∧
      machine.executeWord 0xDFF1 = { machine with screen := screen }.writeFlag collided ∧
      screen.pixel ⟨62, by decide⟩ ⟨30, by decide⟩ = false ∧
      screen.pixel ⟨63, by decide⟩ ⟨30, by decide⟩ = true ∧
      collided = true ∧ (machine.executeWord 0xDFF1).v flagRegister = 1 := by
  intro machine
  have bytes : ((machine.memory.toList.drop machine.index.toNat).take
      (spriteLength (Word.n 0xDFF1))).map (fun byte => (byte.toNat : Int)) = [0xC0] := by
    decide +kernel
  have family : (Word.family 0xDFF1).val = 0xD := rfl
  have fits : machine.index.toNat + spriteLength (Word.n 0xDFF1) ≤ 4096 := by decide
  obtain ⟨screen, collided, drawn, executed, flag, -⟩ :=
    executeWord_draws_as_host machine family fits
  rw [bytes] at drawn
  have made : Sprite.ofNumbers false [0xC0] = .ok ⟨false, [0xC0]⟩ := rfl
  have held : Width.signed32.Holds 62 := by decide
  have standard : machine.resolution = .standard := rfl
  have covered (px : Fin 128) (struck : px.val = 62 ∨ px.val = 63) :
      (Sprite.mask ⟨false, [0xC0]⟩ machine.resolution 62 62).pixel px ⟨30, by decide⟩ = true := by
    rw [standard, Sprite.mask, Bitmap.pixel_ofPixels]
    decide +revert
  have lit : machine.screen.pixel ⟨62, by decide⟩ ⟨30, by decide⟩ = true :=
    Bitmap.pixel_ofPixels _ _ _
  have dark : machine.screen.pixel ⟨63, by decide⟩ ⟨30, by decide⟩ = false :=
    Bitmap.pixel_ofPixels _ _ _
  obtain ⟨-, out, hit⟩ :=
    switched_of_drawNumbers held held made drawn (covered ⟨62, by decide⟩ (.inl rfl))
  obtain ⟨-, beside, -⟩ :=
    switched_of_drawNumbers held held made drawn (covered ⟨63, by decide⟩ (.inr rfl))
  rw [lit] at out
  rw [dark] at beside
  refine ⟨screen, collided, drawn, executed, out, beside, hit lit, ?_⟩
  rw [flag, hit lit]
  rfl

end Machine

end Chip8
