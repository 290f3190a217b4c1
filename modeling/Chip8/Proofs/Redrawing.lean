/-
# Drawing again

A drawing switches the pixels of a mask.  The mask depends on the bytes at the index register
and on two registers, and a drawing changes none of these as long as neither register is the
flag register.  So drawings that follow each other can be taken in any order, and a drawing that
is repeated undoes itself.

The main result is `drawings_cancel_in_pairs`.
-/
import Mathlib.Algebra.BigOperators.Group.List.Lemmas
import Mathlib.Algebra.GroupWithZero.Nat
import Chip8.Proofs.Drawing
import Chip8.Proofs.Patterns

namespace Chip8

/-! ## Words that occur an odd number of times -/

/-- The words that occur an odd number of times in a list, each of them once. -/
def oddly (words : List Word) : List Word :=
  words.dedup.filter fun word => words.count word % 2 = 1

theorem sum_map_mod_two (words : List Word) (number : Word → Nat) :
    (words.map number).sum % 2 = words.countP (fun word => number word % 2 = 1) % 2 := by
  induction words with
  | nil => rfl
  | cons word words ih =>
    rw [List.map_cons, List.sum_cons, List.countP_cons]
    by_cases odd : number word % 2 = 1
    · simp only [odd, decide_true, if_true]
      omega
    · simp only [odd, decide_false, Bool.false_eq_true, if_false]
      omega

/-- A word that occurs an even number of times does not count for parity. -/
theorem countP_oddly_mod_two (words : List Word) (counts : Word → Bool) :
    (oddly words).countP counts % 2 = words.countP counts % 2 := by
  have swapped : (oddly words).countP counts =
      (words.dedup.filter counts).countP fun word => words.count word % 2 = 1 := by
    rw [oddly, List.countP_filter, List.countP_filter]
    simp only [Bool.and_comm]
  rw [swapped, ← sum_map_mod_two, List.sum_map_count_dedup_filter_eq_countP]

/-! ## Switching masks -/

namespace Bitmap

variable {width height : Nat}

/-- A pixel is switched as often as there are masks with the pixel. -/
theorem pixel_foldl_xor (masks : List (Bitmap width height)) (bitmap : Bitmap width height)
    (x : Fin width) (y : Fin height) :
    (masks.foldl Bitmap.xor bitmap).pixel x y =
      (bitmap.pixel x y ^^ decide (masks.countP (fun mask => mask.pixel x y) % 2 = 1)) := by
  induction masks generalizing bitmap with
  | nil => simp
  | cons mask masks ih =>
    rw [List.foldl_cons, ih, pixel_xor, List.countP_cons, Bool.xor_assoc]
    cases mask.pixel x y with
    | false => simp
    | true =>
      congr 1
      rcases Nat.mod_two_eq_zero_or_one (masks.countP fun mask => mask.pixel x y) with even | odd
      · simp [Nat.add_mod, even]
      · simp [Nat.add_mod, odd]

theorem foldl_xor_eq_of_parity {first second : List (Bitmap width height)}
    (same : ∀ x y, first.countP (fun mask => mask.pixel x y) % 2 =
      second.countP (fun mask => mask.pixel x y) % 2) (bitmap : Bitmap width height) :
    first.foldl Bitmap.xor bitmap = second.foldl Bitmap.xor bitmap := by
  ext x y
  rw [pixel_foldl_xor, pixel_foldl_xor, same]

theorem xor_xor_cancel (bitmap mask : Bitmap width height) :
    (bitmap.xor mask).xor mask = bitmap := by
  ext x y
  rw [pixel_xor, pixel_xor, Bool.xor_assoc, Bool.xor_self, Bool.xor_false]

/-- After a mask was switched, it lies over a lit pixel if it lay over an unlit one before. -/
theorem isLit_inter_xor_iff (bitmap mask : Bitmap width height) :
    ((bitmap.xor mask).inter mask).isLit = true ↔
      ∃ x y, mask.pixel x y = true ∧ bitmap.pixel x y = false := by
  rw [isLit_iff]
  refine exists_congr fun x => exists_congr fun y => ?_
  rw [pixel_inter, pixel_xor]
  cases bitmap.pixel x y <;> cases mask.pixel x y <;> decide

theorem isLit_inter_iff (bitmap mask : Bitmap width height) :
    (bitmap.inter mask).isLit = true ↔
      ∃ x y, mask.pixel x y = true ∧ bitmap.pixel x y = true := by
  rw [isLit_iff]
  refine exists_congr fun x => exists_congr fun y => ?_
  rw [pixel_inter, Bool.and_eq_true, And.comm]

/-- Each pixel of a mask falls on a lit or on an unlit pixel. -/
theorem exists_pixel_iff (bitmap mask : Bitmap width height) :
    (∃ x y, mask.pixel x y = true) ↔
      (∃ x y, mask.pixel x y = true ∧ bitmap.pixel x y = true) ∨
        ∃ x y, mask.pixel x y = true ∧ bitmap.pixel x y = false := by
  constructor
  · rintro ⟨x, y, covered⟩
    cases under : bitmap.pixel x y with
    | false => exact .inr ⟨x, y, covered, under⟩
    | true => exact .inl ⟨x, y, covered, under⟩
  · rintro (⟨x, y, covered, -⟩ | ⟨x, y, covered, -⟩) <;> exact ⟨x, y, covered⟩

end Bitmap

namespace Machine

variable {machine : Machine} {word : Word}

/-! ## Drawings that leave each other alone -/

/-- The bytes of the sprite that a word draws. -/
def spriteBytes (machine : Machine) (word : Word) : List UInt8 :=
  (machine.memory.toList.drop machine.index.toNat).take (spriteLength word.n)

/-- The pixels that a word switches when it draws. -/
def maskOf (machine : Machine) (word : Word) : Screen :=
  (Sprite.ofBytes (word.n.val == 0) (machine.spriteBytes word)).mask machine.resolution
    (machine.v word.x).toNat (machine.v word.y).toNat

/-- A word draws a sprite that lies in memory, at a position in which the flag register has no
part. -/
structure DrawsSteadily (machine : Machine) (word : Word) : Prop where
  draws : Operation.draw.Matches word
  column : word.x ≠ flagRegister
  row : word.y ≠ flagRegister
  fits : machine.index.toNat + spriteLength word.n ≤ 4096

/-- The machine with another screen and another report of a drawing. -/
def redrawn (machine : Machine) (screen : Screen) (collided : Bool) : Machine :=
  { machine with screen := screen }.writeFlag collided

/-- Execute words one after the other. -/
def executeAll (machine : Machine) (words : List Word) : Machine := words.foldl executeWord machine

theorem redrawn_redrawn (machine : Machine) (first second : Screen) (before after : Bool) :
    (machine.redrawn first before).redrawn second after = machine.redrawn second after := by
  simp [redrawn, writeFlag, write]

theorem v_redrawn (screen : Screen) (collided : Bool) {k : Register} (other : k ≠ flagRegister) :
    (machine.redrawn screen collided).v k = machine.v k := by
  rw [redrawn, writeFlag, v_write, if_neg other.symm]
  rfl

theorem v_flagRegister_redrawn (screen : Screen) (collided : Bool) :
    (machine.redrawn screen collided).v flagRegister = collided.toUInt8 := by
  rw [redrawn, writeFlag, v_write, if_pos rfl]

namespace DrawsSteadily

/-- Drawings keep a word steady. -/
theorem redrawn (steady : machine.DrawsSteadily word) (screen : Screen) (collided : Bool) :
    (machine.redrawn screen collided).DrawsSteadily word :=
  ⟨steady.draws, steady.column, steady.row, steady.fits⟩

theorem maskOf_redrawn (steady : machine.DrawsSteadily word) (screen : Screen) (collided : Bool) :
    (machine.redrawn screen collided).maskOf word = machine.maskOf word := by
  rw [maskOf, v_redrawn screen collided steady.column, v_redrawn screen collided steady.row]
  rfl

theorem executeWord_eq (steady : machine.DrawsSteadily word) :
    machine.executeWord word =
      machine.redrawn (machine.screen.xor (machine.maskOf word))
        (machine.screen.inter (machine.maskOf word)).isLit := by
  have inside : machine.rangeFault? (spriteLength word.n) = none :=
    if_neg (Nat.not_lt.mpr steady.fits)
  rw [steady.draws.executeWord_eq]
  show machine.drawSprite word.x word.y word.n = _
  rw [drawSprite_of_inside inside]
  simp only [blit_spriteTable machine word.n steady.fits, Screen.draw_eq]
  rfl

/-- The second drawing undoes the first one. -/
theorem executeWord_executeWord_eq (steady : machine.DrawsSteadily word) :
    (machine.executeWord word).executeWord word =
      machine.redrawn machine.screen
        ((machine.screen.xor (machine.maskOf word)).inter (machine.maskOf word)).isLit := by
  rw [steady.executeWord_eq, (steady.redrawn _ _).executeWord_eq, steady.maskOf_redrawn,
    redrawn_redrawn]
  show machine.redrawn ((machine.screen.xor (machine.maskOf word)).xor (machine.maskOf word)) _ = _
  rw [Bitmap.xor_xor_cancel]
  rfl

end DrawsSteadily

/-- Drawings that follow each other switch the masks that their words have at first. -/
theorem screen_executeAll {words : List Word}
    (steady : ∀ word ∈ words, machine.DrawsSteadily word) :
    (machine.executeAll words).screen =
      (words.map machine.maskOf).foldl Bitmap.xor machine.screen := by
  induction words generalizing machine with
  | nil => rfl
  | cons word words ih =>
    obtain ⟨first, others⟩ := List.forall_mem_cons.mp steady
    have next := first.executeWord_eq
    have masks : words.map (machine.executeWord word).maskOf = words.map machine.maskOf := by
      apply List.map_congr_left
      intro other member
      rw [next, (others other member).maskOf_redrawn]
    have drawn := ih fun other member => next ▸ (others other member).redrawn _ _
    rw [masks] at drawn
    rw [List.map_cons, List.foldl_cons]
    refine drawn.trans ?_
    rw [next]
    rfl

/-! ## What a drawing reports -/

theorem toUInt8_eq_one_iff (bit : Bool) : bit.toUInt8 = 1 ↔ bit = true := by
  cases bit <;> decide

theorem toUInt8_eq_zero_iff (bit : Bool) : bit.toUInt8 = 0 ↔ ¬ bit = true := by
  cases bit <;> decide

namespace DrawsSteadily

theorem rowCount_spriteBytes (steady : machine.DrawsSteadily word) :
    Sprite.rowCount (word.n.val == 0) (machine.spriteBytes word) = spriteHeight word.n := by
  have length : (machine.spriteBytes word).length = spriteLength word.n := by
    have fits := steady.fits
    rw [spriteBytes, List.length_take, List.length_drop, Vector.length_toList]
    omega
  unfold Sprite.rowCount
  rw [length]
  unfold spriteLength spriteHeight
  by_cases large : word.n.val = 0
  · simp [large]
  · simp [large]

/-- The mask of a word is blank when the rows of its sprite are. -/
theorem exists_pixel_maskOf_iff (steady : machine.DrawsSteadily word) :
    (∃ px py, (machine.maskOf word).pixel px py = true) ↔
      ∃ row < spriteHeight word.n,
        Sprite.rowBits (word.n.val == 0) (machine.spriteBytes word) row ≠ 0 := by
  have low : spriteHeight word.n ≤ machine.resolution.height := by
    unfold spriteHeight
    cases machine.resolution <;> simp only [Resolution.height] <;> split <;> omega
  rw [← steady.rowCount_spriteBytes] at low ⊢
  rw [← Sprite.exists_covers_iff low (machine.v word.x).toNat (machine.v word.y).toNat]
  refine exists_congr fun px => exists_congr fun py => ?_
  exact Sprite.pixel_mask_ofBytes_iff _ _ _ _ _ px py

end DrawsSteadily

/-- Drawing a sprite twice restores the screen, when the sprite lies in memory and is placed by
other registers than the flag register.  Apart from the flag register nothing is changed.  The
second drawing reports a collision just when the sprite has a pixel that was unlit at first,
and neither drawing reports one just when the sprite is blank.  After any list of such
drawings the screen has changed by the masks of the words that occur an odd number of times in
the list, so that the order of the list does not matter. -/
theorem drawings_cancel_in_pairs (machine : Machine) :
    (∀ word, machine.DrawsSteadily word →
      let once := machine.executeWord word
      let twice := once.executeWord word
      twice.screen = machine.screen ∧
      (twice.v flagRegister = 1 ↔ ∃ px py,
        (machine.maskOf word).pixel px py = true ∧ machine.screen.pixel px py = false) ∧
      (once.v flagRegister = 0 ∧ twice.v flagRegister = 0 ↔ ∀ row < spriteHeight word.n,
        Sprite.rowBits (word.n.val == 0) (machine.spriteBytes word) row = 0) ∧
      twice = machine.write flagRegister (twice.v flagRegister)) ∧
    ∀ words : List Word, (∀ word ∈ words, machine.DrawsSteadily word) →
      (machine.executeAll words).screen =
        ((oddly words).map machine.maskOf).foldl Bitmap.xor machine.screen ∧
      ∀ other : List Word, words.Perm other →
        (machine.executeAll other).screen = (machine.executeAll words).screen := by
  refine ⟨?twice, ?list⟩
  case twice =>
    intro word steady once twice
    have onceIs : once = _ := steady.executeWord_eq
    have twiceIs : twice = _ := steady.executeWord_executeWord_eq
    have first : once.v flagRegister = 0 ↔ ¬ ∃ px py,
        (machine.maskOf word).pixel px py = true ∧ machine.screen.pixel px py = true := by
      rw [onceIs, v_flagRegister_redrawn, toUInt8_eq_zero_iff, Bitmap.isLit_inter_iff]
    have second : twice.v flagRegister = 0 ↔ ¬ ∃ px py,
        (machine.maskOf word).pixel px py = true ∧ machine.screen.pixel px py = false := by
      rw [twiceIs, v_flagRegister_redrawn, toUInt8_eq_zero_iff, Bitmap.isLit_inter_xor_iff]
    refine ⟨?_, ?_, ?_, ?_⟩
    · rw [twiceIs]
      rfl
    · rw [twiceIs, v_flagRegister_redrawn, toUInt8_eq_one_iff, Bitmap.isLit_inter_xor_iff]
    · rw [first, second, ← not_or, ← Bitmap.exists_pixel_iff, steady.exists_pixel_maskOf_iff]
      simp only [not_exists, not_and, not_not]
    · rw [twiceIs, v_flagRegister_redrawn]
      rfl
  case list =>
    intro words steady
    refine ⟨?_, ?_⟩
    · rw [screen_executeAll steady]
      apply Bitmap.foldl_xor_eq_of_parity
      intro x y
      rw [List.countP_map, List.countP_map, countP_oddly_mod_two]
    · intro other permuted
      rw [screen_executeAll steady,
        screen_executeAll fun word member => steady word (permuted.mem_iff.mpr member)]
      apply Bitmap.foldl_xor_eq_of_parity
      intro x y
      rw [(permuted.map machine.maskOf).countP_eq]

/-- Two words that draw a pixel of their own, one of them twice. -/
theorem repeated_drawing_leaves_other :
    let machine : Machine :=
      { powerOn ⟨0, 0⟩ .standard with
        memory := Memory.zero.write 0x300 [0x80]
        index := 0x300
        registers := #v[63, 0, 31, 0, 0, 0, 0, 0, 0, 0, 0, 0, 0, 0, 0, 0] }
    ((machine.executeWord 0xD011).executeWord 0xD011).screen = machine.screen ∧
    (machine.executeAll [0xD011, 0xD021, 0xD011]).screen =
      machine.screen.xor (machine.maskOf 0xD021) ∧
    (machine.executeAll [0xD011, 0xD011, 0xD021]).screen =
      (machine.executeAll [0xD011, 0xD021, 0xD011]).screen := by
  intro machine
  have drawsFirst : Operation.draw.Matches 0xD011 := ⟨⟨Word.fields 0xD011, rfl⟩, nofun⟩
  have drawsSecond : Operation.draw.Matches 0xD021 := ⟨⟨Word.fields 0xD021, rfl⟩, nofun⟩
  have first : machine.DrawsSteadily 0xD011 :=
    ⟨drawsFirst, by decide, by decide, by decide⟩
  have second : machine.DrawsSteadily 0xD021 :=
    ⟨drawsSecond, by decide, by decide, by decide⟩
  obtain ⟨twice, list⟩ := drawings_cancel_in_pairs machine
  obtain ⟨cancels, permutes⟩ := list [0xD011, 0xD021, 0xD011] (by
    intro word member
    simp only [List.mem_cons, List.not_mem_nil, or_false] at member
    rcases member with rfl | rfl | rfl
    · exact first
    · exact second
    · exact first)
  have odd : oddly [0xD011, 0xD021, 0xD011] = [0xD021] := by decide
  rw [odd] at cancels
  exact ⟨(twice 0xD011 first).1, cancels, permutes _ (.cons _ (.swap _ _ _))⟩

end Machine

end Chip8
