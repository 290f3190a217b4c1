/-
# Arithmetic over the whole numbers

The operations on two registers keep eight bits of what they compute, and most of them report
in the flag register what else there is to know.  `Arithmetic.Computes` says what that means
without a bound: one equation between whole numbers for a sum, a difference or a shift, and one
rule for the bits of a logic operation.

The main result is `executeWord_computes_over_integers`.  It holds for any two registers, also
when they are the same one or when one of them is the flag register itself.
-/
import Chip8.Proofs.Operands
import Chip8.Proofs.Patterns

namespace Chip8

/-! ## What an operation computes -/

/-- The register value that a shift shifts. -/
def Dialect.shifted (dialect : Dialect) (a b : UInt8) : UInt8 :=
  if dialect.shiftReadsVY then b else a

/-- What a logic operation reports. -/
def Dialect.cleared (dialect : Dialect) : Option Bool :=
  if dialect.logicClearsVF then some false else none

namespace Arithmetic

/-- Whether a value and a flag, if one is reported, are what an operation computes from `a` and
`b`.  A flag counts as one or zero.  A sum and a shift report what does not fit into the value,
a difference that nothing had to be borrowed. -/
inductive Computes (dialect : Dialect) (a b value : UInt8) (flag : Option Bool) :
    Arithmetic → Prop
  | load (unreported : flag = none) (same : value = b) : Computes dialect a b value flag .load
  | or (reported : flag = dialect.cleared)
      (bits : ∀ i, value.toNat.testBit i = (a.toNat.testBit i || b.toNat.testBit i)) :
      Computes dialect a b value flag .or
  | and (reported : flag = dialect.cleared)
      (bits : ∀ i, value.toNat.testBit i = (a.toNat.testBit i && b.toNat.testBit i)) :
      Computes dialect a b value flag .and
  | xor (reported : flag = dialect.cleared)
      (bits : ∀ i, value.toNat.testBit i = (a.toNat.testBit i ^^ b.toNat.testBit i)) :
      Computes dialect a b value flag .xor
  | add (carry : Bool) (reported : flag = some carry)
      (sum : (256 * carry.toNat + value.toNat : Int) = a.toNat + b.toNat) :
      Computes dialect a b value flag .add
  | subtract (kept : Bool) (reported : flag = some kept)
      (difference : (value.toNat : Int) = a.toNat - b.toNat + 256 * (1 - kept.toNat)) :
      Computes dialect a b value flag .subtract
  | shiftRight (lost : Bool) (reported : flag = some lost)
      (double : (2 * value.toNat + lost.toNat : Int) = (dialect.shifted a b).toNat) :
      Computes dialect a b value flag .shiftRight
  | subtractFrom (kept : Bool) (reported : flag = some kept)
      (difference : (value.toNat : Int) = b.toNat - a.toNat + 256 * (1 - kept.toNat)) :
      Computes dialect a b value flag .subtractFrom
  | shiftLeft (lost : Bool) (reported : flag = some lost)
      (double : (256 * lost.toNat + value.toNat : Int) = 2 * (dialect.shifted a b).toNat) :
      Computes dialect a b value flag .shiftLeft

variable {dialect : Dialect} {a b value : UInt8} {flag : Option Bool}

theorem Computes.exists_carry (computes : Arithmetic.add.Computes dialect a b value flag) :
    ∃ carry, flag = some carry ∧
      (256 * carry.toNat + value.toNat : Int) = a.toNat + b.toNat := by
  cases computes with
  | add carry reported sum => exact ⟨carry, reported, sum⟩

theorem Computes.exists_kept (computes : Arithmetic.subtract.Computes dialect a b value flag) :
    ∃ kept, flag = some kept ∧
      (value.toNat : Int) = a.toNat - b.toNat + 256 * (1 - kept.toNat) := by
  cases computes with
  | subtract kept reported difference => exact ⟨kept, reported, difference⟩

/-! ## What is kept and what is reported -/

theorem toNat_toUInt8 (bit : Bool) : bit.toUInt8.toNat = bit.toNat := by
  cases bit <;> rfl

theorem toNat_decide (p : Prop) [Decidable p] : (decide p).toNat = if p then 1 else 0 := by
  by_cases holds : p
  · rw [decide_eq_true holds, if_pos holds, Bool.toNat_true]
  · rw [decide_eq_false holds, if_neg holds, Bool.toNat_false]

theorem add_toNat_add (a b : UInt8) :
    (256 * (decide (255 < a.toNat + b.toNat)).toNat + (a + b).toNat : Int) =
      a.toNat + b.toNat := by
  have aBound := a.toNat_lt
  have bBound := b.toNat_lt
  rw [UInt8.toNat_add, toNat_decide]
  split <;> omega

theorem toNat_sub_eq (a b : UInt8) :
    ((a - b).toNat : Int) = a.toNat - b.toNat + 256 * (1 - (decide (b ≤ a)).toNat) := by
  have aBound := a.toNat_lt
  have bBound := b.toNat_lt
  simp only [UInt8.toNat_sub, toNat_decide, UInt8.le_iff_toNat_le]
  split <;> omega

/-- The bit that falls out on the right. -/
theorem and_one_eq (a : UInt8) : a &&& 1 = (decide (a.toNat % 2 = 1)).toUInt8 := by
  rw [← UInt8.toNat_inj, UInt8.toNat_and, toNat_toUInt8, toNat_decide]
  show a.toNat &&& 1 = _
  rw [Nat.and_one_is_mod]
  split <;> omega

theorem double_shiftRight (a : UInt8) :
    (2 * (a >>> 1).toNat + (decide (a.toNat % 2 = 1)).toNat : Int) = a.toNat := by
  have half : (a >>> 1).toNat = a.toNat / 2 := by
    rw [UInt8.toNat_shiftRight]
    exact Nat.shiftRight_eq_div_pow a.toNat 1
  rw [half, toNat_decide]
  split <;> omega

/-- The bit that falls out on the left. -/
theorem shiftRight_seven_eq (a : UInt8) : a >>> 7 = (decide (127 < a.toNat)).toUInt8 := by
  have bound := a.toNat_lt
  have high : (a >>> 7).toNat = a.toNat / 128 := by
    rw [UInt8.toNat_shiftRight]
    exact Nat.shiftRight_eq_div_pow a.toNat 7
  rw [← UInt8.toNat_inj, high, toNat_toUInt8, toNat_decide]
  split <;> omega

theorem add_toNat_shiftLeft (a : UInt8) :
    (256 * (decide (127 < a.toNat)).toNat + (a <<< 1).toNat : Int) = 2 * a.toNat := by
  have bound := a.toNat_lt
  have low : (a <<< 1).toNat = a.toNat * 2 % 256 := by
    rw [UInt8.toNat_shiftLeft]
    exact congrArg (· % 256) (Nat.shiftLeft_eq a.toNat 1)
  rw [low, toNat_decide]
  split <;> omega

/-- The value and the flag of an operation are what it computes. -/
theorem exists_computes (operation : Arithmetic) (dialect : Dialect) (a b : UInt8) :
    ∃ value flag, operation.Computes dialect a b value flag ∧
      operation.apply dialect a b = (value, flag.map Bool.toUInt8) := by
  have cleared : (if dialect.logicClearsVF then some 0 else none) =
      dialect.cleared.map Bool.toUInt8 := by
    unfold Dialect.cleared
    split <;> rfl
  cases operation with
  | load => exact ⟨_, none, .load rfl rfl, rfl⟩
  | or =>
    refine ⟨_, _, .or rfl fun i => ?_, congrArg _ cleared⟩
    rw [UInt8.toNat_or, Nat.testBit_or]
  | and =>
    refine ⟨_, _, .and rfl fun i => ?_, congrArg _ cleared⟩
    rw [UInt8.toNat_and, Nat.testBit_and]
  | xor =>
    refine ⟨_, _, .xor rfl fun i => ?_, congrArg _ cleared⟩
    rw [UInt8.toNat_xor, Nat.testBit_xor]
  | add => exact ⟨_, _, .add _ rfl (add_toNat_add a b), rfl⟩
  | subtract => exact ⟨_, _, .subtract _ rfl (toNat_sub_eq a b), rfl⟩
  | shiftRight =>
    exact ⟨_, _, .shiftRight _ rfl (double_shiftRight _), congrArg (_, some ·) (and_one_eq _)⟩
  | subtractFrom => exact ⟨_, _, .subtractFrom _ rfl (toNat_sub_eq b a), rfl⟩
  | shiftLeft =>
    exact ⟨_, _, .shiftLeft _ rfl (add_toNat_shiftLeft _),
      congrArg (_, some ·) (shiftRight_seven_eq _)⟩

/-- A sum less its second part is its first part, and borrows just when the sum had a carry. -/
theorem difference_of_sum {a b total rest : UInt8} {carry kept : Bool}
    (sum : (256 * carry.toNat + total.toNat : Int) = a.toNat + b.toNat)
    (difference : (rest.toNat : Int) = total.toNat - b.toNat + 256 * (1 - kept.toNat)) :
    rest = a ∧ kept.toUInt8 = 1 - carry.toUInt8 := by
  have aBound := a.toNat_lt
  have restBound := rest.toNat_lt
  rw [← UInt8.toNat_inj]
  cases carry <;> cases kept <;> simp only [Bool.toNat_true, Bool.toNat_false] at sum difference
  case false.true | true.false => exact ⟨by omega, rfl⟩
  all_goals omega

end Arithmetic

namespace Machine

variable {machine : Machine} {operation : Arithmetic} {word : Word}

/-! ## What an operation writes -/

/-- The next machine has a value in a register and then a flag, if one is reported, in the flag
register.  All its other registers and parts are as before. -/
structure HasWritten (machine : Machine) (x : Register) (value : UInt8) (flag : Option Bool)
    (next : Machine) : Prop where
  reported : ∀ bit, flag = some bit → next.v flagRegister = bit.toUInt8
  stored : x ≠ flagRegister ∨ flag = none → next.v x = value
  others : ∀ k, k ≠ x → k ≠ flagRegister ∨ flag = none → next.v k = machine.v k
  parts : next = { machine with registers := next.registers }

theorem hasWritten_combine {x y : Register} {value : UInt8} {flag : Option Bool}
    (applied : operation.apply machine.dialect (machine.v x) (machine.v y) =
      (value, flag.map Bool.toUInt8)) :
    machine.HasWritten x value flag (machine.combine operation x y) := by
  cases flag with
  | none =>
    have combined : machine.combine operation x y = machine.write x value := by
      rw [combine, applied]
      rfl
    refine ⟨?_, fun _ => ?_, fun k other _ => ?_, machine.combine_eq operation x y⟩
    · intro bit unwritten
      exact absurd unwritten.symm (Option.some_ne_none bit)
    · rw [combined, v_write, if_pos rfl]
    · rw [combined, v_write, if_neg (Ne.symm other)]
  | some bit =>
    have combined : machine.combine operation x y = (machine.write x value).writeFlag bit := by
      rw [combine, applied]
      rfl
    refine ⟨?_, fun apart => ?_, fun k other apart => ?_, machine.combine_eq operation x y⟩
    · intro written same
      obtain rfl := Option.some.inj same
      rw [combined, writeFlag, v_write, if_pos rfl]
    · have apart : x ≠ flagRegister := apart.resolve_right (Option.some_ne_none bit)
      rw [combined, writeFlag, v_write, if_neg apart.symm, v_write, if_pos rfl]
    · have apart : k ≠ flagRegister := apart.resolve_right (Option.some_ne_none bit)
      rw [combined, writeFlag, v_write, if_neg apart.symm, v_write, if_neg (Ne.symm other)]

theorem exists_hasWritten (machine : Machine)
    (matched : (Operation.arithmetic operation).Matches word) :
    ∃ value flag, operation.Computes machine.dialect (machine.v word.x) (machine.v word.y)
        value flag ∧
      machine.HasWritten word.x value flag (machine.executeWord word) := by
  obtain ⟨value, flag, computes, applied⟩ :=
    operation.exists_computes machine.dialect (machine.v word.x) (machine.v word.y)
  refine ⟨value, flag, computes, ?_⟩
  rw [matched.executeWord_eq]
  exact hasWritten_combine applied

/-- An operation on two registers writes to the first one what it computes from both over the
whole numbers, and then to the flag register what it reports.  Nothing else changes, and the
registers are read before either is written, so that nothing is asked of them.  For three
different registers, taking the second one off again restores all but the flag register, which
then holds one without the carry of the sum. -/
theorem executeWord_computes_over_integers (machine : Machine) :
    (∀ (operation : Arithmetic) (word : Word), (Operation.arithmetic operation).Matches word →
      ∃ value flag, operation.Computes machine.dialect (machine.v word.x) (machine.v word.y)
          value flag ∧
        machine.HasWritten word.x value flag (machine.executeWord word)) ∧
    ∀ sum difference : Word, (Operation.arithmetic .add).Matches sum →
      (Operation.arithmetic .subtract).Matches difference →
      difference.x = sum.x → difference.y = sum.y →
      sum.x ≠ sum.y → sum.x ≠ flagRegister → sum.y ≠ flagRegister →
      (machine.executeWord sum).executeWord difference =
        machine.write flagRegister (1 - (machine.executeWord sum).v flagRegister) := by
  refine ⟨fun operation word matched => machine.exists_hasWritten matched, ?_⟩
  intro sum difference adds subtracts sameX sameY distinct xApart yApart
  obtain ⟨total, _, computesSum, added⟩ := machine.exists_hasWritten adds
  obtain ⟨rest, _, computesRest, subtracted⟩ :=
    (machine.executeWord sum).exists_hasWritten subtracts
  rw [sameX, sameY, added.stored (.inl xApart), added.others _ distinct.symm (.inl yApart)]
    at computesRest
  rw [sameX] at subtracted
  obtain ⟨carry, carried, sumIs⟩ := computesSum.exists_carry
  obtain ⟨kept, reported, restIs⟩ := computesRest.exists_kept
  obtain ⟨restored, flag⟩ := Arithmetic.difference_of_sum sumIs restIs
  have registers : ((machine.executeWord sum).executeWord difference).registers =
      (machine.write flagRegister (1 - (machine.executeWord sum).v flagRegister)).registers := by
    apply registers_eq_of_v
    intro k
    rw [v_write, added.reported carry carried, ← flag]
    split
    case isTrue here => rw [← here, subtracted.reported kept reported]
    case isFalse other =>
      have apart := Ne.symm other
      by_cases first : k = sum.x
      · rw [first, subtracted.stored (.inl xApart), restored]
      · rw [subtracted.others k first (.inl apart), added.others k first (.inl apart)]
  rw [subtracted.parts, registers, added.parts]
  rfl

/-- A sum into the flag register itself, a shift of one register into another, and a sum that
overflows and is taken back. -/
theorem overflowing_sum_is_taken_back :
    let machine : Machine :=
      { powerOn ⟨0, 0⟩ .classic with
        memory := Memory.zero
        registers := #v[0xC8, 0x64, 0, 0, 0, 0, 0, 0, 0, 0, 0, 0, 0, 0, 0, 0xFF] }
    (∃ value flag, Arithmetic.add.Computes .classic 0xFF 0xC8 value flag ∧
      machine.HasWritten flagRegister value flag (machine.executeWord 0x8F04)) ∧
    (∃ value flag, Arithmetic.shiftLeft.Computes .classic 0xC8 0x64 value flag ∧
      machine.HasWritten ⟨0, by decide⟩ value flag (machine.executeWord 0x801E)) ∧
    (machine.executeWord 0x8014).v flagRegister = 1 ∧
    (machine.executeWord 0x8014).executeWord 0x8015 = machine.write flagRegister 0 := by
  intro machine
  obtain ⟨computes, takenBack⟩ := executeWord_computes_over_integers machine
  have carried : (machine.executeWord 0x8014).v flagRegister = 1 := by decide +kernel
  refine ⟨computes .add 0x8F04 ⟨⟨Word.fields 0x8F04, rfl⟩, nofun⟩,
    computes .shiftLeft 0x801E ⟨⟨Word.fields 0x801E, rfl⟩, nofun⟩, carried, ?_⟩
  have same := takenBack 0x8014 0x8015 ⟨⟨Word.fields 0x8014, rfl⟩, nofun⟩
    ⟨⟨Word.fields 0x8015, rfl⟩, nofun⟩ rfl rfl (by decide) (by decide) (by decide)
  rw [carried] at same
  exact same

end Machine

end Chip8
