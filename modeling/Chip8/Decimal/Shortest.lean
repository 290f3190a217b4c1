/-
# Shortest decimal text

A binary floating-point number is written with the fewest decimal digits that
read back as the same number; of several such decimals the nearest one is taken.
The numbers are given by their 64 bits, so that everything here is exact
arithmetic on natural numbers.
-/

namespace Chip8.Decimal

/-- The power of a base; a negative exponent counts as zero. -/
def power (base : Nat) (exponent : Int) : Nat := Nat.pow base exponent.toNat

/-- A positive binary number `value / unit`, and the ends of the interval of real
numbers that read back as it.  The ends belong to the interval when `closed`. -/
structure Neighbourhood where
  value : Nat
  low : Nat
  high : Nat
  unit : Nat
  closed : Bool

namespace Neighbourhood

/-- The neighbourhood of `mantissa * 2 ^ exponent`.  Halfway to the next number
above lie two quarters of the last place; below a power of two the numbers are
twice as dense, so that one quarter remains there. -/
def ofBinary (mantissa : Nat) (exponent : Int) (denseBelow : Bool) : Neighbourhood :=
  let scale := power 2 (exponent - 2)
  { value := 4 * mantissa * scale
    low := (4 * mantissa - (if denseBelow then 1 else 2)) * scale
    high := (4 * mantissa + 2) * scale
    unit := power 2 (2 - exponent)
    closed := mantissa % 2 == 0 }

/-- Whether the power of ten of a place is at most the value. -/
def reaches (n : Neighbourhood) (place : Int) : Bool :=
  power 10 place * n.unit ≤ n.value * power 10 (-place)

/-- The power of ten of the value's first digit, for the values of 64-bit
numbers, which lie between `10 ^ (-330)` and `10 ^ 330`. -/
def magnitude (n : Neighbourhood) : Int :=
  ((List.range 660).countP fun (i : Nat) => n.reaches (i - 330)) - 331

/-- Whether `digits * 10 ^ place` reads back as the value. -/
def holds (n : Neighbourhood) (digits : Nat) (place : Int) : Bool :=
  let point := digits * power 10 place * n.unit
  let scale := power 10 (-place)
  if n.closed then n.low * scale ≤ point && point ≤ n.high * scale
  else n.low * scale < point && point < n.high * scale

/-- Whether, of `digits * 10 ^ place` at or below the value and the next decimal
of that grid above it, the upper one is to be taken: it is nearer, or both are
equally near and the lower one is odd. -/
def upperIsNearer (n : Neighbourhood) (digits : Nat) (place : Int) : Bool :=
  let step := power 10 place * n.unit
  let rest := n.value * power 10 (-place) - digits * step
  step < 2 * rest || (step == 2 * rest && digits % 2 == 1)

/-- The decimal on the grid of `10 ^ place` that reads back as the value, if one
of the value's two neighbours on the grid does; of two the nearer, and the even
one of two that are equally near. -/
def onGrid? (n : Neighbourhood) (place : Int) : Option Nat :=
  let below := n.value * power 10 (-place) / (power 10 place * n.unit)
  match n.holds below place, n.holds (below + 1) place with
  | true, true => some (if n.upperIsNearer below place then below + 1 else below)
  | true, false => some below
  | false, true => some (below + 1)
  | false, false => none

/-- The digits of the shortest decimal that reads back as the value, and the
power of ten of its last digit.  Seventeen digits are always enough. -/
def shortest (n : Neighbourhood) : Nat × Int :=
  let first := n.magnitude
  let found := (List.range 17).findSome? fun (more : Nat) =>
    (n.onGrid? (first - more)).map fun digits => (digits, first - (more : Int))
  found.getD (n.value / n.unit, 0)

end Neighbourhood

/-- How a decimal is laid out: written positionally when the power of its first
digit lies from `positionalFrom` on and below `positionalBelow`, otherwise with
an exponent of at least `exponentDigits` digits. -/
structure Layout where
  positionalFrom : Int
  positionalBelow : Int
  exponentDigits : Nat

/-- Numbers in messages are positional from a ten-thousandth up to sixteen digits
before the point, keep a digit behind the point, and have exponents of at least
two digits. -/
def Layout.message : Layout := ⟨-4, 16, 2⟩

namespace Layout

/-- The text of a positive decimal, given by its digits without trailing zeros
and the power of ten of the first of them. -/
def write (layout : Layout) (digits : List Char) (first : Int) : List Char :=
  if layout.positionalFrom ≤ first && first < layout.positionalBelow then
    if first < 0 then
      '0' :: '.' :: List.replicate (-first - 1).toNat '0' ++ digits
    else
      let before := first.toNat + 1
      let whole := digits.take before ++ List.replicate (before - digits.length) '0'
      let fraction := digits.drop before
      whole ++ '.' :: (if fraction.isEmpty then ['0'] else fraction)
  else
    let mantissa := digits.take 1 ++
      (if digits.length ≤ 1 then [] else '.' :: digits.drop 1)
    let power := Nat.toDigits 10 first.natAbs
    let mark := if first < 0 then '-' else '+'
    mantissa ++ 'e' :: mark ::
      List.replicate (layout.exponentDigits - power.length) '0' ++ power

end Layout

/-- The decimal text of a number given by its 64 bits: one sign bit, eleven
exponent bits and fifty-two fraction bits. -/
def textOfBits (layout : Layout) (bits : UInt64) : String :=
  let sign := if bits.toNat / 0x8000000000000000 == 1 then "-" else ""
  let biased : Nat := bits.toNat / 0x10000000000000 % 0x800
  let fraction := bits.toNat % 0x10000000000000
  if biased == 2047 then
    if fraction == 0 then sign ++ "inf" else "nan"
  else if biased == 0 && fraction == 0 then sign ++ "0.0"
  else
    let mantissa := if biased == 0 then fraction else 0x10000000000000 + fraction
    let place : Nat := if biased == 0 then 1 else biased
    let exponent : Int := (place : Int) - 1075
    let near := Neighbourhood.ofBinary mantissa exponent (fraction == 0 && 1 < biased)
    let (number, last) := near.shortest
    let written := Nat.toDigits 10 number
    let kept := (written.reverse.dropWhile (· == '0')).reverse
    sign ++ String.ofList (layout.write kept (last + written.length - 1))

end Chip8.Decimal
