/-
# Random keys

Random numbers come from a key of two words.  The block function turns a key and a
counter into two words that look random; a new key and a random byte are both
drawn from it, so that a sequence of draws depends on the first key alone.
-/
import Chip8.Width

namespace Chip8

/-- The state of the random source. -/
structure RandomKey where
  first : UInt32
  second : UInt32
deriving DecidableEq, Repr

namespace RandomKey

/-- The key of a seed, of which the low 32 bits count. -/
def ofSeed (seed : Int) : RandomKey := ⟨0, UInt32.ofNat (seed % 0x100000000).toNat⟩

/-- The key of a seed that a host gives, which must be a 64-bit number. -/
def ofSeed? (seed : Int) : Except Error RandomKey := do
  Width.signed64.check seed
  return ofSeed seed

/-- Turn the bits of a word to the left. -/
def rotate (word : UInt32) (bits : UInt32) : UInt32 :=
  word <<< bits ||| word >>> (32 - bits)

/-- One round: add the second word to the first, turn it, and mix the sum in. -/
def round (block : UInt32 × UInt32) (bits : UInt32) : UInt32 × UInt32 :=
  let sum := block.1 + block.2
  (sum, rotate block.2 bits ^^^ sum)

/-- The parity word that completes a key to its schedule. -/
def parity : UInt32 := 0x1BD11BDA

/-- The turns of four rounds, which alternate from group to group. -/
def evenTurns : List UInt32 := [13, 15, 26, 6]

@[inherit_doc evenTurns]
def oddTurns : List UInt32 := [17, 29, 16, 24]

/-- Four rounds, after which two words of the key schedule and the number of the
group are added. -/
def group (block : UInt32 × UInt32) (turns : List UInt32) (left right number : UInt32) :
    UInt32 × UInt32 :=
  let mixed := turns.foldl round block
  (mixed.1 + left, mixed.2 + right + number)

/-- The block function: twenty rounds in five groups over a counter of two
words. -/
def block (key : RandomKey) (counter : UInt32 × UInt32) : RandomKey :=
  let third := key.first ^^^ key.second ^^^ parity
  let start := (counter.1 + key.first, counter.2 + key.second)
  let one := group start evenTurns key.second third 1
  let two := group one oddTurns third key.first 2
  let three := group two evenTurns key.first key.second 3
  let four := group three oddTurns key.second third 4
  let five := group four evenTurns third key.first 5
  ⟨five.1, five.2⟩

/-- The key after a draw. -/
def next (key : RandomKey) : RandomKey := key.block (0, 0)

/-- The random byte of a draw. -/
def byte (key : RandomKey) : UInt8 :=
  let words := ((key.block (0, 1)).block (0, 1)).block (0, 0)
  (words.first ^^^ words.second).toUInt8

end RandomKey

end Chip8
