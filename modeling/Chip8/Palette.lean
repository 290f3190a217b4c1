/-
# Palettes

A palette has one colour for lit pixels and one for the others.  Five palettes have
names; a front end may also bring colours of its own.
-/
import Chip8.Error

namespace Chip8

/-- A colour by its red, green and blue parts. -/
structure Colour where
  red : UInt8
  green : UInt8
  blue : UInt8
deriving DecidableEq, Repr

namespace Colour

/-- A part of a colour, which must fit in a byte. -/
def component (value : Int) : Except Error UInt8 :=
  if 0 ≤ value ∧ value < 256 then .ok (UInt8.ofNat value.toNat) else .error .colourOutOfRange

/-- The colour of three parts, if they fit. -/
def ofComponents (red green blue : Int) : Except Error Colour := do
  return ⟨← component red, ← component green, ← component blue⟩

end Colour

/-- The colours of lit pixels and of the others. -/
structure Palette where
  on : Colour
  off : Colour
deriving DecidableEq, Repr

namespace Palette

/-- Green on black. -/
def classic : Palette := ⟨⟨0, 255, 0⟩, ⟨0, 0, 0⟩⟩

/-- The palettes that have a name, in the order in which they are listed. -/
def named : List (String × Palette) :=
  [("classic", classic),
   ("amber", ⟨⟨255, 176, 0⟩, ⟨0, 0, 0⟩⟩),
   ("white", ⟨⟨255, 255, 255⟩, ⟨0, 0, 0⟩⟩),
   ("blue", ⟨⟨0, 255, 255⟩, ⟨0, 0, 64⟩⟩),
   ("retro", ⟨⟨255, 255, 0⟩, ⟨64, 0, 64⟩⟩)]

/-- The palette of a name. -/
def ofName? (name : String) : Except Error Palette :=
  match named.lookup name with
  | some palette => .ok palette
  | none => .error (.unknownPalette name (named.map Prod.fst))

/-- A choice of palette: by name, or by the parts of its two colours. -/
inductive Choice where
  | byName (name : String)
  | custom (on off : Int × Int × Int)
deriving DecidableEq, Repr

/-- The chosen palette, if its name is known or its colours are colours. -/
def Choice.resolve : Choice → Except Error Palette
  | .byName name => ofName? name
  | .custom on off => do
    return ⟨← Colour.ofComponents on.1 on.2.1 on.2.2, ← Colour.ofComponents off.1 off.2.1 off.2.2⟩

end Palette

end Chip8
