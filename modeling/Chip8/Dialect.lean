/-
# Dialects

Historical interpreters disagree on five points of the instruction set.  A dialect
fixes one choice for each of them; three dialects have names.
-/
import Chip8.Error

namespace Chip8

/-- The choices on which interpreters differ. -/
structure Dialect where
  /-- `8XY6` and `8XYE` shift `VY` into `VX` instead of shifting `VX` in place. -/
  shiftReadsVY : Bool
  /-- `FX55` and `FX65` leave the index register behind the last byte. -/
  transferAdvancesIndex : Bool
  /-- `BXNN` jumps to `XNN + VX` instead of `NNN + V0`. -/
  jumpAddsVX : Bool
  /-- `8XY1`, `8XY2` and `8XY3` clear `VF`. -/
  logicClearsVF : Bool
  /-- `FX1E` records in `VF` whether the index register left the 12-bit range. -/
  indexOverflowSetsVF : Bool
deriving DecidableEq, Repr

namespace Dialect

/-- The dialect without any special choice. -/
def standard : Dialect := ⟨false, false, false, false, false⟩

/-- The first interpreters: shifts read `VY`, transfers advance the index
register and the logic instructions clear `VF`. -/
def classic : Dialect := ⟨true, true, false, true, false⟩

/-- The extended interpreters: `BXNN` adds `VX`. -/
def extended : Dialect := ⟨false, false, true, false, false⟩

/-- The dialects that have a name, in the order in which they are listed. -/
def named : List (String × Dialect) :=
  [("default", standard), ("chip8", classic), ("schip", extended)]

/-- The dialect of a name. -/
def ofName? (name : String) : Except Error Dialect :=
  match named.lookup name with
  | some dialect => .ok dialect
  | none => .error (.unknownDialect name (named.map Prod.fst))

/-- A choice of dialect: by name or by its switches. -/
inductive Choice where
  | byName (name : String)
  | custom (dialect : Dialect)
deriving DecidableEq, Repr

/-- The chosen dialect, if its name is known. -/
def Choice.resolve : Choice → Except Error Dialect
  | .byName name => ofName? name
  | .custom dialect => .ok dialect

end Dialect

end Chip8
