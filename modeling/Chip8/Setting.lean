/-
# Settings as a host writes them

A front end hands some settings over as loosely typed values: nothing, a truth
value, a whole number, a real number, a text, or a list or a table of such values.
Messages show such a value in one fixed spelling each.
-/
import Chip8.Text.Quoted
import Chip8.Decimal.Shortest

namespace Chip8

mutual

/-- A loosely typed value.  A real number is given by the 64 bits of its binary
floating-point form. -/
inductive Setting where
  | nothing
  | truth (value : Bool)
  | whole (value : Int)
  | real (bits : UInt64)
  | text (value : String)
  | list (items : Setting.Items)
  | table (fields : Setting.Fields)
deriving DecidableEq, Repr

/-- The values of a list, in order. -/
inductive Setting.Items where
  | none
  | cons (first : Setting) (rest : Setting.Items)
deriving DecidableEq, Repr

/-- The values of a table, in order, each with its name. -/
inductive Setting.Fields where
  | none
  | cons (name : String) (first : Setting) (rest : Setting.Fields)
deriving DecidableEq, Repr

end

namespace Setting

mutual

/-- The spelling of a setting in messages. -/
def spelling : Setting → String
  | .nothing => "None"
  | .truth true => "True"
  | .truth false => "False"
  | .whole value => toString value
  | .real bits => Decimal.textOfBits .message bits
  | .text value => Text.Quoted.quote value
  | .list items => "[" ++ String.intercalate ", " items.spellings ++ "]"
  | .table fields => "\x7b" ++ String.intercalate ", " fields.spellings ++ "\x7d"

/-- The spelling of each value of a list. -/
def Items.spellings : Items → List String
  | .none => []
  | .cons first rest => first.spelling :: rest.spellings

/-- The spelling of each value of a table, after that of its name. -/
def Fields.spellings : Fields → List String
  | .none => []
  | .cons name first rest => (Text.Quoted.quote name ++ ": " ++ first.spelling) :: rest.spellings

end

/-- A setting as it stands in running text: a text stands for itself, everything else
is spelled as in messages. -/
def display : Setting → String
  | .text value => value
  | other => other.spelling

/-- The bits of the real numbers 0, -0 and 1. -/
def realZero : UInt64 := 0

@[inherit_doc realZero]
def realMinusZero : UInt64 := 0x8000000000000000

@[inherit_doc realZero]
def realOne : UInt64 := 0x3FF0000000000000

/-- The truth value that a setting is equal to as a number, if it is one: zero
counts as false and one as true, whether written as a truth value, a whole number
or a real number. -/
def toBool? : Setting → Option Bool
  | .truth value => some value
  | .whole value => if value = 0 then some false else if value = 1 then some true else none
  | .real bits =>
    if bits = realZero ∨ bits = realMinusZero then some false
    else if bits = realOne then some true
    else none
  | _ => none

end Setting

end Chip8
