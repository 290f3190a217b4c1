/-
# Fault codes

A machine that cannot go on records why in one byte.  Six values of that byte have
a meaning; zero says that nothing is wrong.
-/

namespace Chip8

/-- The meaning of a fault code. -/
inductive Fault where
  | clear
  | addressOutOfRange
  | stackOverflow
  | stackUnderflow
  | invalidOpcode
  | invalidRegister
deriving DecidableEq, Repr

namespace Fault

/-- The byte that records a fault. -/
def code : Fault → UInt8
  | .clear => 0
  | .addressOutOfRange => 1
  | .stackOverflow => 2
  | .stackUnderflow => 3
  | .invalidOpcode => 4
  | .invalidRegister => 5

/-- The fault that a byte records, if the byte has a meaning. -/
def ofCode? (code : UInt8) : Option Fault :=
  [clear, addressOutOfRange, stackOverflow, stackUnderflow, invalidOpcode, invalidRegister].find?
    fun fault => fault.code == code

/-- Reading a recorded fault gives it back. -/
theorem ofCode?_code (fault : Fault) : ofCode? fault.code = some fault := by
  cases fault <;> rfl

/-- A byte means a fault exactly when it is that fault's code. -/
theorem ofCode?_eq_some_iff (byte : UInt8) (fault : Fault) :
    ofCode? byte = some fault ↔ fault.code = byte := by
  constructor
  · intro found
    have matched := List.find?_some found
    simpa using matched
  · rintro rfl
    exact ofCode?_code fault

end Fault

end Chip8
