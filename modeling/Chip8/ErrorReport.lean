/-
# Error reports

A machine error is reported by its name, its wording and its attributes.  A host
may also build such a report itself from a name and loosely typed arguments.  Then
the attributes are the arguments as they were given, and an argument that is to be
written in base sixteen must be a whole number; a truth value counts as one.
-/
import Chip8.Error

namespace Chip8

/-- What is told of a machine error. -/
structure ErrorReport where
  /-- The name of the error. -/
  kind : String
  message : String
  /-- The attributes, each with its name. -/
  attributes : List (String × Setting)
  /-- Whether the error also counts as a bad argument of the host. -/
  isBadArgument : Bool
deriving DecidableEq, Repr

namespace ErrorReport

/-- An address that may be unknown as an attribute. -/
def addressAttribute : Option Int → String × Setting
  | none => ("address", .nothing)
  | some address => ("address", .whole address)

/-- The attributes of a machine error. -/
def attributesOf : Error → List (String × Setting)
  | .romTooLarge size origin => [("size", .whole size), ("origin", .whole origin)]
  | .addressOutOfRange address => [("address", .whole address)]
  | .stackOverflow address => [addressAttribute address]
  | .stackUnderflow address => [addressAttribute address]
  | .invalidOpcode word address => [("instruction", .whole word), addressAttribute address]
  | .invalidRegister index => [("index", .whole index)]
  | .invalidKey index => [("index", .whole index)]
  | .invalidResolution mode => [("mode", mode)]
  | _ => []

/-- The report of an error, if it is a machine error. -/
def ofError? (error : Error) : Option ErrorReport :=
  error.kind?.map fun kind => ⟨kind, error.message, attributesOf error, error.isBadArgument⟩

/-- The whole number that an argument stands for. -/
def wholeNumber : Setting → Except Error Int
  | .whole value => .ok value
  | .truth value => .ok (if value then 1 else 0)
  | .real _ => .error (.notWhole "float")
  | .text _ => .error (.notWhole "str")
  | _ => .error .wrongArguments

/-- The whole number that an argument stands for, unless there is no argument. -/
def optionalNumber : Setting → Except Error (Option Int)
  | .nothing => .ok none
  | argument => (wholeNumber argument).map some

/-- The only argument, or nothing when there is none. -/
def onlyArgument : List Setting → Except Error Setting
  | [] => .ok .nothing
  | [argument] => .ok argument
  | _ => .error .wrongArguments

/-- The text of an error that has only a text: that of its only argument, or all its
arguments in parentheses. -/
def generalText : List Setting → String
  | [] => ""
  | [argument] => argument.display
  | arguments => "(" ++ String.intercalate ", " (arguments.map Setting.spelling) ++ ")"

/-- The report that a host builds from the name of an error and arguments. -/
def build (kind : String) (arguments : List Setting) : Except Error ErrorReport :=
  match kind, arguments with
  | "EmulatorError", _ => .ok ⟨kind, generalText arguments, [], false⟩
  | "RomTooLargeError", [size, origin] => do
    let place ← wholeNumber origin
    return ⟨kind, Error.romTooLargeText size.display place, [("size", size), ("origin", origin)],
      false⟩
  | "AddressOutOfRangeError", [address] => do
    let place ← wholeNumber address
    return ⟨kind, (Error.addressOutOfRange place).message, [("address", address)], false⟩
  | "StackOverflowError", _ => do
    let address ← onlyArgument arguments
    let place ← optionalNumber address
    return ⟨kind, (Error.stackOverflow place).message, [("address", address)], false⟩
  | "StackUnderflowError", _ => do
    let address ← onlyArgument arguments
    let place ← optionalNumber address
    return ⟨kind, (Error.stackUnderflow place).message, [("address", address)], false⟩
  | "InvalidOpcodeError", word :: rest => do
    let address ← onlyArgument rest
    let place ← optionalNumber address
    let number ← wholeNumber word
    return ⟨kind, (Error.invalidOpcode number place).message,
      [("instruction", word), ("address", address)], false⟩
  | "InvalidRegisterError", [index] =>
    .ok ⟨kind, Error.invalidRegisterText index.display, [("index", index)], true⟩
  | "InvalidKeyError", [index] =>
    .ok ⟨kind, Error.invalidKeyText index.display, [("index", index)], true⟩
  | "InvalidResolutionError", [mode] =>
    .ok ⟨kind, (Error.invalidResolution mode).message, [("mode", mode)], true⟩
  | _, _ => .error .wrongArguments

end ErrorReport

end Chip8
