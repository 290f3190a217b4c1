/-
# Errors

What can go wrong when a host uses the machine, by cause, with the one wording of
each cause.  The first group are the machine's own errors, which also name the
faults of a halted machine; the others are arguments that make no sense.
-/
import Chip8.Setting
import Chip8.Text.Hex

namespace Chip8

/-- The causes of a failed operation. -/
inductive Error where
  /-- An error of the machine that has only a text. -/
  | general (text : String)
  /-- A program of `size` bytes does not fit in memory from `origin` on. -/
  | romTooLarge (size origin : Int)
  /-- An access outside the memory. -/
  | addressOutOfRange (address : Int)
  /-- A subroutine call with a full stack. -/
  | stackOverflow (address : Option Int)
  /-- A return with an empty stack. -/
  | stackUnderflow (address : Option Int)
  /-- A word that is no instruction. -/
  | invalidOpcode (word : Int) (address : Option Int)
  /-- A register index that names no register. -/
  | invalidRegister (index : Int)
  /-- A key index that names no key. -/
  | invalidKey (index : Int)
  /-- A setting that names no screen resolution. -/
  | invalidResolution (mode : Setting)
  /-- A value that does not fit in a byte. -/
  | byteOutOfRange (value : Int)
  /-- An element of byte data outside `0..255`. -/
  | elementOutOfRange
  /-- An element of byte data that is no number, or byte data that is none. -/
  | notBytes
  /-- A negative number of bytes. -/
  | negativeCount
  /-- A listing that begins before its program. -/
  | negativeOffset (offset : Int)
  /-- A negative number of instructions to run. -/
  | negativeCycles (cycles : Int)
  /-- A number that is no 16-bit word. -/
  | wordOutOfRange (word : Int)
  /-- A dialect name that is not among the known ones. -/
  | unknownDialect (name : String) (known : List String)
  /-- A palette name that is not among the known ones. -/
  | unknownPalette (name : String) (known : List String)
  /-- A frequency that is zero or negative. -/
  | frequencyNotPositive
  /-- A recorded fault code without a meaning. -/
  | unknownFault (code : UInt8)
  /-- A colour component outside `0..255`. -/
  | colourOutOfRange
  /-- Sprite halves that cannot be paired. -/
  | unpairedSprite
  /-- A number that does not fit in the bits in which it would be kept. -/
  | numberOutOfRange (number : Int)
  /-- More bytes than a host can provide. -/
  | outOfMemory
  /-- An empty list of columns where a picture is to be made. -/
  | noColumns
  /-- A picture whose bytes cannot even be counted. -/
  | pictureTooLarge
  /-- A code without a meaning where a mode is to be recorded. -/
  | unknownMode (code : UInt8)
  /-- Arguments of the wrong number or of a kind that has no text. -/
  | wrongArguments
  /-- An argument of a kind that cannot be written in base sixteen. -/
  | notWhole (kind : String)
deriving DecidableEq, Repr

namespace Error

/-- Where an instruction stood, when that is known. -/
def place : Option Int → String
  | none => ""
  | some address => " at 0x" ++ Text.Hex.text 3 address

/-- Names in single quotes, separated by commas, in brackets. -/
def listed (names : List String) : String :=
  "[" ++ String.intercalate ", " (names.map fun name => "'" ++ name ++ "'") ++ "]"

/-- The wording for a program that is too large, whose size is given by its text. -/
def romTooLargeText (size : String) (origin : Int) : String :=
  "ROM of " ++ size ++ " bytes does not fit in memory at 0x" ++ Text.Hex.text 3 origin

/-- The wording for a register index, which is given by its text. -/
def invalidRegisterText (index : String) : String := "Invalid register index: " ++ index

/-- The wording for a key index, which is given by its text. -/
def invalidKeyText (index : String) : String := "Invalid key index: " ++ index

/-- The wording of each cause. -/
def message : Error → String
  | .general text => text
  | .romTooLarge size origin => romTooLargeText (toString size) origin
  | .addressOutOfRange address => "Address out of range: 0x" ++ Text.Hex.text 0 address
  | .stackOverflow address => "Stack overflow" ++ place address
  | .stackUnderflow address => "Stack underflow" ++ place address
  | .invalidOpcode word address => "Invalid opcode 0x" ++ Text.Hex.text 4 word ++ place address
  | .invalidRegister index => invalidRegisterText (toString index)
  | .invalidKey index => invalidKeyText (toString index)
  | .invalidResolution mode => "Invalid resolution mode: " ++ mode.spelling
  | .byteOutOfRange value => "Byte value out of range: " ++ toString value
  | .elementOutOfRange => "bytes must be in range(0, 256)"
  | .notBytes => "not a sequence of bytes"
  | .negativeCount => "negative count"
  | .negativeOffset offset => "Offset must be non-negative, got " ++ toString offset
  | .negativeCycles cycles => "cycles must be non-negative, got " ++ toString cycles
  | .wordOutOfRange word => "Instruction word out of range: " ++ Text.Hex.marked word
  | .unknownDialect name known =>
    "Unknown quirk preset '" ++ name ++ "'. Available: " ++ listed known
  | .unknownPalette name known =>
    "Unknown color scheme '" ++ name ++ "'. Available: " ++ listed known
  | .frequencyNotPositive => "instruction_frequency and timer_frequency must be positive"
  | .unknownFault code => toString code ++ " is not a fault code"
  | .colourOutOfRange => "colour component out of range"
  | .unpairedSprite => "sprite halves do not pair up"
  | .numberOutOfRange number => "number out of range: " ++ toString number
  | .outOfMemory => "not enough memory"
  | .noColumns => "not enough values to unpack (expected 2, got 1)"
  | .pictureTooLarge => "picture too large"
  | .unknownMode code => toString code ++ " is not a mode"
  | .wrongArguments => "arguments of the wrong number or kind"
  | .notWhole kind => "Unknown format code 'X' for object of type '" ++ kind ++ "'"

/-- The name under which a machine error is reported; arguments that make no sense
have no such name. -/
def kind? : Error → Option String
  | .general _ => some "EmulatorError"
  | .romTooLarge _ _ => some "RomTooLargeError"
  | .addressOutOfRange _ => some "AddressOutOfRangeError"
  | .stackOverflow _ => some "StackOverflowError"
  | .stackUnderflow _ => some "StackUnderflowError"
  | .invalidOpcode _ _ => some "InvalidOpcodeError"
  | .invalidRegister _ => some "InvalidRegisterError"
  | .invalidKey _ => some "InvalidKeyError"
  | .invalidResolution _ => some "InvalidResolutionError"
  | _ => none

/-- Whether a machine error also counts as a bad argument of the host. -/
def isBadArgument : Error → Bool
  | .invalidRegister _ => true
  | .invalidKey _ => true
  | .invalidResolution _ => true
  | _ => false

/-- The report of a machine error in a log: its name and its wording. -/
def report (error : Error) : String :=
  error.kind?.getD "" ++ ": " ++ error.message

end Error

end Chip8
