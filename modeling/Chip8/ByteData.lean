/-
# Byte data

A host hands a program over as bytes, as a list of numbers, or as a count of zero
bytes.  Reading such data either gives the bytes or fails at the first element
that is no byte.  The number of the bytes is known before they are built, so that
data which are far too long can be refused.

How many bytes a host has room for is not ours to say.  It comes with each thing that
may take more room than there is, and may be another number each time.
-/
import Chip8.Width

namespace Chip8

/-- The room of a host, in bytes, where a caller says nothing about it. -/
def usualRoom : Nat := 0x1000000000

/-- Data that is to be read as bytes.  In a list of numbers, `none` stands for an
element that is no whole number.  A count of zero bytes comes with the number of bytes
that the host has room for. -/
inductive ByteData where
  | bytes (data : List UInt8)
  | numbers (elements : List (Option Int))
  | zeros (count : Int) (room : Nat := usualRoom)
  | missing
deriving DecidableEq, Repr

namespace ByteData

/-- One number of a list as a byte. -/
def element : Option Int → Except Error UInt8
  | none => .error .notBytes
  | some value =>
    if 0 ≤ value ∧ value < 256 then .ok (UInt8.ofNat value.toNat) else .error .elementOutOfRange

/-- The numbers of a list as bytes; the first element that is no byte decides the
error. -/
def elements : List (Option Int) → Except Error (List UInt8)
  | [] => .ok []
  | first :: rest =>
    match element first with
    | .error cause => .error cause
    | .ok byte =>
      match elements rest with
      | .error cause => .error cause
      | .ok tail => .ok (byte :: tail)

/-- The bytes that a host keeps beside those of a run of bytes. -/
def overhead : Int := 33

/-- The number of zero bytes that was asked for.  It must be a 64-bit number even
with what the host keeps beside the bytes, and the host must have room for the bytes. -/
def zeroCount (count : Int) (room : Nat) : Except Error Nat := do
  Width.signed64.check count
  if count < 0 then throw .negativeCount
  Width.signed64.check (count + overhead)
  if room < count then throw .outOfMemory
  return count.toNat

/-- The bytes that byte data stands for. -/
def toBytes : ByteData → Except Error (List UInt8)
  | .bytes data => .ok data
  | .numbers values => elements values
  | .zeros count room => (zeroCount count room).map fun number => List.replicate number 0
  | .missing => .error .notBytes

/-- The number of bytes that byte data stands for. -/
def size : ByteData → Except Error Nat
  | .bytes data => .ok data.length
  | .numbers values => (elements values).map List.length
  | .zeros count room => zeroCount count room
  | .missing => .error .notBytes

/-- The size is the length of the bytes, and reading it fails as reading them does. -/
theorem size_eq_map_toBytes (data : ByteData) : data.size = data.toBytes.map List.length := by
  cases data with
  | bytes data => rfl
  | numbers values => rfl
  | zeros count room =>
    cases counted : zeroCount count room with
    | error cause => simp [size, toBytes, counted, Except.map]
    | ok number => simp [size, toBytes, counted, Except.map]
  | missing => rfl

end ByteData

end Chip8
