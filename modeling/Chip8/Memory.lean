/-
# Memory

The machine has 4096 bytes.  Programs begin at `0x200`; below them lie the digits
that sprites can be drawn from.  This module holds the cells, the two ways of
checking a range of addresses, and reading and writing of runs of bytes.  The view
of a written run is `getElem_write`: inside the run stand the written bytes, and
everywhere else the memory is as before.
-/
import Chip8.ByteData

namespace Chip8

/-- The address at which a program begins. -/
abbrev programStart : Nat := 0x200

/-- Instructions are two bytes long. -/
abbrev wordBytes : Nat := 2

/-- A 12-bit address: a cell of the memory, which has 4096 of them. -/
abbrev Address := Fin 4096

/-- The bytes of the memory. -/
abbrev Memory := Vector UInt8 4096

/-- A whole number as 32-bit arithmetic keeps it, between `-2 ^ 31` and
`2 ^ 31 - 1`. -/
def wrap32 (value : Int) : Int := value.bmod 0x100000000

/-- Numbers in the 32-bit range are kept as they are. -/
theorem wrap32_of_bounds {value : Int} (low : -0x80000000 ≤ value)
    (high : value < 0x80000000) :
    wrap32 value = value := by
  unfold wrap32
  rw [Int.bmod_eq_of_le] <;> omega

namespace Memory

/-- The memory that holds zero everywhere. -/
def zero : Memory := Vector.replicate 4096 0

/-- Write a run of bytes from `start` on; what does not fit is dropped. -/
def write (memory : Memory) (start : Nat) : List UInt8 → Memory
  | [] => memory
  | byte :: rest => (write memory (start + 1) rest).setIfInBounds start byte

/-- The cell of a 12-bit address. -/
def cell (memory : Memory) (address : Address) : UInt8 := memory[address]

/-- The byte at an address, or the last byte for addresses past the end. -/
def byteAt (memory : Memory) (address : Nat) : UInt8 :=
  memory[min address 4095]

/-- The big-endian word at an address.  Addresses past the end read the last
byte. -/
def wordAt (memory : Memory) (address : Nat) : UInt16 :=
  (memory.byteAt address).toUInt16 <<< 8 ||| (memory.byteAt (address + 1)).toUInt16

/-- A run of bytes.  Each address of it is reckoned in 32 bits; those below the
memory read the first byte and those past its end the last one. -/
def span (memory : Memory) (start : Int) (length : Nat) : List UInt8 :=
  (List.range length).map fun (offset : Nat) => memory.byteAt (wrap32 (start + offset)).toNat

/-- Check that `length` bytes from `address` on lie in memory.  An error names the
address itself when it is negative, and otherwise the first address past the end. -/
def checkRange (address : Int) (length : Nat) : Except Error Unit :=
  if address < 0 then .error (.addressOutOfRange address)
  else if address + length > 4096 then
    .error (.addressOutOfRange (max address 4096))
  else .ok ()

/-- The byte at an address, checked. -/
def readByte (memory : Memory) (address : Int) : Except Error UInt8 := do
  checkRange address 1
  return memory.byteAt address.toNat

/-- The big-endian word at an address, checked. -/
def readWord (memory : Memory) (address : Int) : Except Error UInt16 := do
  checkRange address wordBytes
  return memory.wordAt address.toNat

/-- Write one byte.  The address is checked before the value. -/
def writeByte (memory : Memory) (address value : Int) : Except Error Memory := do
  checkRange address 1
  if 0 ≤ value ∧ value < 256 then
    return memory.write address.toNat [UInt8.ofNat value.toNat]
  else
    throw (.byteOutOfRange value)

/-- Check that a program of `size` bytes fits in memory as a whole from `origin`
on. -/
def checkFit (size : Nat) (origin : Int) : Except Error Unit :=
  if origin < 0 ∨ origin + size > 4096 then .error (.romTooLarge size origin) else .ok ()

/-- The bytes of a program that fits in memory from `origin` on.  Its size is checked
before the bytes are built. -/
def programBytes (program : ByteData) (origin : Int) : Except Error (List UInt8) := do
  checkFit (← program.size) origin
  program.toBytes

/-- Copy a program into memory from `origin` on.  It must fit as a whole. -/
def load (memory : Memory) (program : List UInt8) (origin : Int) : Except Error Memory := do
  checkFit program.length origin
  return memory.write origin.toNat program

/-- A program is read exactly when it can be read at all and its bytes fit. -/
theorem programBytes_eq (program : ByteData) (origin : Int) :
    programBytes program origin = (do
      let bytes ← program.toBytes
      checkFit bytes.length origin
      return bytes) := by
  unfold programBytes
  rw [program.size_eq_map_toBytes]
  cases program.toBytes with
  | error cause => rfl
  | ok bytes =>
    cases fits : checkFit bytes.length origin with
    | error cause => simp [Except.map, bind, Except.bind, fits]
    | ok _ => simp [Except.map, bind, Except.bind, pure, Except.pure, fits]

/-- Inside a written run stand the written bytes; every other cell is as before. -/
theorem getElem_write (memory : Memory) (start : Nat) (bytes : List UInt8) (k : Nat)
    (inBounds : k < 4096) :
    (memory.write start bytes)[k] =
      if start ≤ k then bytes[k - start]?.getD memory[k] else memory[k] := by
  induction bytes generalizing start with
  | nil => simp [write]
  | cons byte rest ih =>
    rw [write, Vector.getElem_setIfInBounds]
    split
    · rename_i here
      subst here
      simp
    · rename_i elsewhere
      rw [ih (start + 1)]
      by_cases after : start ≤ k
      · have offset : k - start = (k - (start + 1)) + 1 := by omega
        rw [if_pos after, if_pos (by omega), offset, List.getElem?_cons_succ]
      · rw [if_neg after, if_neg (by omega)]

/-- A word that was written is read back. -/
theorem wordAt_write (memory : Memory) {address : Nat} (inside : address + 2 ≤ 4096)
    (high low : UInt8) :
    (memory.write address [high, low]).wordAt address = high.toUInt16 <<< 8 ||| low.toUInt16 := by
  have first : min address 4095 = address := by omega
  have second : min (address + 1) 4095 = address + 1 := by omega
  simp only [wordAt, byteAt, getElem_write, first, second]
  simp

/-- A run of bytes holds the byte at each of its addresses. -/
theorem getElem?_span (memory : Memory) {start length k : Nat} (within : k < length)
    (bounded : start + k < 0x80000000) :
    (memory.span start length)[k]? = some (memory.byteAt (start + k)) := by
  have address : wrap32 ((start : Int) + (k : Nat)) = (start + k : Nat) := by
    rw [wrap32_of_bounds (by omega) (by omega)]
    omega
  rw [span, List.getElem?_map, List.getElem?_range within, Option.map_some, address,
    Int.toNat_natCast]

/-- A run of bytes that ends within memory is a part of the memory. -/
theorem span_eq_take_drop (memory : Memory) {start length : Nat}
    (inside : start + length ≤ 4096) :
    memory.span start length = (memory.toList.drop start).take length := by
  apply List.ext_getElem
  · rw [span, List.length_map, List.length_range, List.length_take, List.length_drop,
      Vector.length_toList]
    omega
  · intro k kBound _
    have bound : k < length := by simpa [span] using kBound
    have address : wrap32 ((start : Int) + (k : Nat)) = (start + k : Nat) := by
      rw [wrap32_of_bounds (by omega) (by omega)]
      omega
    have here : min (start + k) 4095 = start + k := by omega
    simp only [span, List.getElem_map, List.getElem_range, address, byteAt, Int.toNat_natCast,
      here, List.getElem_take, List.getElem_drop, Vector.getElem_toList]

theorem take_span (memory : Memory) (start : Int) {length fewer : Nat} (short : fewer ≤ length) :
    (memory.span start length).take fewer = memory.span start fewer := by
  rw [span, ← List.map_take, List.take_range, Nat.min_eq_left short]
  rfl

end Memory

end Chip8
