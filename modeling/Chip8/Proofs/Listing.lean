/-
# Listings lose nothing

A listing covers the bytes that it is made of without a gap, two bytes a line, and the
texts of its lines alone tell what these bytes are.
-/
import Chip8.Listing
import Chip8.Proofs.Mnemonic
import Chip8.Proofs.Sprite

namespace Chip8

namespace Mnemonic

/-- A word is determined by its two bytes. -/
theorem bytesOfWord_injective : Function.Injective bytesOfWord := by
  intro first second same
  have bound := first.toNat_lt
  have bound' := second.toNat_lt
  have bytes : (UInt8.ofNat (first.toNat / 256)).toNat = (UInt8.ofNat (second.toNat / 256)).toNat ∧
      first.nn.toNat = second.nn.toNat := by
    rw [bytesOfWord, bytesOfWord, List.cons.injEq, List.cons.injEq] at same
    exact ⟨congrArg UInt8.toNat same.1, congrArg UInt8.toNat same.2.1⟩
  simp only [Word.nn, UInt8.toNat_ofNat'] at bytes
  apply UInt16.toNat_inj.mp
  omega

/-- Different words have different texts. -/
theorem ofWord_injective : Function.Injective ofWord := by
  intro first second same
  have bytes := congrArg bytesOfText? same
  rw [bytesOfText?_ofWord, bytesOfText?_ofWord, Option.some.injEq] at bytes
  exact bytesOfWord_injective bytes

/-- The text of a word is not that of a single byte. -/
theorem ofWord_ne_ofByte (word : Word) (byte : UInt8) : ofWord word ≠ ofByte byte := by
  intro same
  have bytes := congrArg bytesOfText? same
  rw [bytesOfText?_ofWord, bytesOfText?_ofByte, Option.some.injEq] at bytes
  exact absurd (congrArg List.length bytes) (by simp [bytesOfWord])

end Mnemonic

namespace Listing

theorem toNat_wordOf (high low : UInt8) :
    (wordOf high low).toNat = 256 * high.toNat + low.toNat :=
  Sprite.toNat_join high low

/-- A word that is made of two bytes has these bytes. -/
theorem bytesOfWord_wordOf (high low : UInt8) :
    Mnemonic.bytesOfWord (wordOf high low) = [high, low] := by
  have bound := low.toNat_lt
  have upper : (256 * high.toNat + low.toNat) / 256 = high.toNat := by omega
  have lower : (256 * high.toNat + low.toNat) % 256 = low.toNat := by omega
  rw [Mnemonic.bytesOfWord, Word.nn, toNat_wordOf, upper, lower, UInt8.ofNat_toNat,
    UInt8.ofNat_toNat]

/-- The bytes that the texts of the lines of a listing stand for. -/
def bytesOfTexts (texts : List String) : List UInt8 :=
  (texts.filterMap Mnemonic.bytesOfText?).flatten

theorem bytesOfTexts_cons {text : String} {bytes : List UInt8}
    (read : Mnemonic.bytesOfText? text = some bytes) (texts : List String) :
    bytesOfTexts (text :: texts) = bytes ++ bytesOfTexts texts := by
  rw [bytesOfTexts, List.filterMap_cons_some read, List.flatten_cons]
  rfl

/-- The bytes that a listing is made of are read back from the texts of its lines. -/
theorem bytesOfTexts_ofBytes (address : Int) (bytes : List UInt8) :
    bytesOfTexts ((ofBytes address bytes).map ListingLine.text) = bytes := by
  fun_induction ofBytes address bytes with
  | case1 address high low rest ih =>
    rw [List.map_cons, bytesOfTexts_cons (Mnemonic.bytesOfText?_ofWord _), ih,
      bytesOfWord_wordOf]
    rfl
  | case2 address last =>
    exact bytesOfTexts_cons (Mnemonic.bytesOfText?_ofByte last) []
  | case3 => rfl

/-- The lines stand two addresses apart. -/
theorem address_of_getElem? {address : Int} {bytes : List UInt8} {k : Nat} {line : ListingLine}
    (there : (ofBytes address bytes)[k]? = some line) : line.address = address + 2 * k := by
  fun_induction ofBytes address bytes generalizing k with
  | case1 address high low rest ih =>
    cases k with
    | zero =>
      cases there
      simp
    | succ k =>
      have later : line.address = address + (2 : Nat) + 2 * k := ih there
      omega
  | case2 address last =>
    cases k with
    | zero =>
      cases there
      simp
    | succ k => cases there
  | case3 => cases there

theorem ofProgram_bytes (data : List UInt8) (origin : Int) (offset : Nat) :
    ofProgram (.bytes data) origin offset = .ok (ofBytes (origin + offset) (data.drop offset)) := by
  have inside : ¬((offset : Int) < 0) := by omega
  simp only [ofProgram, ByteData.toBytes, inside, if_false, Int.toNat_natCast]
  rfl

/-- The texts of the lines of a listing. -/
def textsOf (listing : Except Error (List ListingLine)) : Except Error (List String) :=
  listing.map fun lines => lines.map ListingLine.text

section Comparison

variable {first second : List UInt8} {origin : Int} {offset : Nat}

/-- The texts of a listing tell which bytes it shows. -/
theorem textsOf_eq_iff :
    textsOf (ofProgram (.bytes first) origin offset) =
        textsOf (ofProgram (.bytes second) origin offset) ↔
      first.drop offset = second.drop offset := by
  rw [ofProgram_bytes, ofProgram_bytes]
  constructor
  · intro same
    have bytes := congrArg bytesOfTexts (Except.ok.inj same)
    rwa [bytesOfTexts_ofBytes, bytesOfTexts_ofBytes] at bytes
  · intro same
    rw [same]

/-- Listings are equal just when they show the same bytes. -/
theorem ofProgram_eq_iff :
    ofProgram (.bytes first) origin offset = ofProgram (.bytes second) origin offset ↔
      first.drop offset = second.drop offset := by
  constructor
  · exact fun same => textsOf_eq_iff.mp (congrArg textsOf same)
  · intro same
    rw [ofProgram_bytes, ofProgram_bytes, same]

end Comparison

/-- A listing of bytes is never refused.  It has a line for each two bytes that are shown and
one for a byte that is left alone, and the lines stand two addresses apart.  The bytes that are
shown are determined by it, even by its texts alone: different words have different texts, and
the text of a single byte is not that of a word. -/
theorem listing_is_lossless :
    (∀ (data : List UInt8) (origin : Int) (offset : Nat),
      ∃ lines, ofProgram (.bytes data) origin offset = .ok lines ∧
        lines.length = (data.length - offset + 1) / 2 ∧
        ∀ (k : Nat) (line : ListingLine), lines[k]? = some line →
          line.address = origin + offset + 2 * k) ∧
    (∀ (first second : List UInt8) (origin : Int) (offset : Nat),
      (ofProgram (.bytes first) origin offset = ofProgram (.bytes second) origin offset ↔
        first.drop offset = second.drop offset) ∧
      (textsOf (ofProgram (.bytes first) origin offset) =
          textsOf (ofProgram (.bytes second) origin offset) ↔
        first.drop offset = second.drop offset)) ∧
    Function.Injective Mnemonic.ofWord ∧
    ∀ word byte, Mnemonic.ofWord word ≠ Mnemonic.ofByte byte := by
  refine ⟨fun data origin offset => ?_, fun first second origin offset => ?_,
    Mnemonic.ofWord_injective, Mnemonic.ofWord_ne_ofByte⟩
  · refine ⟨_, ofProgram_bytes data origin offset, ?_, fun k line there => ?_⟩
    · rw [length_ofBytes, List.length_drop]
    · exact address_of_getElem? there
  · exact ⟨ofProgram_eq_iff, textsOf_eq_iff⟩

example : ofProgram (.bytes [0x12, 0x34, 0x56]) 512 0 =
    .ok [⟨512, "JP 0x234"⟩, ⟨514, "DB 0x56"⟩] := by cbv

end Listing

end Chip8
