/-
# Loaded programs run as listed

A listing is made from the bytes of a program, and a machine fetches the words that it
executes from its memory.  Once the program is loaded the two show the same words at the same
addresses, and the text of a line tells whether the word is an instruction at all.

The main result is `loaded_program_runs_as_listed`.
-/
import Chip8.Listing
import Chip8.Proofs.RunMode

namespace Chip8

/-! ## Texts of data -/

namespace Instruction

/-- The letters that a word which is no instruction begins with begin no short name. -/
theorem data_not_prefix_name (instruction : Instruction) :
    ¬ ['D', 'W'] <+: instruction.parts.1.toList := by
  cases instruction with
  | arithmetic operation x y => cases operation <;> simp [parts, Arithmetic.mnemonic]
  | _ => simp [parts]

theorem two_le_length_name (instruction : Instruction) : 2 ≤ instruction.parts.1.toList.length := by
  cases instruction with
  | arithmetic operation x y => cases operation <;> simp [parts, Arithmetic.mnemonic]
  | _ => simp [parts]

end Instruction

namespace Mnemonic

theorem name_prefix_line (name : String) (operands : List Operand) :
    name.toList <+: (line name operands).toList := by
  rw [line]
  split
  · exact List.prefix_rfl
  · simp [String.toList_append]

/-- The text of a word tells whether it is an instruction. -/
theorem startsWith_ofWord_iff (word : Word) :
    (ofWord word).startsWith "DW" = true ↔ Instruction.decode word = none := by
  rw [String.startsWith_string_iff, ofWord, partsOfWord]
  cases Instruction.decode word with
  | none => exact iff_of_true (name_prefix_line "DW" _) rfl
  | some instruction =>
    refine iff_of_false (fun data => instruction.data_not_prefix_name ?_) (Option.some_ne_none _)
    exact List.prefix_of_prefix_length_le data (name_prefix_line _ _) instruction.two_le_length_name

end Mnemonic

/-! ## Lines and memory -/

namespace Listing

/-- A line that shows two bytes stands at their address. -/
theorem exists_of_mem_ofBytes {address : Int} {bytes : List UInt8} {line : ListingLine}
    (there : line ∈ ofBytes address bytes) (whole : line.address + 2 ≤ address + bytes.length) :
    ∃ before high low after, bytes = before ++ high :: low :: after ∧
      line = ⟨address + before.length, Mnemonic.ofWord (wordOf high low)⟩ := by
  fun_induction ofBytes address bytes with
  | case1 address high low rest ih =>
    rcases List.mem_cons.mp there with rfl | there
    · exact ⟨[], high, low, rest, rfl, by simp⟩
    · have size : (high :: low :: rest).length = wordBytes + rest.length := Nat.add_comm _ 2
      obtain ⟨before, first, second, after, rfl, rfl⟩ := ih there (by omega)
      have behind : (high :: low :: before).length = wordBytes + before.length := Nat.add_comm _ 2
      refine ⟨high :: low :: before, first, second, after, rfl, ?_⟩
      rw [behind, Int.natCast_add, Int.add_assoc]
  | case2 address last =>
    obtain rfl := List.mem_singleton.mp there
    simp at whole
  | case3 => cases there

end Listing

namespace Memory

/-- The word of two bytes that were written within a run is read back. -/
theorem wordAt_write_run (memory : Memory) {start : Nat} {before after : List UInt8}
    {high low : UInt8} (fits : start + (before ++ high :: low :: after).length ≤ 4096) :
    (memory.write start (before ++ high :: low :: after)).wordAt (start + before.length) =
      Listing.wordOf high low := by
  simp only [List.length_append, List.length_cons] at fits
  have first : min (start + before.length) 4095 = start + before.length := by omega
  have second : min (start + before.length + 1) 4095 = start + before.length + 1 := by omega
  have next : start + before.length + 1 - start = before.length + 1 := by omega
  simp only [wordAt, byteAt, getElem_write, first, second, next]
  simp [Listing.wordOf, Nat.add_assoc]

end Memory

namespace Machine

variable {machine : Machine} {line : ListingLine} {word : Word}

/-- What a machine does at a line of a listing: the program counter is at the address of the
line, the word there can be fetched and has the text of the line, and a step finds that the
word is no instruction just when the text says that it is data. -/
structure RunsAsListed (machine : Machine) (line : ListingLine) (word : Word) : Prop where
  placed : (machine.pc.toNat : Int) = line.address
  fetches : machine.fetch = ({ machine with pc := machine.pc + 2 }, word)
  behind : ((machine.pc + 2).toNat : Int) = line.address + 2
  text : Mnemonic.ofWord word = line.text
  halts_iff : (machine.step.mode = .halted ∧ machine.step.fault = Fault.invalidOpcode.code) ↔
    line.text.startsWith "DW" = true
  reports : line.text.startsWith "DW" = true →
    machine.step.recordedError = .ok (some (.invalidOpcode word.toNat (some line.address)))

/-- A step finds that a word is no instruction just when it is none. -/
theorem step_halts_invalidOpcode_iff (live : machine.mode.isLive = true)
    (inside : machine.pc.toNat + 2 ≤ 4096) :
    (machine.step.mode = .halted ∧ machine.step.fault = Fault.invalidOpcode.code) ↔
      Instruction.decode machine.wordAtPc = none := by
  rcases step_cases live with ⟨outside, -⟩ | ⟨-, fault, info, refused, stepped⟩ |
    ⟨-, instruction, decoded, accepted, stepped⟩
  · omega
  · rw [stepped]
    rcases wordFault?_cases refused with ⟨unassigned, rfl, -⟩ | ⟨instruction, decoded, refused⟩
    · exact iff_of_true ⟨rfl, rfl⟩ unassigned
    · refine iff_of_false (fun halted => ?_) (by simp [decoded])
      obtain rfl := Fault.code_inj.mp halted.2
      exact absurd (mem_of_faultOf? refused) (by decide)
  · have goesOn : (machine.fetched.execute instruction).mode ≠ .halted :=
      mode_ne_halted_of_execute accepted (Mode.ne_halted_of_isLive live)
    rw [stepped]
    exact iff_of_false (fun halted => goesOn halted.1) (by simp [decoded])

theorem runsAsListed_of_wordAtPc (live : machine.mode.isLive = true)
    (inside : machine.pc.toNat + 2 ≤ 4096) {address : Int}
    (placed : (machine.pc.toNat : Int) = address) (there : machine.wordAtPc = word) :
    machine.RunsAsListed ⟨address, Mnemonic.ofWord word⟩ word := by
  subst placed there
  exact {
    placed := rfl
    fetches := fetch_of_inside inside
    behind := by
      rw [toNat_add_two (by omega)]
      rfl
    text := rfl
    halts_iff := by
      rw [step_halts_invalidOpcode_iff live inside, Mnemonic.startsWith_ofWord_iff]
    reports := fun data => recordedError_step_of_unassigned live inside
      ((Mnemonic.startsWith_ofWord_iff _).mp data) }

/-- A machine runs the bytes that were written to its memory as they are listed. -/
theorem exists_runsAsListed_of_written (live : machine.mode.isLive = true) {start : Nat}
    {bytes : List UInt8} (fits : start + bytes.length ≤ 4096)
    (there : line ∈ Listing.ofBytes start bytes)
    (whole : line.address + 2 ≤ start + bytes.length) :
    ∃ word, { machine with
      memory := machine.memory.write start bytes
      pc := UInt16.ofInt line.address }.RunsAsListed line word := by
  obtain ⟨before, high, low, after, rfl, rfl⟩ := Listing.exists_of_mem_ofBytes there whole
  have room := fits
  simp only [List.length_append, List.length_cons] at room
  have place : (UInt16.ofInt (start + before.length)).toNat = start + before.length := by
    have kept := toNat_ofInt (start + before.length)
    omega
  refine ⟨Listing.wordOf high low, runsAsListed_of_wordAtPc ?_ ?_ ?_ ?_⟩
  · exact live
  · show (UInt16.ofInt (start + before.length)).toNat + 2 ≤ 4096
    omega
  · exact congrArg Nat.cast place
  · show (machine.memory.write _ _).wordAt (UInt16.ofInt (start + before.length)).toNat = _
    rw [place, Memory.wordAt_write_run _ fits]

/-- A program that was loaded runs as it is listed: a machine at a line that shows two bytes
fetches the word of this line, and a step from there finds that the word is no instruction
just when the line begins with `DW`. -/
theorem loaded_program_runs_as_listed {loaded : Machine} {program : ByteData} {origin : Int}
    (running : machine.mode = .running) (succeeded : machine.load program origin = .ok loaded) :
    ∃ size lines, program.size = .ok size ∧ Listing.ofProgram program origin 0 = .ok lines ∧
      ∀ line ∈ lines, line.address + 2 ≤ origin + size →
        ∃ word, { loaded with pc := UInt16.ofInt line.address }.RunsAsListed line word := by
  have live : machine.mode.isLive = true := Mode.isLive_eq_true_iff.mpr (.inl running)
  rw [load_eq_map, map_eq_ok_iff] at succeeded
  obtain ⟨bytes, read, rfl⟩ := succeeded
  obtain ⟨start, rfl⟩ := Memory.exists_origin_of_programBytes read
  have fits := Memory.fits_of_programBytes read
  have data := Memory.toBytes_of_programBytes read
  refine ⟨bytes.length, Listing.ofBytes start bytes, ?_, ?_, fun line there whole => ?_⟩
  · rw [program.size_eq_map_toBytes, data]
    rfl
  · rw [Listing.ofProgram, data]
    show Except.ok (Listing.ofBytes (start + 0) bytes) = _
    rw [Int.add_zero]
  · exact exists_runsAsListed_of_written live fits there whole

/-- A program at the end of the memory whose first word is no instruction, and whose last byte
is left alone. -/
theorem program_at_end_of_memory_runs_as_listed :
    let machine := { powerOn ⟨0, 0⟩ .standard with memory := Memory.zero }
    let bytes : List UInt8 := [0xFF, 0xFF, 0x12, 0x34, 0x00]
    let loaded := { machine with memory := Memory.zero.write 0xFFB bytes }
    machine.mode = .running ∧ machine.load (.bytes bytes) 0xFFB = .ok loaded ∧
      (∃ word, { loaded with pc := 0xFFB }.RunsAsListed ⟨0xFFB, "DW 0xFFFF"⟩ word) ∧
      ∃ word, { loaded with pc := 0xFFD }.RunsAsListed ⟨0xFFD, "JP 0x234"⟩ word := by
  intro machine bytes loaded
  have running : machine.mode = .running := rfl
  have fits : 0xFFB + bytes.length ≤ 4096 := by decide
  have succeeded : machine.load (.bytes bytes) 0xFFB = .ok loaded := machine.load_bytes fits
  obtain ⟨size, lines, sized, listed, runs⟩ := loaded_program_runs_as_listed running succeeded
  cases sized
  have shown : Listing.ofBytes 0xFFB bytes =
      [⟨0xFFB, "DW 0xFFFF"⟩, ⟨0xFFD, "JP 0x234"⟩, ⟨0xFFF, "DB 0x00"⟩] := by decide +kernel
  obtain rfl : Listing.ofBytes 0xFFB bytes = lines := Except.ok.inj listed
  rw [shown] at runs
  have data := runs ⟨0xFFB, "DW 0xFFFF"⟩ (by simp) (by decide)
  have jump := runs ⟨0xFFD, "JP 0x234"⟩ (by simp) (by decide)
  exact ⟨running, succeeded, data, jump⟩

end Machine

end Chip8
