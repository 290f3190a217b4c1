/-
# Checks of ranges

A range of addresses is checked in two places.  An access of the host fails when the range
leaves the memory; inside the machine a fault is recorded in place of the access.  The two
checks are made apart from each other, one in whole numbers and the other in 32 bits.  As long
as the end of the range is a 32-bit number they agree, and both name the first address of the
range that lies beyond the memory.

The words of a program are fetched under the second check, with a read that goes on with the
last byte of the memory.  A host that reads the word at the program counter is told the same.

The main result is `guard_agrees_with_host_check`, and `checks_disagree_on_long_ranges` shows
where the agreement ends.
-/
import Chip8.Proofs.Devices
import Chip8.Proofs.Sprite
import Chip8.Proofs.Step

namespace Chip8

namespace Memory

variable {start : Int} {length : Nat}

/-- An address is the first one of a range that lies beyond the memory. -/
structure IsFirstBeyond (start : Int) (length : Nat) (address : Int) : Prop where
  beyond : 4096 ≤ address
  mem : start ≤ address ∧ address < start + length
  least : ∀ other, 4096 ≤ other → start ≤ other → other < start + length → address ≤ other

theorem isFirstBeyond_max (nonempty : 0 < length) (beyond : 4096 < start + length) :
    IsFirstBeyond start length (max start 4096) :=
  ⟨by omega, by omega, by omega⟩

theorem checkRange_eq_ok_iff :
    checkRange start length = .ok () ↔ 0 ≤ start ∧ start + length ≤ 4096 := by
  unfold checkRange
  by_cases low : start < 0
  · rw [if_pos low]
    simp only [reduceCtorEq, false_iff]
    omega
  · by_cases high : start + length > 4096
    · rw [if_neg low, if_pos high]
      simp only [reduceCtorEq, false_iff]
      omega
    · rw [if_neg low, if_neg high]
      exact iff_of_true rfl (by omega)

theorem checkRange_of_beyond (nonneg : 0 ≤ start) (beyond : 4096 < start + length) :
    checkRange start length = .error (.addressOutOfRange (max start 4096)) := by
  rw [checkRange, if_neg (Int.not_lt.mpr nonneg), if_pos beyond]

variable (memory : Memory) {address : Nat}

theorem readWord_of_inside (inside : address + 2 ≤ 4096) :
    memory.readWord address = .ok (memory.wordAt address) := by
  have checked : checkRange address wordBytes = .ok () :=
    checkRange_eq_ok_iff.mpr ⟨Int.natCast_nonneg address, Int.ofNat_le.mpr inside⟩
  rw [readWord, checked]
  rfl

theorem readWord_of_outside (outside : 4096 < address + 2) :
    memory.readWord address = .error (.addressOutOfRange (max (address : Int) 4096)) := by
  have checked : checkRange address wordBytes = _ :=
    checkRange_of_beyond (Int.natCast_nonneg address) (Int.ofNat_lt.mpr outside)
  rw [readWord, checked]
  rfl

/-- A word within the memory has its first byte in the upper half. -/
theorem toNat_wordAt (inside : address + 1 < 4096) :
    (memory.wordAt address).toNat =
      256 * (memory.cell ⟨address, Nat.lt_of_succ_lt inside⟩).toNat +
        (memory.cell ⟨address + 1, inside⟩).toNat := by
  rw [← byteAt_eq_cell memory (Nat.lt_of_succ_lt inside), ← byteAt_eq_cell memory inside]
  exact Sprite.toNat_join _ _

end Memory

namespace Machine

variable {start length : Int}

theorem guard_eq_ok (machine : Machine) (startHeld : Width.signed32.Holds start)
    (lengthHeld : Width.signed32.Holds length) (change : Machine → Machine) :
    machine.guard start length change = .ok (machine.guardRange start length change) := by
  rw [guard, (Width.check_eq_ok_iff _ _).mpr startHeld, (Width.check_eq_ok_iff _ _).mpr lengthHeld]
  rfl

theorem guard_eq_error (machine : Machine) (startHeld : Width.signed32.Holds start)
    (wide : ¬ Width.signed32.Holds length) (change : Machine → Machine) :
    machine.guard start length change = .error (.numberOutOfRange length) := by
  rw [guard, (Width.check_eq_ok_iff _ _).mpr startHeld, Width.check, if_neg wide]
  rfl

/-- A range whose end is a 32-bit number is checked as a plain sum. -/
theorem guardRange_of_bounds (machine : Machine) (low : -0x80000000 ≤ start + length)
    (high : start + length ≤ 0x7FFFFFFF) (change : Machine → Machine) :
    machine.guardRange start length change =
      if 4096 < start + length then machine.halt .addressOutOfRange (max start 4096)
      else change machine := by
  rw [guardRange, wrap32_of_bounds low (by omega)]

/-- The two checks of a range agree.  The host is refused just when the machine halts in place
of a change, whatever the change is, and the address of the error is the one that the fault is
about, the first of the range beyond the memory.  Otherwise the change is made and nothing
else. -/
structure ChecksAgree (machine : Machine) (start : Int) (length : Nat) : Prop where
  settled : Memory.checkRange start length = .ok () ∨
    ∃ address, Memory.checkRange start length = .error (.addressOutOfRange address)
  refused_iff : ∀ address,
    Memory.checkRange start length = .error (.addressOutOfRange address) ↔
      ∀ change, machine.guard start length change =
        .ok (machine.halt .addressOutOfRange address)
  first : ∀ address, Memory.checkRange start length = .error (.addressOutOfRange address) →
    Memory.IsFirstBeyond start length address
  allowed_iff : Memory.checkRange start length = .ok () ↔
    ∀ change, machine.guard start length change = .ok (change machine)

/-- The program counter moves on when a word is fetched and stays when the machine halts. -/
theorem halt_ne_fetched (machine : Machine) (fault : Fault) (info : Int) :
    machine.halt fault info ≠ machine.fetched := by
  intro same
  have pc : machine.pc = machine.pc + 2 := congrArg Machine.pc same
  rw [← UInt16.toNat_inj, UInt16.toNat_add] at pc
  have bound := UInt16.toNat_lt machine.pc
  have two : (2 : UInt16).toNat = 2 := rfl
  omega

theorem halt_inj (machine : Machine) (fault : Fault) {first second : Int}
    (same : machine.halt fault first = machine.halt fault second) : first = second :=
  congrArg Machine.faultInfo same

namespace ChecksAgree

variable {machine : Machine} {length : Nat}

theorem of_refused {address : Int}
    (checked : Memory.checkRange start length = .error (.addressOutOfRange address))
    (first : Memory.IsFirstBeyond start length address)
    (halted : ∀ change, machine.guard start length change =
      .ok (machine.halt .addressOutOfRange address)) : machine.ChecksAgree start length := by
  have unique {other : Int}
      (refused : Memory.checkRange start length = .error (.addressOutOfRange other)) :
      other = address := by
    rw [checked] at refused
    cases refused
    rfl
  refine ⟨.inr ⟨address, checked⟩, fun other => ⟨?_, ?_⟩, ?_, iff_of_false ?_ ?_⟩
  · intro refused
    rw [unique refused]
    exact halted
  · intro always
    have same := Except.ok.inj ((halted id).symm.trans (always id))
    rw [checked, machine.halt_inj .addressOutOfRange same]
  · intro other refused
    rw [unique refused]
    exact first
  · intro allowed
    rw [checked] at allowed
    cases allowed
  · -- Moving the program counter on is a change that no halt can be mistaken for.
    intro always
    have same := Except.ok.inj ((halted fetched).symm.trans (always fetched))
    exact machine.halt_ne_fetched _ _ same

theorem of_allowed (checked : Memory.checkRange start length = .ok ())
    (changed : ∀ change, machine.guard start length change = .ok (change machine)) :
    machine.ChecksAgree start length := by
  have settled (address : Int) :
      Memory.checkRange start length ≠ .error (.addressOutOfRange address) := by
    intro refused
    rw [checked] at refused
    cases refused
  refine ⟨.inl checked, fun address => iff_of_false (settled address) ?_,
    fun address refused => absurd refused (settled address), iff_of_true checked changed⟩
  intro always
  have same := Except.ok.inj ((always fetched).symm.trans (changed fetched))
  exact machine.halt_ne_fetched _ _ same

end ChecksAgree

theorem checksAgree_of_fits (machine : Machine) {start length : Nat} (nonempty : 0 < length)
    (fits : start + length ≤ 0x7FFFFFFF) : machine.ChecksAgree start length := by
  have startHeld : Width.signed32.Holds start :=
    Width.signed32_holds_of_nonneg (Int.natCast_nonneg start) (by omega)
  have lengthHeld : Width.signed32.Holds length :=
    Width.signed32_holds_of_nonneg (Int.natCast_nonneg length) (by omega)
  have low : -0x80000000 ≤ (start : Int) + length := by omega
  have high : (start : Int) + length ≤ 0x7FFFFFFF := by omega
  have guarded := machine.guard_eq_ok startHeld lengthHeld
  simp only [machine.guardRange_of_bounds low high] at guarded
  by_cases beyond : 4096 < (start : Int) + length
  · simp only [if_pos beyond] at guarded
    exact .of_refused (Memory.checkRange_of_beyond (Int.natCast_nonneg start) beyond)
      (Memory.isFirstBeyond_max nonempty beyond) guarded
  · simp only [if_neg beyond] at guarded
    exact .of_allowed
      (Memory.checkRange_eq_ok_iff.mpr ⟨Int.natCast_nonneg start, Int.not_lt.mp beyond⟩) guarded

/-- Beyond the 32-bit numbers the machine refuses a length that the host's check still judges. -/
theorem guard_eq_error_of_long (machine : Machine) {start length : Nat} (low : start ≤ 0xFFFF)
    (long : 0x7FFFFFFF < length) (change : Machine → Machine) :
    machine.guard start length change = .error (.numberOutOfRange length) :=
  machine.guard_eq_error
    (Width.signed32_holds_of_nonneg (Int.natCast_nonneg start) (by omega))
    (fun held => absurd held.2 (by show ¬ (length : Int) ≤ 0x7FFFFFFF; omega)) change

/-- A range between two 32-bit numbers whose end is none is checked as if it ended below
address zero: the change is made, although the range leaves the memory. -/
theorem guard_of_wrapped_end (machine : Machine) {start length : Nat} (low : start ≤ 0xFFFF)
    (held : length ≤ 0x7FFFFFFF) (past : 0x7FFFFFFF < start + length)
    (change : Machine → Machine) :
    machine.guard start length change = .ok (change machine) := by
  have wrapped : wrap32 ((start : Int) + length) = start + length - 0x100000000 := by
    rw [wrap32, Int.bmod_def]
    omega
  have below : ¬ 4096 < wrap32 ((start : Int) + length) := by
    rw [wrapped]
    omega
  rw [machine.guard_eq_ok (Width.signed32_holds_of_nonneg (Int.natCast_nonneg start) (by omega))
    (Width.signed32_holds_of_nonneg (Int.natCast_nonneg length) (by omega)), guardRange,
    if_neg below]

/-- So the checks do not agree on such a range. -/
theorem not_checksAgree_of_wrapped_end (machine : Machine) {start length : Nat}
    (low : start ≤ 0xFFFF) (held : length ≤ 0x7FFFFFFF) (past : 0x7FFFFFFF < start + length) :
    ¬ machine.ChecksAgree start length := by
  intro agrees
  have changed := machine.guard_of_wrapped_end low held past
  have inside := (Memory.checkRange_eq_ok_iff.mp (agrees.allowed_iff.mpr changed)).2
  omega

/-! ## Fetching a word -/

/-- A host is refused the word at the program counter just when fetching it halts, with the
same address. -/
theorem readWord_refused_iff (machine : Machine) (address : Int) :
    machine.memory.readWord machine.pc.toNat = .error (.addressOutOfRange address) ↔
      machine.fetch.1 = machine.halt .addressOutOfRange address := by
  rcases Nat.lt_or_ge 4096 (machine.pc.toNat + 2) with outside | inside
  · rw [machine.memory.readWord_of_outside outside, fetch_of_outside outside]
    constructor
    · intro refused
      cases refused
      rfl
    · intro halted
      rw [machine.halt_inj .addressOutOfRange halted]
  · rw [machine.memory.readWord_of_inside inside, fetch_of_inside inside]
    refine iff_of_false (fun refused => ?_) fun halted => ?_
    · cases refused
    · exact machine.halt_ne_fetched _ _ halted.symm

/-- A host reads the word at the program counter just when it is fetched. -/
theorem readWord_eq_ok_iff (machine : Machine) (word : Word) :
    machine.memory.readWord machine.pc.toNat = .ok word ↔
      machine.fetch = (machine.fetched, word) := by
  rcases Nat.lt_or_ge 4096 (machine.pc.toNat + 2) with outside | inside
  · rw [machine.memory.readWord_of_outside outside, fetch_of_outside outside]
    refine iff_of_false (fun read => ?_) fun moved => ?_
    · cases read
    · exact machine.halt_ne_fetched _ _ (congrArg Prod.fst moved)
  · rw [machine.memory.readWord_of_inside inside, fetch_of_inside inside]
    constructor
    · intro read
      cases read
      rfl
    · intro moved
      exact congrArg Except.ok (congrArg Prod.snd moved)

/-- Either the word at the program counter begins beyond the last place for a word, or it is
made of its two bytes, the first of them in the upper half. -/
theorem readWord_cases (machine : Machine) :
    (∃ address, machine.memory.readWord machine.pc.toNat = .error (.addressOutOfRange address)) ∨
      ∃ (word : Word) (high low : Address), high.val = machine.pc.toNat ∧
        low.val = machine.pc.toNat + 1 ∧ machine.memory.readWord machine.pc.toNat = .ok word ∧
        word.toNat =
          256 * (machine.memory.cell high).toNat + (machine.memory.cell low).toNat := by
  rcases Nat.lt_or_ge 4096 (machine.pc.toNat + 2) with outside | inside
  · exact .inl ⟨_, machine.memory.readWord_of_outside outside⟩
  · exact .inr ⟨_, _, _, rfl, rfl, machine.memory.readWord_of_inside inside,
      machine.memory.toNat_wordAt (Nat.le_of_lt_succ (Nat.lt_succ_of_le inside))⟩

/-- The check of the host and the check of the machine agree on every range of at least one
byte whose end is a 32-bit number.  A length beyond the 32-bit numbers is an error of its own
inside the machine, where the host still finds the range outside the memory.  So a word is
fetched when a host can read it at the program counter, and it is the word of the two bytes
there; otherwise fetching halts, and the fault is about the address of the host's error. -/
theorem guard_agrees_with_host_check (machine : Machine) :
    (∀ start length : Nat, start ≤ 0xFFFF → 1 ≤ length → start + length ≤ 0x7FFFFFFF →
      machine.ChecksAgree start length) ∧
    (∀ start length : Nat, start ≤ 0xFFFF → 0x7FFFFFFF < length →
      (∀ change, machine.guard start length change = .error (.numberOutOfRange length)) ∧
        ∃ address, Memory.checkRange start length = .error (.addressOutOfRange address) ∧
          Memory.IsFirstBeyond start length address) ∧
    (∀ address,
      machine.memory.readWord machine.pc.toNat = .error (.addressOutOfRange address) ↔
        machine.fetch.1 = machine.halt .addressOutOfRange address) ∧
    (∀ word, machine.memory.readWord machine.pc.toNat = .ok word ↔
      machine.fetch = ({ machine with pc := machine.pc + 2 }, word)) ∧
    ((∃ address,
        machine.memory.readWord machine.pc.toNat = .error (.addressOutOfRange address)) ∨
      ∃ (word : Word) (high low : Address), high.val = machine.pc.toNat ∧
        low.val = machine.pc.toNat + 1 ∧ machine.memory.readWord machine.pc.toNat = .ok word ∧
        word.toNat =
          256 * (machine.memory.cell high).toNat + (machine.memory.cell low).toNat) := by
  refine ⟨fun start length _ nonempty fits => machine.checksAgree_of_fits nonempty fits,
    fun start length low long => ⟨machine.guard_eq_error_of_long low long, ?_⟩,
    machine.readWord_refused_iff, machine.readWord_eq_ok_iff, machine.readWord_cases⟩
  have beyond : 4096 < (start : Int) + length := by omega
  exact ⟨_, Memory.checkRange_of_beyond (Int.natCast_nonneg start) beyond,
    Memory.isFirstBeyond_max (Nat.lt_trans (by decide) long) beyond⟩

/-- A range that ends with the memory, one that reaches a byte beyond it, and a word of which
only the first byte is in memory. -/
theorem checks_agree_at_end_of_memory :
    let machine : Machine := { powerOn ⟨0, 0⟩ .standard with pc := 0xFFF }
    machine.guard 0xFF0 16 tick = .ok machine.tick ∧
      machine.guard 0xFF0 17 tick = .ok (machine.halt .addressOutOfRange 0x1000) ∧
      machine.guard 0xFF0 0x80000000 tick = .error (.numberOutOfRange 0x80000000) ∧
      machine.fetch.1 = machine.halt .addressOutOfRange 0x1000 := by
  intro machine
  obtain ⟨agrees, refused, fetches, -⟩ := guard_agrees_with_host_check machine
  have within := agrees 0xFF0 16 (by decide) (by decide) (by decide)
  have across := agrees 0xFF0 17 (by decide) (by decide) (by decide)
  exact ⟨within.allowed_iff.mp rfl tick, (across.refused_iff 0x1000).mp rfl tick,
    (refused 0xFF0 0x80000000 (by decide) (by decide)).1 tick, (fetches 0x1000).mp rfl⟩

/-- The checks do not agree on every range that begins at a 16-bit address.  A length beyond
the 32-bit numbers does not halt the machine, and neither does one that still is a 32-bit
number while the end of its range is none. -/
theorem checks_disagree_on_long_ranges :
    let machine := powerOn ⟨0, 0⟩ .standard
    ¬ machine.ChecksAgree 0 0x80000000 ∧ ¬ machine.ChecksAgree 1 0x7FFFFFFF := by
  intro machine
  have judged : Memory.checkRange 0 0x80000000 = .error (.addressOutOfRange 4096) := rfl
  refine ⟨fun agrees => ?_,
    machine.not_checksAgree_of_wrapped_end (by decide) (by decide) (by decide)⟩
  have halted := (agrees.refused_iff 4096).mp judged tick
  rw [show ((0x80000000 : Nat) : Int) = (0x80000000 : Int) from rfl,
    machine.guard_eq_error (by decide) (by decide)] at halted
  cases halted

end Machine

end Chip8
