/-
# Invariants

What a call can make of a machine is said once, in `perform_cases`.  From it follows
the induction over histories: a property that a machine has when it is switched on,
and that neither a step nor an access of the host destroys, holds of every reachable
machine.
-/
import Chip8.Machine.Call

namespace Chip8

section Except

variable {α β : Type}

theorem bind_eq_ok_iff {first : Except Error α} {next : α → Except Error β} {result : β} :
    first >>= next = .ok result ↔ ∃ value, first = .ok value ∧ next value = .ok result := by
  cases first with
  | error cause => simp [bind, Except.bind]
  | ok value => simp [bind, Except.bind]

theorem map_eq_ok_iff {first : Except Error α} {change : α → β} {result : β} :
    first.map change = .ok result ↔ ∃ value, first = .ok value ∧ change value = result := by
  cases first with
  | error cause => simp [Except.map]
  | ok value => simp [Except.map]

end Except

namespace Memory

variable {bytes : List UInt8} {origin : Nat}

theorem checkFit_of_fits (fits : origin + bytes.length ≤ 4096) :
    checkFit bytes.length origin = .ok () := by
  rw [checkFit, if_neg (by omega)]

theorem programBytes_of_toBytes {program : ByteData} (read : program.toBytes = .ok bytes)
    (fits : origin + bytes.length ≤ 4096) : programBytes program origin = .ok bytes := by
  rw [programBytes_eq, read]
  show (checkFit bytes.length origin >>= fun _ => _) = _
  rw [checkFit_of_fits fits]
  rfl

theorem programBytes_bytes (fits : origin + bytes.length ≤ 4096) :
    programBytes (.bytes bytes) origin = .ok bytes :=
  programBytes_of_toBytes rfl fits

theorem programBytes_of_outside {program : ByteData} {start : Int}
    (read : program.toBytes = .ok bytes) (outside : start < 0 ∨ 4096 < start + bytes.length) :
    programBytes program start = .error (.romTooLarge bytes.length start) := by
  rw [programBytes_eq, read]
  show (checkFit bytes.length start >>= _) = _
  rw [checkFit, if_pos outside]
  rfl

/-- The bytes of a program fit in memory. -/
theorem fits_of_programBytes {program : ByteData}
    (read : programBytes program origin = .ok bytes) : origin + bytes.length ≤ 4096 := by
  rw [programBytes_eq] at read
  obtain ⟨data, -, read⟩ := bind_eq_ok_iff.mp read
  obtain ⟨_, fits, same⟩ := bind_eq_ok_iff.mp read
  cases same
  rcases Nat.lt_or_ge 4096 (origin + bytes.length) with outside | inside
  · rw [checkFit, if_pos (.inr (by omega))] at fits
    cases fits
  · exact inside

theorem checkFit_of_programBytes {program : ByteData} {start : Int}
    (read : programBytes program start = .ok bytes) : checkFit bytes.length start = .ok () := by
  rw [programBytes_eq] at read
  obtain ⟨data, -, read⟩ := bind_eq_ok_iff.mp read
  obtain ⟨_, fits, same⟩ := bind_eq_ok_iff.mp read
  cases same
  exact fits

theorem toBytes_of_programBytes {program : ByteData} {start : Int}
    (read : programBytes program start = .ok bytes) : program.toBytes = .ok bytes := by
  rw [programBytes_eq] at read
  obtain ⟨data, found, read⟩ := bind_eq_ok_iff.mp read
  obtain ⟨_, -, same⟩ := bind_eq_ok_iff.mp read
  cases same
  exact found

/-- A program is loaded at an address. -/
theorem exists_origin_of_programBytes {program : ByteData} {start : Int}
    (read : programBytes program start = .ok bytes) : ∃ origin : Nat, start = origin := by
  have fits := checkFit_of_programBytes read
  rw [checkFit] at fits
  refine Int.eq_ofNat_of_zero_le (Int.not_lt.mp fun low => ?_)
  simp [low] at fits

end Memory

namespace Machine

variable {machine next : Machine}

/-- Loading fails exactly when the bytes of the program cannot be read or do not fit. -/
theorem load_eq_map (machine : Machine) (program : ByteData) (origin : Int) :
    machine.load program origin = (Memory.programBytes program origin).map fun bytes =>
      { machine with memory := machine.memory.write origin.toNat bytes } := by
  cases read : Memory.programBytes program origin with
  | error cause =>
    rw [load, read]
    rfl
  | ok bytes =>
    rw [load, read]
    show (machine.memory.load bytes origin >>= fun _ => _) = _
    rw [Memory.load, Memory.checkFit_of_programBytes read]
    rfl

theorem exists_of_load_eq_ok {program : ByteData} {origin : Int}
    (loaded : machine.load program origin = .ok next) :
    ∃ memory, next = { machine with memory := memory } := by
  obtain ⟨bytes, -, loaded⟩ := bind_eq_ok_iff.mp loaded
  obtain ⟨memory, -, loaded⟩ := bind_eq_ok_iff.mp loaded
  cases loaded
  exact ⟨memory, rfl⟩

/-- A program that fits in memory is loaded as it is. -/
theorem load_bytes (machine : Machine) {bytes : List UInt8} {origin : Nat}
    (fits : origin + bytes.length ≤ 4096) :
    machine.load (.bytes bytes) origin =
      .ok { machine with memory := machine.memory.write origin bytes } := by
  have checked := Memory.checkFit_of_fits fits
  rw [load, Memory.programBytes_bytes fits]
  show (machine.memory.load bytes origin >>= fun _ => _) = _
  rw [Memory.load, checked]
  rfl

theorem perform_load_bytes (machine : Machine) {bytes : List UInt8} {origin : Nat}
    (fits : origin + bytes.length ≤ 4096) :
    machine.perform (.load (.bytes bytes) origin) =
      { machine with memory := machine.memory.write origin bytes } := by
  rw [perform, Call.apply, load_bytes machine fits]

/-- The machine after a reset, before a program is loaded. -/
def restarted (machine : Machine) (clearFlags : Bool) : Machine :=
  if clearFlags then powerOn machine.randomKey machine.dialect
  else { powerOn machine.randomKey machine.dialect with flags := machine.flags }

theorem restarted_true (machine : Machine) :
    machine.restarted true = powerOn machine.randomKey machine.dialect :=
  if_pos rfl

theorem restarted_false (machine : Machine) :
    machine.restarted false =
      { powerOn machine.randomKey machine.dialect with flags := machine.flags } :=
  if_neg Bool.false_ne_true

theorem exists_of_reset_eq_ok {program : Option ByteData} {clearFlags : Bool}
    (reset : machine.reset program clearFlags = .ok next) :
    ∃ memory, next = { machine.restarted clearFlags with memory := memory } := by
  cases program with
  | none =>
    replace reset : Except.ok (machine.restarted clearFlags) = .ok next := reset
    cases reset
    generalize machine.restarted clearFlags = fresh
    exact ⟨fresh.memory, rfl⟩
  | some data =>
    have loaded : (machine.restarted clearFlags).load data programStart = .ok next := reset
    exact exists_of_load_eq_ok loaded

/-- The number of steps that a call takes, if it is one that takes steps.  A run that is
refused takes none. -/
def Call.steps? : Call → Option Nat
  | .step => some 1
  | .run count => some (if Width.signed32.Holds count then count.toNat else 0)
  | _ => none

/-- A call that takes steps is a run. -/
theorem perform_of_steps? {call : Call} {count : Nat} (steps : call.steps? = some count) :
    machine.perform call = machine.run count := by
  cases call with
  | step =>
    cases steps
    rfl
  | run cycles =>
    cases steps
    rw [perform, Call.apply]
    by_cases fits : Width.signed32.Holds cycles
    · rw [runChecked_of_holds _ fits, if_pos fits]
    · rw [runChecked_of_not_holds _ fits, if_neg fits]
      rfl
  | _ => cases steps

/-- A call resets the machine, lets it run, selects a resolution, or changes what a
host may change.  A call that fails changes nothing. -/
theorem perform_cases (machine : Machine) (call : Call) :
    (∃ program clearFlags memory, call = .reset program clearFlags ∧
      machine.perform call = { machine.restarted clearFlags with memory := memory }) ∨
    (∃ count, call.steps? = some count ∧ machine.perform call = machine.run count) ∨
    (∃ resolution, machine.perform call = machine.selectResolution resolution) ∨
    (∃ memory registers delayTimer soundTimer keypad, machine.perform call =
      { machine with
        memory := memory
        registers := registers
        delayTimer := delayTimer
        soundTimer := soundTimer
        keypad := keypad }) := by
  cases steps : call.steps? with
  | some count => exact .inr (.inl ⟨count, rfl, perform_of_steps? steps⟩)
  | none =>
    cases applied : call.apply machine with
    | error cause =>
      have failed : machine.perform call = machine := by rw [perform, applied]
      exact .inr (.inr (.inr ⟨_, _, _, _, _, failed⟩))
    | ok next =>
      have performed : machine.perform call = next := by rw [perform, applied]
      rw [performed]
      clear performed
      cases call with
      | load program origin =>
        obtain ⟨memory, rfl⟩ := exists_of_load_eq_ok applied
        exact .inr (.inr (.inr ⟨memory, _, _, _, _, rfl⟩))
      | reset program clearFlags =>
        obtain ⟨memory, rfl⟩ := exists_of_reset_eq_ok applied
        exact .inl ⟨program, clearFlags, memory, rfl, rfl⟩
      | step => cases steps
      | run count => cases steps
      | tick =>
        cases applied
        exact .inr (.inr (.inr ⟨_, _, _, _, _, rfl⟩))
      | setKey index pressed =>
        obtain ⟨key, -, rfl⟩ := map_eq_ok_iff.mp applied
        exact .inr (.inr (.inr ⟨_, _, _, _, _, rfl⟩))
      | setRegister index value =>
        obtain ⟨x, -, rfl⟩ := map_eq_ok_iff.mp applied
        exact .inr (.inr (.inr ⟨_, _, _, _, _, rfl⟩))
      | setDelay value =>
        obtain ⟨-, -, applied⟩ := bind_eq_ok_iff.mp applied
        cases applied
        exact .inr (.inr (.inr ⟨_, _, _, _, _, rfl⟩))
      | setSound value =>
        obtain ⟨-, -, applied⟩ := bind_eq_ok_iff.mp applied
        cases applied
        exact .inr (.inr (.inr ⟨_, _, _, _, _, rfl⟩))
      | setResolution setting =>
        obtain ⟨resolution, -, rfl⟩ := map_eq_ok_iff.mp applied
        exact .inr (.inr (.inl ⟨resolution, rfl⟩))

/-- Whether a call is what reaches a machine from outside while a program runs: the
timers count down, a key is pressed or released, or a register is written. -/
def Call.isInput : Call → Bool
  | .tick => true
  | .setKey _ _ => true
  | .setRegister _ _ => true
  | _ => false

/-- An input changes registers, timers and keys at most, whether it fails or not. -/
theorem perform_of_isInput (machine : Machine) {call : Call} (input : call.isInput = true) :
    ∃ registers delayTimer soundTimer keypad, machine.perform call =
      { machine with
        registers := registers
        delayTimer := delayTimer
        soundTimer := soundTimer
        keypad := keypad } := by
  cases applied : call.apply machine with
  | error cause => exact ⟨_, _, _, _, by rw [perform, applied]⟩
  | ok next =>
    rw [perform, applied]
    cases call with
    | tick =>
      cases applied
      exact ⟨_, _, _, _, rfl⟩
    | setKey index pressed =>
      obtain ⟨key, -, rfl⟩ := map_eq_ok_iff.mp applied
      exact ⟨_, _, _, _, rfl⟩
    | setRegister index value =>
      obtain ⟨x, -, rfl⟩ := map_eq_ok_iff.mp applied
      exact ⟨_, _, _, _, rfl⟩
    | _ => cases input

/-- A property that a machine has when it is switched on, and that no call
destroys. -/
structure IsInvariant (P : Machine → Prop) : Prop where
  powerOn : ∀ randomKey dialect, P (powerOn randomKey dialect)
  step : ∀ machine, P machine → P machine.step
  selectResolution : ∀ machine resolution, P machine → P (machine.selectResolution resolution)
  /-- What a host may change, and the flag registers, which outlive a reset. -/
  access : ∀ machine memory registers delayTimer soundTimer keypad flags, P machine →
    P { machine with
      memory := memory
      registers := registers
      delayTimer := delayTimer
      soundTimer := soundTimer
      keypad := keypad
      flags := flags }

namespace IsInvariant

variable {P : Machine → Prop}

theorem run (invariant : IsInvariant P) (holds : P machine) (count : Nat) :
    P (machine.run count) := by
  induction count generalizing machine with
  | zero => exact holds
  | succ count ih => exact ih (invariant.step machine holds)

theorem restarted (invariant : IsInvariant P) (machine : Machine) (clearFlags : Bool) :
    P (machine.restarted clearFlags) := by
  have fresh := invariant.powerOn machine.randomKey machine.dialect
  cases clearFlags with
  | true => exact fresh
  | false => exact invariant.access _ _ _ _ _ _ machine.flags fresh

theorem perform (invariant : IsInvariant P) (holds : P machine) (call : Call) :
    P (machine.perform call) := by
  rcases machine.perform_cases call with ⟨_, clearFlags, _, -, same⟩ | ⟨count, -, same⟩ |
    ⟨resolution, same⟩ | ⟨_, _, _, _, _, same⟩ <;> rw [same]
  · exact invariant.access _ _ _ _ _ _ _ (invariant.restarted machine clearFlags)
  · exact invariant.run holds count
  · exact invariant.selectResolution machine resolution holds
  · exact invariant.access machine _ _ _ _ _ _ holds

theorem performAll (invariant : IsInvariant P) (holds : P machine) (history : List Call) :
    P (machine.performAll history) := by
  induction history generalizing machine with
  | nil => exact holds
  | cons call history ih => exact ih (invariant.perform holds call)

/-- An invariant holds of every reachable machine. -/
theorem of_isReachable (invariant : IsInvariant P) (reachable : machine.IsReachable) :
    P machine := by
  obtain ⟨randomKey, dialect, history, rfl⟩ := reachable
  exact invariant.performAll (invariant.powerOn randomKey dialect) history

end IsInvariant

end Machine

end Chip8
