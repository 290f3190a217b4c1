/-
# Waiting for a key

A machine waits by standing in front of the instruction that waits: each step fetches it
anew, finds no key, and moves the program counter back.  Nothing in the machine records
this but the mode, so that the program counter still points at such an instruction is a
property of histories.  It holds of sessions, whose hosts do not write to memory while a
program runs.

The main result is `waiting_step_repeats_or_takes_key`.
-/
import Chip8.Proofs.Encoding
import Chip8.Proofs.Session.Invariant
import Chip8.Proofs.Step

namespace Chip8

namespace Keypad

variable {keypad : Keypad} {key : Fin 16}

theorem lowest?_eq_some_iff :
    keypad.lowest? = some key ↔
      keypad.isPressed key = true ∧ ∀ lower < key, keypad.isPressed lower = false := by
  rw [lowest?, List.find?_eq_some_iff_getElem]
  refine and_congr_right fun _ => ⟨?_, ?_⟩
  · rintro ⟨index, inBounds, rfl, released⟩ lower below
    have found := released lower.val (by simpa [Fin.lt_def] using below)
    simpa using found
  · intro released
    refine ⟨key.val, by simp, by simp, ?_⟩
    intro index below
    simpa using released ⟨index, by omega⟩ below

/-- When some key is pressed, one of the pressed keys is the lowest. -/
theorem exists_lowest?_eq_some (pressed : keypad.isPressed key = true) :
    ∃ lowest, keypad.lowest? = some lowest := by
  rw [← Option.isSome_iff_exists, Option.isSome_iff_ne_none]
  intro released
  rw [(lowest?_eq_none_iff keypad).mp released key] at pressed
  cases pressed

end Keypad

namespace Machine

variable {machine : Machine} {x : Register}

/-- When the machine waits for a key, the instruction at the program counter is one that
waits. -/
def StandsAtWait (machine : Machine) : Prop :=
  machine.mode = .waitingForKey →
    machine.pc.toNat + 2 ≤ 4096 ∧ ∃ x, Instruction.decode machine.wordAtPc = some (.waitKey x)

/-- Without a key, the machine is back where it fetched the instruction. -/
theorem execute_waitKey_of_none (released : machine.keypad.lowest? = none) :
    machine.fetched.execute (.waitKey x) = { machine with mode := .waitingForKey } := by
  have found : machine.fetched.keypad.lowest? = none := released
  show machine.fetched.waitForKey x = _
  rw [waitForKey, found]
  dsimp only
  rw [currentAddress_fetched]
  rfl

/-- With a key, the machine goes on with the number of the lowest one. -/
theorem execute_waitKey_of_some {key : Fin 16} (pressed : machine.keypad.lowest? = some key) :
    machine.fetched.execute (.waitKey x) =
      { machine.write x (UInt8.ofNat key.val) with pc := machine.pc + 2, mode := .running } := by
  have found : machine.fetched.keypad.lowest? = some key := pressed
  show machine.fetched.waitForKey x = _
  rw [waitForKey, found]
  rfl

/-- An instruction after which a machine waits is one that waits, or found the machine
waiting. -/
theorem modeAfter_eq_waitingForKey {instruction : Instruction}
    (waits : machine.modeAfter instruction = .waitingForKey) :
    (∃ x, instruction = .waitKey x ∧ machine.keypad.lowest? = none) ∨
      (machine.mode = .waitingForKey ∧ ∀ x, instruction ≠ .waitKey x) := by
  rw [modeAfter.eq_def] at waits
  split at waits
  · cases waits
  · rename_i x
    split at waits
    · rename_i released
      exact .inl ⟨x, rfl, Option.isNone_iff_eq_none.mp released⟩
    · cases waits
  · rename_i other
    exact .inr ⟨waits, other⟩

theorem StandsAtWait.step (stands : machine.StandsAtWait) : machine.step.StandsAtWait := by
  refine machine.step_elim ?stopped ?outside ?refused ?executed
  case stopped => exact fun _ => stands
  case outside => exact fun _ _ halted => nomatch halted
  case refused => exact fun _ _ _ _ _ halted => nomatch halted
  case executed =>
    intro live inside instruction decoded accepted waiting
    rw [mode_execute accepted] at waiting
    rcases modeAfter_eq_waitingForKey waiting with ⟨x, rfl, released⟩ | ⟨waited, other⟩
    · have none : machine.keypad.lowest? = none := released
      rw [execute_waitKey_of_none none]
      exact ⟨inside, x, decoded⟩
    · -- The machine would have stood at two instructions at once.
      obtain ⟨-, x, stood⟩ := stands waited
      exact absurd (Option.some.inj (decoded.symm.trans stood)) (other x)

end Machine

namespace Session

open Machine (StandsAtWait)

theorem isInvariant_standsAtWait : IsInvariant StandsAtWait where
  restart _ _ _ _ running := nomatch running
  step _ _ stands := stands.step
  input _ _ _ _ _ stands := stands

/-- The machine of a reachable session that waits for a key stands at an instruction
`FX0A` in memory.  As long as no key is pressed, steps leave it exactly as it is.  When
some key is pressed, a step writes the number of the lowest one to `VX` and goes on
behind the instruction; this is the key that the session names when it is asked. -/
theorem waiting_step_repeats_or_takes_key {session : Session} (reachable : session.IsReachable)
    (waiting : session.machine.mode = .waitingForKey) :
    let machine := session.machine
    let word := machine.wordAtPc
    machine.pc.toNat + 2 ≤ 4096 ∧ word.family.val = 0xF ∧ word.nn = 0x0A ∧
      ((∀ key, machine.keypad.isPressed key = false) →
        machine.step = machine ∧ (∀ count, machine.run count = machine) ∧
        ∀ count, machine.perform (.run count) = machine) ∧
      ((∃ key, machine.keypad.isPressed key = true) →
        ∃ key, machine.keypad.isPressed key = true ∧
          (∀ lower < key, machine.keypad.isPressed lower = false) ∧
          machine.step =
            { machine.write word.x (UInt8.ofNat key.val) with
              pc := machine.pc + 2, mode := .running } ∧
          (machine.pc + 2).toNat = machine.pc.toNat + 2 ∧
          session.perform .lowestKey = (.ok (.key (some key)), session)) := by
  intro machine word
  have stands : machine.StandsAtWait := isInvariant_standsAtWait.of_isReachable reachable
  obtain ⟨inside, x, decoded⟩ := stands waiting
  have digits : word.family.val = 0xF ∧ word.x = x ∧ word.nn = 0x0A :=
    Instruction.digits_of_withByte (Instruction.number_of_decode decoded)
  have live : machine.mode.isLive = true := Mode.isLive_eq_true_iff.mpr (.inr waiting)
  have stepped := Machine.step_of_decode live inside decoded
  refine ⟨inside, digits.1, digits.2.2, ?_, ?_⟩
  · intro released
    have repeats : machine.step = machine := by
      have none := (Keypad.lowest?_eq_none_iff _).mpr released
      rw [stepped, Machine.execute_waitKey_of_none none, ← waiting]
    have runs := Machine.run_of_step_eq_self repeats
    refine ⟨repeats, runs, ?_⟩
    intro count
    obtain ⟨steps, same⟩ := machine.exists_perform_run count
    rw [same, runs]
  · rintro ⟨pressed, isPressed⟩
    obtain ⟨key, lowest⟩ := Keypad.exists_lowest?_eq_some isPressed
    obtain ⟨keyPressed, least⟩ := Keypad.lowest?_eq_some_iff.mp lowest
    refine ⟨key, keyPressed, least, ?_, toNat_add_two (by omega), ?_⟩
    · rw [stepped, Machine.execute_waitKey_of_some lowest, digits.2.1]
    · rw [← lowest]
      rfl

/-- A program that begins by waiting for a key, while two keys are pressed. -/
theorem lower_of_two_keys_ends_wait :
    let session := (standard.performAll
      [.load (.bytes [0xF3, 0x0A]) false, .step, .setKey 0xB true, .setKey 0x4 true, .tick]).2
    session.IsReachable ∧ session.machine.mode = .waitingForKey ∧
      session.machine.step.mode = .running ∧ session.machine.step.pc = 0x202 ∧
      session.machine.step.v session.machine.wordAtPc.x = 4 := by
  intro session
  have reachable : session.IsReachable := isReachable_performAll_standard _
  have fits : programStart + [0xF3, 0x0A].length ≤ 4096 := by decide
  have released : (loaded [0xF3, 0x0A]).machine.keypad = .released := by
    rw [machine_loaded fits]
    rfl
  have waitedMachine : ((loaded [0xF3, 0x0A]).perform .step).2.machine =
      { (loaded [0xF3, 0x0A]).machine with mode := .waitingForKey } := by
    have none : (loaded [0xF3, 0x0A]).machine.keypad.lowest? = none := by
      rw [released]
      rfl
    have decoded : Instruction.decode 0xF30A = some (.waitKey 3) := rfl
    rw [machine_perform_step (isClear_loaded fits), step_loaded_of_decode 0xF3 0x0A decoded,
      Machine.execute_waitKey_of_none none]
  have pressing (start : Session) :
      (start.performAll [.setKey 0xB true, .setKey 0x4 true, .tick]).2.machine =
        { start.machine with
          keypad := (start.machine.keypad.set 0xB true).set 0x4 true
          delayTimer := Machine.countDown start.machine.delayTimer
          soundTimer := Machine.countDown start.machine.soundTimer } := rfl
  have pressed : session.machine =
      { (loaded [0xF3, 0x0A]).machine with
        mode := .waitingForKey
        keypad := (Keypad.released.set 0xB true).set 0x4 true
        delayTimer := Machine.countDown (loaded [0xF3, 0x0A]).machine.delayTimer
        soundTimer := Machine.countDown (loaded [0xF3, 0x0A]).machine.soundTimer } := by
    have parts : session = (((loaded [0xF3, 0x0A]).perform .step).2.performAll
        [.setKey 0xB true, .setKey 0x4 true, .tick]).2 := by
      rw [loaded, ← performAll_cons_snd, ← performAll_cons_snd]
    rw [parts, pressing, waitedMachine, ← released]
  have waiting : session.machine.mode = .waitingForKey := by rw [pressed]
  have lowest : session.machine.keypad.lowest? = some 4 := by
    rw [pressed]
    decide
  clear_value session
  obtain ⟨-, -, -, -, takes⟩ := waiting_step_repeats_or_takes_key reachable waiting
  obtain ⟨key, isPressed, least, stepped, -, -⟩ :=
    takes ⟨4, (Keypad.lowest?_eq_some_iff.mp lowest).1⟩
  obtain rfl : key = 4 :=
    Option.some.inj ((Keypad.lowest?_eq_some_iff.mpr ⟨isPressed, least⟩).symm.trans lowest)
  rw [stepped]
  refine ⟨reachable, waiting, rfl, ?_, ?_⟩
  · show session.machine.pc + 2 = 0x202
    rw [pressed, pc_loaded_word]
    decide
  · rw [Machine.v]
    dsimp only
    have written (x : Register) : (session.machine.write x (UInt8.ofNat 4)).v x = 4 := by
      rw [Machine.v_write, if_pos rfl]
      rfl
    exact written session.machine.wordAtPc.x

end Session

end Chip8
