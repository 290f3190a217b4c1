/-
# The instruction cycle

A step fetches the word at the program counter, moves on by two bytes, and executes
it.  A machine that has halted or is done stays as it is.
-/
import Chip8.Machine.Execute

namespace Chip8.Machine

/-- The word at the program counter.  Beyond the memory its last byte is read. -/
def wordAtPc (machine : Machine) : Word := machine.memory.wordAt machine.pc.toNat

/-- Fetch a word and move the program counter behind it.  When the word does not
lie in memory the machine halts and the program counter stays. -/
def fetch (machine : Machine) : Machine × Word :=
  (machine.guardRange machine.pc.toNat wordBytes fun machine =>
    { machine with pc := machine.pc + 2 }, machine.wordAtPc)

/-- Fetch and execute one instruction. -/
def step (machine : Machine) : Machine :=
  if machine.mode.isLive then
    let (fetched, word) := machine.fetch
    if fetched.mode = .halted then fetched else fetched.executeWord word
  else machine

/-- Take a number of steps. -/
def run (machine : Machine) : Nat → Machine
  | 0 => machine
  | count + 1 => run machine.step count

/-- A machine that has halted or is done stays as it is. -/
theorem step_of_not_live {machine : Machine} (stopped : machine.mode.isLive = false) :
    machine.step = machine := by
  simp [step, stopped]

/-- Steps that follow each other add up. -/
theorem run_add (machine : Machine) (first second : Nat) :
    machine.run (first + second) = (machine.run first).run second := by
  induction first generalizing machine with
  | zero => rw [Nat.zero_add]; rfl
  | succ first ih => rw [Nat.succ_add, run, run, ih]

end Chip8.Machine
