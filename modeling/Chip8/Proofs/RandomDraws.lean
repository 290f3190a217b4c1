/-
# Random draws

One instruction draws random numbers, and it always takes the key that the draw before it
has left.  Nothing else touches the key: no other instruction, no fault, no input, and
neither another program nor a reset.  So the key of a machine is the first one, turned over
as often as a number was drawn, and each number that was drawn is known from its place among
the draws.

The main result is `random_key_counts_draws`, about the histories of sessions.
-/
import Chip8.Proofs.Session.Invariant
import Chip8.Proofs.Trace
import Mathlib.Logic.Function.Iterate

namespace Chip8

/-- Whether an instruction draws a random number. -/
def Instruction.isDraw : Instruction → Bool
  | .random _ _ => true
  | _ => false

theorem Instruction.isDraw_eq_true_iff {instruction : Instruction} :
    instruction.isDraw = true ↔ ∃ x mask, instruction = .random x mask := by
  constructor
  · intro draw
    cases instruction with
    | random x mask => exact ⟨x, mask, rfl⟩
    | _ => cases draw
  · rintro ⟨x, mask, rfl⟩
    rfl

namespace Machine

variable {machine : Machine}

/-- Whether the next step draws a random number. -/
def drawsNext (machine : Machine) : Bool := machine.nextInstruction?.any Instruction.isDraw

/-- The machines from which a number of steps draw random numbers, in order. -/
def drawsOfRun (machine : Machine) : Nat → List Machine
  | 0 => []
  | count + 1 => (if machine.drawsNext then [machine] else []) ++ machine.step.drawsOfRun count

/-- The machines from which a history of calls draws random numbers, in order. -/
def draws (machine : Machine) : List Call → List Machine
  | [] => []
  | call :: history =>
    machine.drawsOfRun (call.steps?.getD 0) ++ (machine.perform call).draws history

theorem drawsNext_eq_true_iff :
    machine.drawsNext = true ↔ ∃ x mask, machine.nextInstruction? = some (.random x mask) := by
  rw [drawsNext, Option.any_eq_true]
  constructor
  · rintro ⟨instruction, next, draw⟩
    obtain ⟨x, mask, rfl⟩ := Instruction.isDraw_eq_true_iff.mp draw
    exact ⟨x, mask, next⟩
  · rintro ⟨x, mask, next⟩
    exact ⟨_, next, rfl⟩

/-! ## Draws among the executed instructions -/

theorem map_drawsOfRun (machine : Machine) (count : Nat) :
    (machine.drawsOfRun count).map nextInstruction? =
      ((machine.executedByRun count).filter Instruction.isDraw).map some := by
  induction count generalizing machine with
  | zero => rfl
  | succ count ih =>
    have here : (if machine.drawsNext then [machine] else []).map nextInstruction? =
        (machine.nextInstruction?.toList.filter Instruction.isDraw).map some := by
      cases next : machine.nextInstruction? with
      | none => simp [drawsNext, next]
      | some instruction =>
        cases draw : instruction.isDraw <;> simp [drawsNext, next, draw]
    rw [drawsOfRun, executedByRun, List.map_append, List.filter_append, List.map_append, here, ih]

/-- What the draws of a history execute are the instructions among those that the history
executes that draw a random number. -/
theorem map_draws (machine : Machine) (history : List Call) :
    (machine.draws history).map nextInstruction? =
      ((machine.executed history).filter Instruction.isDraw).map some := by
  induction history generalizing machine with
  | nil => rfl
  | cons call history ih =>
    rw [draws, executed, List.map_append, List.filter_append, List.map_append, map_drawsOfRun, ih]

/-- There are as many draws as instructions that draw are executed. -/
theorem length_draws (machine : Machine) (history : List Call) :
    (machine.draws history).length = (machine.executed history).countP Instruction.isDraw := by
  have lengths := congrArg List.length (machine.map_draws history)
  rwa [List.length_map, List.length_map, ← List.countP_eq_length_filter] at lengths

theorem exists_draw_of_getElem? {history : List Call} {c : Nat} {instruction : Instruction}
    (there : ((machine.executed history).filter Instruction.isDraw)[c]? = some instruction) :
    ∃ stage, (machine.draws history)[c]? = some stage ∧
      stage.nextInstruction? = some instruction := by
  have drawn : ((machine.draws history).map nextInstruction?)[c]? = some (some instruction) := by
    rw [map_draws, List.getElem?_map, there]
    rfl
  rw [List.getElem?_map] at drawn
  exact Option.map_eq_some_iff.mp drawn

/-! ## One step -/

/-- A draw writes the byte of the key to a register, without the bits outside the mask, and
turns the key over. -/
theorem step_of_random {x : Register} {mask : UInt8}
    (next : machine.nextInstruction? = some (.random x mask)) :
    machine.step = { machine.fetched.write x (machine.randomKey.byte &&& mask) with
      randomKey := machine.randomKey.next } := by
  obtain ⟨⟨live, inside⟩, decoded⟩ := nextInstruction?_eq_some_iff.mp next
  exact step_of_decode live inside decoded

/-- A step that does not draw keeps the key. -/
theorem randomKey_step (undrawn : machine.drawsNext = false) :
    machine.step.randomKey = machine.randomKey := by
  rcases machine.devices_step_cases with same | ⟨instruction, next, -, same⟩
  · exact congrArg Devices.randomKey same
  · refine (congrArg Devices.randomKey same).trans ?_
    cases instruction with
    | random x mask =>
      rw [drawsNext, next] at undrawn
      cases undrawn
    | _ => rfl

/-! ## Other calls -/

theorem randomKey_powerOn (randomKey : RandomKey) (dialect : Dialect) :
    (powerOn randomKey dialect).randomKey = randomKey :=
  rfl

theorem randomKey_restarted (machine : Machine) (clearFlags : Bool) :
    (machine.restarted clearFlags).randomKey = machine.randomKey := by
  cases clearFlags with
  | true => rw [restarted_true, randomKey_powerOn]
  | false =>
    rw [restarted_false]
    dsimp only
    rw [randomKey_powerOn]

/-- A call that takes no steps keeps the key. -/
theorem randomKey_perform {call : Call} (steps : call.steps? = none) :
    (machine.perform call).randomKey = machine.randomKey := by
  rcases machine.perform_cases call with ⟨_, clearFlags, _, -, same⟩ | ⟨count, steps', -⟩ |
    ⟨resolution, same⟩ | ⟨_, _, _, _, _, same⟩
  · rw [same]
    exact machine.randomKey_restarted clearFlags
  · rw [steps] at steps'
    cases steps'
  · rw [same]
    rfl
  · rw [same]

/-! ## Draws one after another -/

/-- A key feeds machines that draw one after another when the first of them has it, and each
of the others the key that the draw before it leaves; the last key is what they leave. -/
inductive Feeds : RandomKey → List Machine → RandomKey → Prop
  | nil (key : RandomKey) : Feeds key [] key
  | cons (machine : Machine) {later : List Machine} {last : RandomKey}
      (rest : Feeds machine.randomKey.next later last) :
      Feeds machine.randomKey (machine :: later) last

namespace Feeds

variable {first middle last : RandomKey} {here later : List Machine}

theorem append (before : Feeds first here middle) (after : Feeds middle later last) :
    Feeds first (here ++ later) last := by
  induction before with
  | nil key => exact after
  | cons machine rest ih => exact .cons machine (ih after)

/-- The last key is the first one, turned over at each draw. -/
theorem last_eq (feeds : Feeds first here last) :
    last = Nat.iterate RandomKey.next here.length first := by
  induction feeds with
  | nil key => rfl
  | cons machine rest ih => exact ih

/-- The key of a draw is the first one, turned over at each draw before. -/
theorem randomKey_of_getElem? (feeds : Feeds first here last) {c : Nat} {stage : Machine}
    (there : here[c]? = some stage) : stage.randomKey = Nat.iterate RandomKey.next c first := by
  induction feeds generalizing c with
  | nil key => cases there
  | cons machine rest ih =>
    cases c with
    | zero =>
      cases there
      rfl
    | succ c => exact ih there

end Feeds

theorem feeds_step (machine : Machine) :
    Feeds machine.randomKey (if machine.drawsNext then [machine] else [])
      machine.step.randomKey := by
  cases draws : machine.drawsNext with
  | false =>
    rw [if_neg Bool.false_ne_true, randomKey_step draws]
    exact .nil _
  | true =>
    obtain ⟨x, mask, next⟩ := drawsNext_eq_true_iff.mp draws
    rw [if_pos rfl, step_of_random next]
    exact .cons machine (.nil _)

theorem feeds_run (machine : Machine) (count : Nat) :
    Feeds machine.randomKey (machine.drawsOfRun count) (machine.run count).randomKey := by
  induction count generalizing machine with
  | zero => exact .nil _
  | succ count ih => exact machine.feeds_step.append (ih machine.step)

theorem feeds_perform (machine : Machine) (call : Call) :
    Feeds machine.randomKey (machine.drawsOfRun (call.steps?.getD 0))
      (machine.perform call).randomKey := by
  cases steps : call.steps? with
  | none =>
    rw [randomKey_perform steps]
    exact .nil _
  | some count =>
    rw [perform_of_steps? steps]
    exact machine.feeds_run count

/-- The key of a machine feeds the draws of each of its histories. -/
theorem feeds_performAll (machine : Machine) (history : List Call) :
    Feeds machine.randomKey (machine.draws history) (machine.performAll history).randomKey := by
  induction history generalizing machine with
  | nil => exact .nil _
  | cons call history ih => exact (machine.feeds_perform call).append (ih (machine.perform call))

end Machine

namespace Session

/-- The instructions that a history of calls executes, in order. -/
def executed (session : Session) (history : List Call) : List Instruction :=
  session.machine.executed (session.playedAll history)

/-- The machines from which a history of calls draws random numbers, in order. -/
def draws (session : Session) (history : List Call) : List Machine :=
  session.machine.draws (session.playedAll history)

/-- The key of a session begins with a zero word and the low 32 bits of its seed, and is turned
over by the block of the counter `(0, 0)` as often as an instruction was executed that draws a
random number, over the whole history: whatever is loaded or reset in it, and whichever calls
fail.  The draw at place `c` takes the key that was turned over `c` times.  It draws a byte from
the block of `(0, 0)` under the key that two blocks of `(0, 1)` have led to, and writes the byte
to its register, without the bits outside its mask. -/
theorem random_key_counts_draws {options : SessionOptions} {fresh : Session}
    (created : create options = .ok fresh) (history : List Call) :
    let seeded : RandomKey := ⟨0, UInt32.ofNat (options.seed % 0x100000000).toNat⟩
    let turned (key : RandomKey) : RandomKey := key.block (0, 0)
    let drawn (key : RandomKey) : UInt8 :=
      let words := ((key.block (0, 1)).block (0, 1)).block (0, 0)
      (words.first ^^^ words.second).toUInt8
    (fresh.performAll history).2.machine.randomKey =
      Nat.iterate turned ((fresh.executed history).countP Instruction.isDraw) seeded ∧
    ∀ (c : Nat) (instruction : Instruction),
      ((fresh.executed history).filter Instruction.isDraw)[c]? = some instruction →
      ∃ stage x mask, (fresh.draws history)[c]? = some stage ∧
        instruction = .random x mask ∧ stage.nextInstruction? = some instruction ∧
        stage.randomKey = Nat.iterate turned c seeded ∧
        stage.step.randomKey = turned stage.randomKey ∧
        stage.step.v x = drawn stage.randomKey &&& mask ∧
        stage.step.v x &&& ~~~mask = 0 := by
  intro seeded turned drawn
  obtain ⟨dialect, switchedOn⟩ := machine_of_create created
  have begins : fresh.machine.randomKey = seeded := by
    rw [switchedOn, Machine.randomKey_powerOn]
    rfl
  have feeds := fresh.machine.feeds_performAll (fresh.playedAll history)
  rw [begins, ← machine_performAll] at feeds
  refine ⟨?last, ?draws⟩
  case last =>
    refine feeds.last_eq.trans ?_
    rw [Machine.length_draws]
    rfl
  case draws =>
    intro c instruction there
    obtain ⟨stage, found, next⟩ := Machine.exists_draw_of_getElem? there
    have draw := (List.mem_filter.mp (List.mem_of_getElem? there)).2
    obtain ⟨x, mask, rfl⟩ := Instruction.isDraw_eq_true_iff.mp draw
    have written : stage.step.v x = drawn stage.randomKey &&& mask := by
      rw [Machine.step_of_random next]
      exact (stage.fetched.v_write x x _).trans (if_pos rfl)
    refine ⟨stage, x, mask, found, rfl, next, feeds.randomKey_of_getElem? found, ?_, written, ?_⟩
    · rw [Machine.step_of_random next]
      rfl
    · rw [written, UInt8.and_assoc, UInt8.and_not_self, UInt8.and_zero]

/-- A program draws a number and then meets a word that is no instruction.  After a call
that is refused and a reset, it draws the next number. -/
theorem draws_go_on_after_fault_and_reset :
    let options : SessionOptions := ⟨.custom .standard, 7, 700, 60, defaultLogger⟩
    let history : List Call :=
      [.load (.bytes [0xC1, 0x0F, 0xFF, 0xFF]) false, .run 2, .run (-1), .reset, .step]
    ∃ fresh, create options = .ok fresh ∧
      (fresh.performAll history).2.machine.randomKey = ⟨0xA32EC77C, 0x7D253859⟩ ∧
      ∃ stage x, (fresh.draws history)[1]? = some stage ∧
        stage.randomKey = ⟨0xD817648B, 0x74864D80⟩ ∧ stage.step.v x = 0xD9 &&& 0x0F := by
  intro options history
  have created : create options =
      .ok { standard with machine := .powerOn (.ofSeed 7) .standard } := rfl
  have executed : (Session.executed { standard with machine := .powerOn (.ofSeed 7) .standard }
      history).filter Instruction.isDraw =
        [.random ⟨1, by decide⟩ 0x0F, .random ⟨1, by decide⟩ 0x0F] := by decide +kernel
  obtain ⟨key, drawn⟩ := random_key_counts_draws created history
  rw [List.countP_eq_length_filter, executed] at key
  rw [executed] at drawn
  obtain ⟨stage, x, mask, there, same, -, taken, -, written, -⟩ := drawn 1 _ rfl
  cases same
  have second : stage.randomKey = ⟨0xD817648B, 0x74864D80⟩ := taken.trans (by decide +kernel)
  refine ⟨_, created, key.trans (by decide +kernel), stage, ⟨1, by decide⟩, there, second, ?_⟩
  rw [written, second]
  decide +kernel

end Session

end Chip8
