/-
# Power cycles

Loading a program and resetting switch the machine off and on.  Of what was before, only
the dialect, the random key and the flag registers are still there afterwards, and the
program that is loaded; `Machine.IsSwitchedOn` says field by field what such a machine looks
like.  A session reloads the program of the last load that succeeded.

The main result is `load_and_reset_are_power_cycles`.
-/
import Chip8.Proofs.Devices
import Chip8.Proofs.DialectPoints
import Chip8.Proofs.Session.Alike
import Chip8.Proofs.Session.Invariant
import Chip8.Proofs.Session.LastingFault

namespace Chip8

/-! ## Machines that were just switched on -/

/-- What stands at an address of a machine that was just switched on with a program: the
program, the large digits, the small digits, or zero. -/
def Memory.startByte (program : List UInt8) (address : Nat) : UInt8 :=
  if 0x200 ≤ address then program[address - 0x200]?.getD 0
  else if 0x0A0 ≤ address then Font.large[address - 0x0A0]?.getD 0
  else if 0x050 ≤ address then Font.small[address - 0x050]?.getD 0
  else 0

theorem Font.getElem_memory {address : Nat} (inside : address < 4096) :
    Font.memory[address] =
      if 0x0A0 ≤ address then Font.large[address - 0x0A0]?.getD 0
      else if 0x050 ≤ address then Font.small[address - 0x050]?.getD 0
      else 0 := by
  have zero : Memory.zero[address] = 0 := Vector.getElem_replicate inside
  have largeStart : Font.largeStart = 0x0A0 := rfl
  have smallStart : Font.smallStart = 0x050 := rfl
  rw [Font.memory, Memory.getElem_write, Memory.getElem_write, zero, largeStart, smallStart]
  by_cases large : 0x0A0 ≤ address
  · have small : Font.small[address - 0x050]? = none :=
      List.getElem?_eq_none (show 80 ≤ address - 0x050 by omega)
    rw [if_pos large, if_pos large, if_pos (by omega), small, Option.getD_none]
  · rw [if_neg large, if_neg large]

namespace Machine

/-- A machine is as it is just after it was switched on with a program, and has the given
flag registers, random key and dialect. -/
structure IsSwitchedOn (machine : Machine) (program : List UInt8) (flags : Vector UInt8 8)
    (randomKey : RandomKey) (dialect : Dialect) : Prop where
  memory : ∀ address, machine.memory.cell address = Memory.startByte program address.val
  pc : machine.pc = 0x200
  index : machine.index = 0
  registers : ∀ x, machine.v x = 0
  slots : ∀ slot, machine.stack.slots.get slot = 0
  pointer : machine.stack.pointer = 0
  delayTimer : machine.delayTimer = 0
  soundTimer : machine.soundTimer = 0
  keypad : ∀ key, machine.keypad.isPressed key = false
  screen : ∀ px py, machine.screen.pixel px py = false
  resolution : machine.resolution = .standard
  flags : machine.flags = flags
  mode : machine.mode = .running
  fault : machine.fault = Fault.clear.code
  faultInfo : machine.faultInfo = 0
  randomKey : machine.randomKey = randomKey
  dialect : machine.dialect = dialect

/-- The fields determine the machine. -/
theorem IsSwitchedOn.unique {first second : Machine} {program : List UInt8}
    {flags : Vector UInt8 8} {randomKey : RandomKey} {dialect : Dialect}
    (on : first.IsSwitchedOn program flags randomKey dialect)
    (onToo : second.IsSwitchedOn program flags randomKey dialect) : first = second := by
  have memory : first.memory = second.memory :=
    Memory.eq_of_cells fun address => (on.memory address).trans (onToo.memory address).symm
  have registers : first.registers = second.registers :=
    registers_eq_of_v fun x => (on.registers x).trans (onToo.registers x).symm
  have stack : first.stack = second.stack := by
    have pointer := on.pointer.trans onToo.pointer.symm
    have slots : first.stack.slots = second.stack.slots := by
      apply Vector.ext
      intro slot inside
      exact (on.slots ⟨slot, inside⟩).trans (onToo.slots ⟨slot, inside⟩).symm
    generalize first.stack = firstStack at pointer slots
    generalize second.stack = secondStack at pointer slots
    cases firstStack
    cases secondStack
    rw [CallStack.mk.injEq]
    exact ⟨slots, pointer⟩
  have keypad : first.keypad = second.keypad := by
    apply Vector.ext
    intro key inside
    exact (on.keypad ⟨key, inside⟩).trans (onToo.keypad ⟨key, inside⟩).symm
  have screen : first.screen = second.screen :=
    Bitmap.ext fun px py => (on.screen px py).trans (onToo.screen px py).symm
  obtain ⟨-, pc, index, -, -, -, delayTimer, soundTimer, -, -, resolution, flags, mode, fault,
    faultInfo, randomKey, dialect⟩ := on
  obtain ⟨-, pcToo, indexToo, -, -, -, delayTimerToo, soundTimerToo, -, -, resolutionToo, flagsToo,
    modeToo, faultToo, faultInfoToo, randomKeyToo, dialectToo⟩ := onToo
  cases first
  cases second
  simp_all only

theorem cell_start (program : List UInt8) (address : Address) :
    (Font.memory.write programStart program).cell address =
      Memory.startByte program address.val := by
  have fonts := Font.getElem_memory address.isLt
  show (Font.memory.write programStart program)[address.val] = _
  rw [Memory.getElem_write, Memory.startByte, fonts]
  by_cases behind : 0x200 ≤ address.val
  · have large : Font.large[address.val - 0x0A0]? = none :=
      List.getElem?_eq_none (show 100 ≤ address.val - 0x0A0 by omega)
    rw [if_pos behind, if_pos behind, if_pos (by omega), large]
    rfl
  · rw [if_neg behind, if_neg behind]

theorem isSwitchedOn_powerOn (program : List UInt8) (randomKey : RandomKey) (dialect : Dialect) :
    { powerOn randomKey dialect with
      memory := Font.memory.write programStart program }.IsSwitchedOn program
      (Vector.replicate 8 0) randomKey dialect where
  memory := cell_start program
  pc := rfl
  index := rfl
  registers x := Vector.getElem_replicate x.isLt
  slots slot := Vector.getElem_replicate slot.isLt
  pointer := rfl
  delayTimer := rfl
  soundTimer := rfl
  keypad key := Vector.getElem_replicate key.isLt
  screen px py := Bitmap.pixel_blank px py
  resolution := rfl
  flags := rfl
  mode := rfl
  fault := rfl
  faultInfo := rfl
  randomKey := rfl
  dialect := rfl

theorem IsSwitchedOn.withFlags {machine : Machine} {program : List UInt8}
    {before : Vector UInt8 8} {randomKey : RandomKey} {dialect : Dialect}
    (on : machine.IsSwitchedOn program before randomKey dialect) (flags : Vector UInt8 8) :
    { machine with flags := flags }.IsSwitchedOn program flags randomKey dialect :=
  { on with flags := rfl }

theorem isSwitchedOn_restarted (machine : Machine) (program : List UInt8) (clearFlags : Bool) :
    { machine.restarted clearFlags with
      memory := (machine.restarted clearFlags).memory.write programStart program }.IsSwitchedOn
      program (if clearFlags then Vector.replicate 8 0 else machine.flags) machine.randomKey
      machine.dialect := by
  cases clearFlags with
  | true =>
    rw [restarted_true]
    exact isSwitchedOn_powerOn program machine.randomKey machine.dialect
  | false =>
    rw [restarted_false]
    exact (isSwitchedOn_powerOn program machine.randomKey machine.dialect).withFlags machine.flags

/-- A reset succeeds when the program that it loads, if any, fits in memory. -/
theorem reset_of_fits (machine : Machine) {program : Option (List UInt8)}
    (fits : ∀ bytes, program = some bytes → programStart + bytes.length ≤ 4096)
    (clearFlags : Bool) :
    machine.reset (program.map ByteData.bytes) clearFlags =
      .ok { machine.restarted clearFlags with
        memory := (machine.restarted clearFlags).memory.write programStart (program.getD []) } := by
  cases program with
  | none =>
    show Except.ok (machine.restarted clearFlags) = _
    -- Otherwise the two memories would be compared byte by byte.
    generalize machine.restarted clearFlags = fresh
    rfl
  | some bytes => exact (machine.restarted clearFlags).load_bytes (fits bytes rfl)

end Machine

namespace Session

variable {session : Session} {call : Call}

/-! ## What a session keeps -/

theorem allows_dialect : Allows fun before after : Session =>
    after.machine.dialect = before.machine.dialect where
  refl _ := rfl
  trans here later := later.trans here
  call session call _ := session.machine.dialect_perform call
  note _ _ := rfl

theorem dialect_performAll (session : Session) (history : List Call) :
    (session.performAll history).2.machine.dialect = session.machine.dialect := by
  induction history generalizing session with
  | nil => rfl
  | cons call history ih =>
    have here := ensures_action allows_dialect call (fun _ _ _ => rfl) session
    rw [performAll_cons_snd, ih, perform_snd, here]

theorem allows_program : Allows fun before after : Session =>
    after.program = before.program where
  refl _ := rfl
  trans here later := later.trans here
  call _ _ _ := rfl
  note _ _ := rfl

theorem program_perform_of_not_isLoad (session : Session) (other : call.isLoad = false) :
    (session.perform call).2.program = session.program := by
  rw [perform_snd]
  refine ensures_action allows_program call ?_ session
  intro loads
  rw [other] at loads
  cases loads

/-! ## Restarts -/

/-- A session after its machine was switched off and on with a program. -/
def switchedOn (session : Session) (program : Option (List UInt8)) (clearFlags : Bool) : Session :=
  { session with
    machine := { session.machine.restarted clearFlags with
      memory := (session.machine.restarted clearFlags).memory.write programStart
        (program.getD []) }
    program := program }

theorem perform_load_of_ok (session : Session) {program : ByteData} {bytes : List UInt8}
    (read : Memory.programBytes program programStart = .ok bytes) (clearFlags : Bool) :
    ∃ entry, session.perform (.load program clearFlags) =
      (.ok .nothing, (session.switchedOn (some bytes) clearFlags).note entry) := by
  rw [perform, Call.action, EStateM.run_bind, run_load session read]
  exact ⟨_, rfl⟩

theorem perform_load_of_error (session : Session) {program : ByteData} {cause : Error}
    (unread : Memory.programBytes program programStart = .error cause) (clearFlags : Bool) :
    session.perform (.load program clearFlags) = (.error cause, session) := by
  rw [perform, Call.action, EStateM.run_bind, run_load_of_error session unread]

/-- The stored program fits in memory. -/
def ProgramFits (session : Session) : Prop :=
  ∀ bytes, session.program = some bytes → programStart + bytes.length ≤ 4096

theorem perform_reset (fits : session.ProgramFits) :
    ∃ entry, session.perform .reset =
      (.ok .nothing, (session.switchedOn session.program false).note entry) := by
  rw [perform, Call.action, EStateM.run_bind, Session.reset, EStateM.run_bind, EStateM.run_get]
  dsimp only
  rw [EStateM.run_bind, tryChange, EStateM.run_bind, EStateM.run_get]
  dsimp only
  rw [session.machine.reset_of_fits fits]
  exact ⟨_, rfl⟩

theorem flags_perform_reset (fits : session.ProgramFits) :
    (session.perform .reset).2.machine.flags = session.machine.flags := by
  obtain ⟨entry, performed⟩ := session.perform_reset fits
  rw [performed]
  exact (session.machine.isSwitchedOn_restarted _ false).flags

/-- What remains of a session when a call has switched its machine off and on. -/
theorem exists_perform_of_restarts (fits : session.ProgramFits) (restarts : call.restarts = true) :
    ∃ program clearFlags entry, session.perform call =
      (.ok .nothing, (session.switchedOn program clearFlags).note entry) := by
  cases call with
  | load program clearFlags =>
    cases read : Memory.programBytes program programStart with
    | ok bytes => exact ⟨_, _, session.perform_load_of_ok read clearFlags⟩
    | error cause =>
      rw [Call.restarts, read] at restarts
      cases restarts
  | reset => exact ⟨_, _, session.perform_reset fits⟩
  | _ => cases restarts

theorem isSwitchedOn_perform (fits : session.ProgramFits) (restarts : call.restarts = true) :
    (session.perform call).2.machine.IsSwitchedOn ((session.perform call).2.program.getD [])
      (session.perform call).2.machine.flags session.machine.randomKey session.machine.dialect := by
  obtain ⟨program, clearFlags, entry, performed⟩ := exists_perform_of_restarts fits restarts
  have on := session.machine.isSwitchedOn_restarted (program.getD []) clearFlags
  rw [performed]
  exact { on with flags := rfl }

theorem instructionsPerFrame_perform (fits : session.ProgramFits)
    (restarts : call.restarts = true) :
    (session.perform call).2.instructionsPerFrame = session.instructionsPerFrame := by
  obtain ⟨program, clearFlags, entry, performed⟩ := exists_perform_of_restarts fits restarts
  rw [performed]
  rfl

/-! ## The stored program -/

/-- The program that a call has loaded, given how the call ended. -/
def loadedBy : Call → Except Error Reply → Option (List UInt8)
  | .load program _, .ok _ => program.toBytes.toOption
  | _, _ => none

/-- The program of the last load in a history that succeeded. -/
def lastLoaded? (session : Session) (history : List Call) : Option (List UInt8) :=
  ((history.zip (session.performAll history).1).filterMap fun entry =>
    loadedBy entry.1 entry.2).getLast?

theorem program_perform (session : Session) (call : Call) :
    (session.perform call).2.program =
      (loadedBy call (session.perform call).1).or session.program := by
  cases call with
  | load program clearFlags =>
    cases read : Memory.programBytes program programStart with
    | ok bytes =>
      obtain ⟨entry, performed⟩ := session.perform_load_of_ok read clearFlags
      rw [performed, loadedBy, Memory.toBytes_of_programBytes read]
      rfl
    | error cause =>
      rw [session.perform_load_of_error read clearFlags]
      rfl
  | _ => exact session.program_perform_of_not_isLoad rfl

/-- A session keeps the program of the last load that succeeded. -/
theorem program_performAll (session : Session) (history : List Call) :
    (session.performAll history).2.program =
      (session.lastLoaded? history).or session.program := by
  induction history generalizing session with
  | nil => rfl
  | cons call history ih =>
    rw [performAll_cons_snd, ih, program_perform, lastLoaded?, lastLoaded?, performAll_cons_fst,
      List.zip_cons_cons, List.filterMap_cons]
    dsimp only
    generalize ((history.zip _).filterMap _ : List (List UInt8)) = later
    cases loadedBy call (session.perform call).1 with
    | none => rw [Option.none_or]
    | some bytes =>
      rw [Option.some_or, List.getLast?_cons]
      cases later.getLast? <;> rfl

theorem programFits_perform (fits : session.ProgramFits) (call : Call) :
    (session.perform call).2.ProgramFits := by
  cases call with
  | load program clearFlags =>
    cases read : Memory.programBytes program programStart with
    | ok bytes =>
      obtain ⟨entry, performed⟩ := session.perform_load_of_ok read clearFlags
      rw [performed]
      intro stored same
      cases same
      exact Memory.fits_of_programBytes read
    | error cause =>
      rw [session.perform_load_of_error read clearFlags]
      exact fits
  | _ =>
    rw [ProgramFits, session.program_perform_of_not_isLoad rfl]
    exact fits

theorem programFits_performAll (fits : session.ProgramFits) (history : List Call) :
    (session.performAll history).2.ProgramFits := by
  induction history generalizing session with
  | nil => exact fits
  | cons call history ih => exact ih (programFits_perform fits call)

theorem program_of_create {options : SessionOptions} {fresh : Session}
    (created : create options = .ok fresh) :
    fresh.program = none ∧ options.dialect.resolve = .ok fresh.machine.dialect := by
  unfold create at created
  split at created
  · cases created
  · obtain ⟨dialect, resolved, created⟩ := bind_eq_ok_iff.mp created
    obtain ⟨randomKey, -, created⟩ := bind_eq_ok_iff.mp created
    have same := Except.ok.inj created
    rw [← same, resolved]
    exact ⟨rfl, rfl⟩

theorem programFits_of_isReachable (reachable : session.IsReachable) : session.ProgramFits := by
  obtain ⟨options, fresh, history, created, rfl⟩ := reachable
  apply programFits_performAll
  intro bytes stored
  rw [(program_of_create created).1] at stored
  cases stored

/-! ## Two sessions -/

section Two

variable {other : Session} {otherCall : Call} (fits : session.ProgramFits)
  (otherFits : other.ProgramFits) (restarts : call.restarts = true)
  (otherRestarts : otherCall.restarts = true)

include fits otherFits restarts otherRestarts

/-- Sessions are alike once they were switched off and on, when they have the same dialect and
random key before and the same program and flag registers afterwards. -/
theorem alike_of_restarts {frames : Prop}
    (dialect : other.machine.dialect = session.machine.dialect)
    (randomKey : other.machine.randomKey = session.machine.randomKey)
    (program : (other.perform otherCall).2.program = (session.perform call).2.program)
    (flags : (other.perform otherCall).2.machine.flags = (session.perform call).2.machine.flags)
    (pace : frames → other.instructionsPerFrame = session.instructionsPerFrame) :
    Alike frames (other.perform otherCall).2 (session.perform call).2 where
  machine := by
    have on := isSwitchedOn_perform fits restarts
    have otherOn := isSwitchedOn_perform otherFits otherRestarts
    rw [program, flags, randomKey, dialect] at otherOn
    exact otherOn.unique on
  program := program
  pace framed := by
    rw [instructionsPerFrame_perform fits restarts,
      instructionsPerFrame_perform otherFits otherRestarts]
    exact pace framed

end Two

/-- Loading and resetting are power cycles.  After any history of calls, a session has stored
the program of the last load that succeeded.  A load that succeeds stores its program, and a
reset, which always succeeds, leaves the stored one; both leave a machine that was just
switched on with this program, in the dialect that the session was set up with.  The random
key is the one before the call, and so are the flag registers unless a load is told to clear
them.  Nothing else of the history is left: two sessions that were switched off and on with
the same dialect, random key, program and flag registers have the same machine, answer
every further history of calls in the same way, and go on to have the same machine.  Only
where frames are run must they be set up with frames of the same length. -/
theorem load_and_reset_are_power_cycles {options : SessionOptions} {fresh : Session}
    (created : create options = .ok fresh) (history : List Call) :
    let session := (fresh.performAll history).2
    session.program = fresh.lastLoaded? history ∧
    options.dialect.resolve = .ok session.machine.dialect ∧
    (∀ program clearFlags reply next,
      session.perform (.load program clearFlags) = (.ok reply, next) →
      ∃ bytes, program.toBytes = .ok bytes ∧ next.program = some bytes ∧
        next.machine.IsSwitchedOn bytes
          (if clearFlags then Vector.replicate 8 0 else session.machine.flags)
          session.machine.randomKey session.machine.dialect) ∧
    (∃ next, session.perform .reset = (.ok .nothing, next) ∧ next.program = session.program ∧
      next.machine.IsSwitchedOn (session.program.getD []) session.machine.flags
        session.machine.randomKey session.machine.dialect) ∧
    ∀ other : Session, other.IsReachable →
      other.machine.dialect = session.machine.dialect →
      other.machine.randomKey = session.machine.randomKey →
      ∀ call otherCall : Call, call.restarts = true → otherCall.restarts = true →
        let next := (session.perform call).2
        let otherNext := (other.perform otherCall).2
        otherNext.program = next.program → otherNext.machine.flags = next.machine.flags →
        otherNext.machine = next.machine ∧
        ∀ continuation : List Call,
          (.runFrame ∈ continuation →
            other.instructionsPerFrame = session.instructionsPerFrame) →
          (otherNext.performAll continuation).1 = (next.performAll continuation).1 ∧
          (otherNext.performAll continuation).2.machine =
            (next.performAll continuation).2.machine ∧
          (otherNext.performAll continuation).2.program =
            (next.performAll continuation).2.program := by
  intro session
  have reachable : session.IsReachable := ⟨options, fresh, history, created, rfl⟩
  have fits : session.ProgramFits := programFits_of_isReachable reachable
  obtain ⟨unloaded, resolved⟩ := program_of_create created
  refine ⟨?stored, ?dialect, ?load, ?reset, ?alike⟩
  case stored =>
    have stored := fresh.program_performAll history
    rw [unloaded, Option.or_none] at stored
    exact stored
  case dialect =>
    rw [resolved]
    exact congrArg Except.ok (fresh.dialect_performAll history).symm
  case load =>
    intro program clearFlags reply next performed
    cases read : Memory.programBytes program programStart with
    | error cause =>
      rw [session.perform_load_of_error read clearFlags] at performed
      cases performed
    | ok bytes =>
      obtain ⟨entry, same⟩ := session.perform_load_of_ok read clearFlags
      rw [same] at performed
      cases performed
      exact ⟨bytes, Memory.toBytes_of_programBytes read, rfl,
        session.machine.isSwitchedOn_restarted bytes clearFlags⟩
  case reset =>
    obtain ⟨entry, performed⟩ := session.perform_reset fits
    exact ⟨_, performed, rfl, session.machine.isSwitchedOn_restarted _ false⟩
  case alike =>
    intro other otherReachable dialect randomKey call otherCall restarts otherRestarts next
      otherNext program flags
    have otherFits := programFits_of_isReachable otherReachable
    have alike {frames : Prop}
        (pace : frames → other.instructionsPerFrame = session.instructionsPerFrame) :
        Alike frames otherNext next :=
      alike_of_restarts fits otherFits restarts otherRestarts dialect randomKey program flags pace
    refine ⟨(alike False.elim).machine, ?_⟩
    intro continuation pace
    obtain ⟨outcomes, last⟩ := (alike pace).performAll id
    exact ⟨outcomes, last.machine, last.program⟩

theorem program_loaded {bytes : List UInt8} (fits : programStart + bytes.length ≤ 4096) :
    (loaded bytes).program = some bytes := by
  have read := Memory.programBytes_bytes fits
  obtain ⟨entry, performed⟩ := standard.perform_load_of_ok read false
  rw [loaded, performed]
  rfl

/-- A fault and a load that fails do not outlive a reset, and neither does a tick that only
one of two sessions has seen. -/
theorem fault_does_not_outlive_reset :
    let session := (standard.performAll
      [.load (.bytes [0xFF, 0xFF]) false, .step, .load .missing true]).2
    let other := (session.perform .tick).2
    (∃ next, session.perform .reset = (.ok .nothing, next) ∧
      next.program = some [0xFF, 0xFF] ∧ next.machine.mode = .running ∧
      next.machine.memory.cell ⟨0x200, by decide⟩ = 0xFF) ∧
    (∃ reply next, session.perform (.load (.zeros 2) true) = (.ok reply, next) ∧
      next.program = some [0, 0] ∧ next.machine.flags = Vector.replicate 8 0) ∧
    ((other.perform .reset).2.performAll [.runFrame, .step]).1 =
      ((session.perform .reset).2.performAll [.runFrame, .step]).1 := by
  have cycles := load_and_reset_are_power_cycles create_standard
    [.load (.bytes [0xFF, 0xFF]) false, .step, .load .missing true]
  have reachable := isReachable_performAll_standard
    [.load (.bytes [0xFF, 0xFF]) false, .step, .load .missing true]
  have stored : (standard.performAll
      [.load (.bytes [0xFF, 0xFF]) false, .step, .load .missing true]).2.program =
      some [0xFF, 0xFF] := by
    have kept (session : Session) :
        (session.performAll [.step, .load .missing true]).2.program = session.program := by
      have unread : Memory.programBytes .missing programStart = .error .notBytes := rfl
      rw [performAll_cons_snd, performAll_cons_snd, perform_load_of_error _ unread]
      exact session.program_perform_of_not_isLoad rfl
    rw [performAll_cons_snd, kept]
    exact program_loaded (fits_word 0xFF 0xFF)
  obtain ⟨session, same⟩ : ∃ session, (standard.performAll
      [.load (.bytes [0xFF, 0xFF]) false, .step, .load .missing true]).2 = session := ⟨_, rfl⟩
  rw [same] at cycles reachable stored ⊢
  obtain ⟨-, -, load, ⟨next, performed, kept, on⟩, alike⟩ := cycles
  refine ⟨⟨next, performed, kept.trans stored, on.mode, ?_⟩, ?_, ?_⟩
  · rw [on.memory, stored]
    rfl
  · have read : Memory.programBytes (.zeros 2) programStart = .ok [0, 0] := rfl
    obtain ⟨entry, performed⟩ := session.perform_load_of_ok read true
    obtain ⟨bytes, converted, stored, on⟩ := load _ _ _ _ performed
    cases converted
    exact ⟨_, _, performed, stored, on.flags⟩
  · have otherReachable : (session.perform .tick).2.IsReachable := reachable.perform .tick
    have program (session : Session) : (session.perform .reset).2.program = session.program :=
      session.program_perform_of_not_isLoad rfl
    have flags : ((session.perform .tick).2.perform .reset).2.machine.flags =
        (session.perform .reset).2.machine.flags := by
      rw [flags_perform_reset (programFits_of_isReachable reachable),
        flags_perform_reset (programFits_of_isReachable otherReachable)]
      rfl
    have same := alike _ otherReachable rfl rfl .reset .reset rfl rfl
      ((program _).trans (program session).symm) flags
    exact (same.2 [.runFrame, .step] fun _ => rfl).1

end Session

end Chip8
