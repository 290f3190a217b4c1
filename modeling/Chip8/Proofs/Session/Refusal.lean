/-
# Refused calls

Some calls of a session make no sense: a program that cannot be read or is too long, a
register or a key that does not exist, a run of fewer than no instructions.  `IsRefused` lists
them with their errors.  They are found out before anything is changed, so that a session whose
call was refused goes on as if it had never been called.

The main result is `refused_calls_leave_no_trace`.
-/
import Chip8.Proofs.Session.PowerCycle

namespace Chip8

namespace Memory

theorem programBytes_of_unread {program : ByteData} {cause : Error}
    (unread : program.toBytes = .error cause) (start : Int) :
    programBytes program start = .error cause := by
  rw [programBytes_eq, unread]
  rfl

end Memory

namespace Session

/-- A call is refused with an error, whatever the session. -/
inductive Call.IsRefused : Call → Error → Prop
  /-- The data of a program are no bytes. -/
  | unreadable {program : ByteData} {cause : Error} (clearFlags : Bool)
      (unread : program.toBytes = .error cause) : IsRefused (.load program clearFlags) cause
  /-- A program is longer than the memory from `0x200` on. -/
  | tooLong {program : ByteData} {bytes : List UInt8} (clearFlags : Bool)
      (read : program.toBytes = .ok bytes) (long : 0xE00 < bytes.length) :
      IsRefused (.load program clearFlags) (.romTooLarge bytes.length 0x200)
  | getRegister {index : Int} (outside : index < 0 ∨ 15 < index) :
      IsRefused (.getRegister index) (.invalidRegister index)
  | setRegister {index : Int} (value : Int) (outside : index < 0 ∨ 15 < index) :
      IsRefused (.setRegister index value) (.invalidRegister index)
  | setKey {index : Int} (pressed : Bool) (outside : index < 0 ∨ 15 < index) :
      IsRefused (.setKey index pressed) (.invalidKey index)
  | isPressed {index : Int} (outside : index < 0 ∨ 15 < index) :
      IsRefused (.isPressed index) (.invalidKey index)
  | run {cycles : Int} (negative : cycles < 0) : IsRefused (.run cycles) (.negativeCycles cycles)

variable {session : Session} {call : Call} {cause : Error}

/-! ## Refused calls -/

theorem registerOfIndex_of_outside {index : Int} (outside : index < 0 ∨ 15 < index) :
    Machine.registerOfIndex index = .error (.invalidRegister index) :=
  dif_neg (by omega)

theorem ofIndex_of_outside {index : Int} (outside : index < 0 ∨ 15 < index) :
    Keypad.ofIndex index = .error (.invalidKey index) :=
  dif_neg (by omega)

/-- A question that is not answered fails and leaves the session as it is. -/
theorem perform_of_unanswered {α : Type} {question : Machine → Except Error α}
    {shape : α → Reply} (asks : call.action = do return shape (← ask question))
    (refused : question session.machine = .error cause) :
    session.perform call = (.error cause, session) := by
  rw [perform, asks, EStateM.run_bind, ask, EStateM.run_bind, EStateM.run_get]
  dsimp only
  rw [refused]
  rfl

/-- A change that the machine refuses fails and leaves the session as it is. -/
theorem perform_of_unchanged {move : Machine → Except Error Machine}
    (changes : call.action = do tryChange move; return .nothing)
    (refused : move session.machine = .error cause) :
    session.perform call = (.error cause, session) := by
  rw [perform, changes, EStateM.run_bind, tryChange, EStateM.run_bind, EStateM.run_get]
  dsimp only
  rw [refused]
  rfl

/-- A refused call fails and leaves the session as it is. -/
theorem perform_of_isRefused (session : Session) (refused : call.IsRefused cause) :
    session.perform call = (.error cause, session) := by
  cases refused with
  | unreadable clearFlags unread =>
    exact session.perform_load_of_error (Memory.programBytes_of_unread unread _) clearFlags
  | tooLong clearFlags read long =>
    exact session.perform_load_of_error
      (Memory.programBytes_of_outside read (.inr (show 4096 < 0x200 + _ by omega))) clearFlags
  | getRegister outside =>
    refine perform_of_unanswered rfl ?_
    rw [Machine.getRegister, registerOfIndex_of_outside outside]
    rfl
  | isPressed outside =>
    refine perform_of_unanswered rfl ?_
    rw [Machine.isPressed, ofIndex_of_outside outside]
    rfl
  | setRegister value outside =>
    refine perform_of_unchanged rfl ?_
    rw [Machine.setRegister, registerOfIndex_of_outside outside]
    rfl
  | setKey pressed outside =>
    refine perform_of_unchanged rfl ?_
    rw [Machine.setKey, ofIndex_of_outside outside]
    rfl
  | run negative =>
    rw [perform, Call.action, EStateM.run_bind, run_eq_throw negative]
    rfl

/-- Whatever is called before and after it, a refused call leaves no trace. -/
theorem performAll_of_isRefused (session : Session) (refused : call.IsRefused cause)
    (history later : List Call) :
    (session.performAll (history ++ call :: later)).2 =
      (session.performAll (history ++ later)).2 := by
  rw [performAll_append, performAll_append, performAll_cons_snd, perform_of_isRefused _ refused]

/-- A program is loaded or the call is refused. -/
theorem load_cases (program : ByteData) (clearFlags : Bool) :
    (∃ bytes, program.toBytes = .ok bytes ∧ bytes.length ≤ 0xE00) ∨
      ∃ cause, (Call.load program clearFlags).IsRefused cause := by
  cases read : program.toBytes with
  | error cause => exact .inr ⟨cause, .unreadable clearFlags read⟩
  | ok bytes =>
    by_cases long : 0xE00 < bytes.length
    · exact .inr ⟨_, .tooLong clearFlags read long⟩
    · exact .inl ⟨bytes, rfl, Nat.not_lt.mp long⟩

theorem exists_perform_load (session : Session) {program : ByteData} {bytes : List UInt8}
    (read : program.toBytes = .ok bytes) (short : bytes.length ≤ 0xE00) (clearFlags : Bool) :
    ∃ next, session.perform (.load program clearFlags) = (.ok .nothing, next) ∧
      next.program = some bytes ∧
      next.machine.IsSwitchedOn bytes
        (if clearFlags then Vector.replicate 8 0 else session.machine.flags)
        session.machine.randomKey session.machine.dialect := by
  have fits : programStart + bytes.length ≤ 4096 := show 0x200 + _ ≤ 4096 by omega
  have readToo : Memory.programBytes program programStart = .ok bytes :=
    Memory.programBytes_of_toBytes read fits
  obtain ⟨entry, performed⟩ := session.perform_load_of_ok readToo clearFlags
  exact ⟨_, performed, rfl, session.machine.isSwitchedOn_restarted bytes clearFlags⟩

/-- Refused calls leave no trace.  Such a call fails and leaves the session as it was, with its
machine, its stored program and its transcript, and a load that fails was refused.  A program
that is no longer than the memory from `0x200` on is loaded.  Histories with a refused call
lead to the same session as without it, so that a reset later on loads the program of the last
load that succeeded. -/
theorem refused_calls_leave_no_trace :
    (∀ (session : Session) (call : Call) (cause : Error), call.IsRefused cause →
      session.perform call = (.error cause, session)) ∧
    (∀ (session next : Session) (program : ByteData) (clearFlags : Bool) (cause : Error),
      session.perform (.load program clearFlags) = (.error cause, next) →
      (Call.load program clearFlags).IsRefused cause ∧ next = session) ∧
    (∀ (session : Session) (program : ByteData) (bytes : List UInt8) (clearFlags : Bool),
      program.toBytes = .ok bytes → bytes.length ≤ 0xE00 →
      ∃ next, session.perform (.load program clearFlags) = (.ok .nothing, next) ∧
        next.program = some bytes ∧
        next.machine.IsSwitchedOn bytes
          (if clearFlags then Vector.replicate 8 0 else session.machine.flags)
          session.machine.randomKey session.machine.dialect) ∧
    ∀ (options : SessionOptions) (fresh : Session) (history later : List Call) (call : Call)
      (cause : Error), create options = .ok fresh → call.IsRefused cause →
      let session := (fresh.performAll (history ++ call :: later)).2
      session = (fresh.performAll (history ++ later)).2 ∧
      session.program = fresh.lastLoaded? (history ++ call :: later) ∧
      ∃ next, session.perform .reset = (.ok .nothing, next) ∧ next.program = session.program ∧
        next.machine.IsSwitchedOn (session.program.getD []) session.machine.flags
          session.machine.randomKey session.machine.dialect := by
  refine ⟨fun session _ _ => session.perform_of_isRefused, ?failed, ?loaded, ?later⟩
  case failed =>
    intro session next program clearFlags cause failed
    rcases load_cases program clearFlags with ⟨bytes, read, short⟩ | ⟨other, refused⟩
    · obtain ⟨_, performed, -⟩ := session.exists_perform_load read short clearFlags
      cases performed.symm.trans failed
    · cases (session.perform_of_isRefused refused).symm.trans failed
      exact ⟨refused, rfl⟩
  case loaded =>
    exact fun session _ _ clearFlags read short => session.exists_perform_load read short clearFlags
  case later =>
    intro options fresh history later call cause created refused session
    have fits : session.ProgramFits :=
      programFits_of_isReachable ⟨options, fresh, _, created, rfl⟩
    have stored := fresh.program_performAll (history ++ call :: later)
    rw [(program_of_create created).1, Option.or_none] at stored
    obtain ⟨entry, performed⟩ := session.perform_reset fits
    exact ⟨fresh.performAll_of_isRefused refused history later, stored, _, performed, rfl,
      session.machine.isSwitchedOn_restarted _ false⟩

/-- A program that is one byte too long, after another one that was loaded, and a run and a load
that the session refuses afterwards. -/
theorem refused_load_keeps_loaded_program :
    let call : Call := .load (.bytes (List.replicate 0xE01 0)) true
    let session := (standard.performAll ([.load (.bytes [0x12, 0x34]) false] ++ call :: [.tick])).2
    call.IsRefused (.romTooLarge 0xE01 0x200) ∧
      session.perform (.run (-1)) = (.error (.negativeCycles (-1)), session) ∧
      (Call.load .missing false).IsRefused .notBytes ∧
      (∃ next, session.perform .reset = (.ok .nothing, next) ∧
        next.machine.memory.cell ⟨0x200, by decide⟩ = 0x12) ∧
      ∃ next,
        session.perform (.load (.bytes (List.replicate 0xE00 0)) true) = (.ok .nothing, next) ∧
        next.machine.flags = Vector.replicate 8 0 := by
  intro call session
  have refused : call.IsRefused (.romTooLarge 0xE01 0x200) := by
    have long : 0xE00 < (List.replicate 0xE01 (0 : UInt8)).length := by
      rw [List.length_replicate]
      decide
    have refused := @Call.IsRefused.tooLong (.bytes _) _ true rfl long
    rw [List.length_replicate] at refused
    exact refused
  obtain ⟨refuses, failed, loads, later⟩ := refused_calls_leave_no_trace
  obtain ⟨same, -, next, performed, -, on⟩ := later _ _ [.load (.bytes [0x12, 0x34]) false] [.tick]
    _ _ create_standard refused
  have whole : (List.replicate 0xE00 (0 : UInt8)).length ≤ 0xE00 := List.length_replicate.le
  obtain ⟨last, performedLast, -, lastOn⟩ := loads session (.bytes _) _ true rfl whole
  have stored : session.program = some [0x12, 0x34] :=
    calc session.program = ((loaded [0x12, 0x34]).perform .tick).2.program :=
          congrArg Session.program same
      _ = (loaded [0x12, 0x34]).program := program_perform_of_not_isLoad _ rfl
      _ = some [0x12, 0x34] := program_loaded (fits_word 0x12 0x34)
  have missing : session.perform (.load .missing false) = (.error .notBytes, session) :=
    session.perform_load_of_error rfl false
  refine ⟨refused, refuses session _ _ (.run (by decide)), (failed _ _ _ _ _ missing).1,
    ⟨next, performed, ?_⟩, last, performedLast, lastOn.flags⟩
  rw [on.memory, stored]
  rfl

end Session

end Chip8
