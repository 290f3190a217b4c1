/-
# What a session reports

A call has something to report in three cases: a program was loaded, the machine was reset, or
something was to be executed and a fault was raised.  `Call.entries` says so from the call and
its outcome alone.  A session writes all of it to its transcript, as far as its logger accepts
the level, and writes nothing else.

What an action writes is what its parts write, one after the other: `Wrote` says what was
written between two sessions, and `ReportsFaults` is closed under sequencing, so that the calls
that execute something need no case of their own.

The main result is `transcript_is_filtered_report`.  It also says that nothing else depends on
the logger.
-/
import Chip8.Proofs.Session.PowerCycle

namespace Chip8

/-! ## Levels -/

namespace Log

/-- The rank of each known level.  All others rank like `INFO`. -/
theorem rank_eq (level : String) :
    rank level =
      if upper level = "DEBUG" then 0
      else if upper level = "WARNING" then 2
      else if upper level = "ERROR" then 3
      else if upper level = "CRITICAL" then 4
      else 1 := by
  rw [rank]
  generalize upper level = name
  simp only [levels, List.idxOf?_cons, List.idxOf?_nil, beq_iff_eq, @eq_comm _ _ name]
  by_cases info : name = "INFO"
  · subst info
    decide
  · rw [if_neg info]
    repeat' split
    all_goals rfl

end Log

namespace Machine

variable {machine : Machine} {error cause : Error}

/-- What is recorded as a fault is a machine error. -/
theorem isSome_kind?_of_recordedError (recorded : machine.recordedError = .ok (some error)) :
    error.kind?.isSome = true := by
  rw [recordedError] at recorded
  split at recorded <;> cases recorded <;> rfl

/-- A code without a meaning is no machine error. -/
theorem kind?_eq_none_of_recordedError (unknown : machine.recordedError = .error cause) :
    cause.kind? = none := by
  rw [recordedError] at unknown
  split at unknown <;> cases unknown
  rfl

end Machine

namespace Session

variable {α β : Type} {session before middle after : Session} {action : Action α} {call : Call}

/-! ## What is to be reported -/

/-- What a call reports when it succeeds. -/
def Call.notices : Call → List LogEntry
  | .load program _ =>
    match program.size with
    | .ok count => [⟨"INFO", "Loaded ROM (" ++ toString count ++ " bytes)"⟩]
    | .error _ => []
  | .reset => [⟨"INFO", "Machine reset"⟩]
  | _ => []

/-- What is reported when an error is raised in executing something: a machine error, by its
name and its wording, and the registers as they are then. -/
def faultNotices (machine : Machine) (error : Error) : List LogEntry :=
  match error.kind? with
  | some name => [⟨"ERROR", name ++ ": " ++ error.message⟩, ⟨"DEBUG", machine.report⟩]
  | none => []

/-- What a call reports that ends with an outcome and leaves a machine behind. -/
def Call.entries (call : Call) (machine : Machine) : Except Error Reply → List LogEntry
  | .ok _ => call.notices
  | .error error => if call.executes then faultNotices machine error else []

/-- What the calls of a history report, in order. -/
def entries (session : Session) : List Call → List LogEntry
  | [] => []
  | call :: history =>
    call.entries (session.perform call).2.machine (session.perform call).1 ++
      (session.perform call).2.entries history

/-! ## What is written -/

/-- Between two sessions the lines of entries were written, as far as the logger accepts them. -/
structure Wrote (before : Session) (entries : List LogEntry) (after : Session) : Prop where
  logger : after.logger = before.logger
  transcript : after.transcript = before.transcript ++ before.logger.lines entries

theorem Wrote.nil (session : Session) : session.Wrote [] session :=
  ⟨rfl, (List.append_nil _).symm⟩

theorem Wrote.append {first second : List LogEntry} (here : before.Wrote first middle)
    (later : middle.Wrote second after) : before.Wrote (first ++ second) after where
  logger := later.logger.trans here.logger
  transcript := by
    rw [later.transcript, here.transcript, here.logger, Logger.lines_append, List.append_assoc]

theorem wrote_note (session : Session) (entry : LogEntry) :
    session.Wrote [entry] (session.note entry) :=
  ⟨rfl, rfl⟩

/-- A fault is reported before it is raised. -/
theorem wrote_reporting {error : Error} (isFault : error.kind?.isSome = true) :
    session.Wrote (faultNotices session.machine error) (session.reporting error) := by
  obtain ⟨name, named⟩ := Option.isSome_iff_exists.mp isFault
  have spelled : error.report = name ++ ": " ++ error.message := by
    rw [Error.report, named]
    rfl
  rw [faultNotices, named]
  dsimp only
  rw [← spelled]
  exact (session.wrote_note _).append (wrote_note _ _)

/-- How an action ends that reports the faults it raises: nothing was written if it succeeded,
and otherwise what belongs to the error. -/
def EndsReported (before : Session) : EStateM.Result Error Session α → Prop
  | .ok _ after => before.Wrote [] after
  | .error error after => before.Wrote (faultNotices after.machine error) after

/-- An action reports the faults it raises, and nothing else. -/
def ReportsFaults (action : Action α) : Prop :=
  ∀ session, EndsReported session (action.run session)

theorem reportsFaults_pure (value : α) : ReportsFaults (pure value) := Wrote.nil

theorem reportsFaults_get : ReportsFaults get := Wrote.nil

theorem reportsFaults_change (move : Machine → Machine) : ReportsFaults (change move) :=
  fun _ => ⟨rfl, (List.append_nil _).symm⟩

/-- An error that is no machine error is not reported. -/
theorem wrote_of_kind?_eq_none {error : Error} (other : error.kind? = none) :
    session.Wrote (faultNotices session.machine error) session := by
  rw [faultNotices, other]
  exact Wrote.nil session

theorem reportsFaults_throw {error : Error} (other : error.kind? = none) :
    ReportsFaults (throw error : Action α) :=
  fun _ => wrote_of_kind?_eq_none other

theorem reportsFaults_check : ReportsFaults check := by
  intro session
  rw [run_check]
  rcases recorded : session.machine.recordedError with cause | (_ | error)
  · exact wrote_of_kind?_eq_none (Machine.kind?_eq_none_of_recordedError recorded)
  · exact Wrote.nil session
  · exact wrote_reporting (Machine.isSome_kind?_of_recordedError recorded)

/-- What goes before without writing does not count. -/
theorem EndsReported.of_wrote_nil {result : EStateM.Result Error Session α}
    (quiet : before.Wrote [] middle) (ended : EndsReported middle result) :
    EndsReported before result := by
  cases result with
  | ok value after => exact quiet.append ended
  | error error after => exact quiet.append ended

/-- Actions that follow each other report faults when each of them does. -/
theorem ReportsFaults.bind {next : α → Action β} (first : ReportsFaults action)
    (rest : ∀ value, ReportsFaults (next value)) : ReportsFaults (action >>= next) := by
  intro session
  have here := first session
  rw [EStateM.run_bind]
  cases outcome : action.run session with
  | error error last =>
    rw [outcome] at here
    exact here
  | ok value middle =>
    rw [outcome] at here
    exact (rest value middle).of_wrote_nil here

/-- A change that fails with no machine error does not have to be reported. -/
theorem reportsFaults_tryChange {move : Machine → Except Error Machine}
    (other : ∀ machine error, move machine = .error error → error.kind? = none) :
    ReportsFaults (tryChange move) := by
  refine reportsFaults_get.bind fun session => ?_
  cases moved : move session.machine with
  | ok machine => exact reportsFaults_change _
  | error error => exact reportsFaults_throw (other _ _ moved)

/-! ## Calls that execute something -/

theorem reportsFaults_status : ReportsFaults status :=
  reportsFaults_get.bind fun _ => reportsFaults_pure _

theorem reportsFaults_step : ReportsFaults Session.step :=
  reportsFaults_check.bind fun _ => (reportsFaults_change _).bind fun _ =>
    reportsFaults_check.bind fun _ => reportsFaults_status

theorem reportsFaults_run (cycles : Int) : ReportsFaults (Session.run cycles) := by
  by_cases negative : cycles < 0
  · rw [run_eq_throw negative]
    exact reportsFaults_throw rfl
  · rw [run_eq_checked (Int.not_lt.mp negative)]
    refine reportsFaults_check.bind fun _ => (reportsFaults_tryChange ?_).bind fun _ =>
      reportsFaults_check.bind fun _ => reportsFaults_status
    intro machine error refused
    by_cases held : Width.signed32.Holds cycles
    · rw [machine.runChecked_of_holds held] at refused
      cases refused
    · rw [machine.runChecked_of_not_holds held] at refused
      cases refused
      rfl

theorem reportsFaults_runFrame : ReportsFaults Session.runFrame :=
  reportsFaults_get.bind fun _ => (reportsFaults_run _).bind fun _ =>
    (reportsFaults_change _).bind fun _ => reportsFaults_pure _

theorem reportsFaults_of_executes (executes : call.executes = true) :
    ReportsFaults call.action := by
  cases call with
  | step => exact reportsFaults_step.bind fun _ => reportsFaults_pure _
  | run cycles => exact (reportsFaults_run cycles).bind fun _ => reportsFaults_pure _
  | runFrame => exact reportsFaults_runFrame.bind fun _ => reportsFaults_pure _
  | _ => cases executes

theorem notices_eq_nil_of_executes (executes : call.executes = true) : call.notices = [] := by
  cases call with
  | load program clearFlags => cases executes
  | reset => cases executes
  | _ => rfl

theorem wrote_perform_of_executes (executes : call.executes = true) (session : Session) :
    session.Wrote (call.entries (session.perform call).2.machine (session.perform call).1)
      (session.perform call).2 := by
  have ended := reportsFaults_of_executes executes session
  rw [perform]
  cases outcome : call.action.run session with
  | ok reply next =>
    rw [outcome] at ended
    dsimp only
    rw [Call.entries, notices_eq_nil_of_executes executes]
    exact ended
  | error error last =>
    rw [outcome] at ended
    dsimp only
    rw [Call.entries, if_pos executes]
    exact ended

/-! ## Other calls -/

/-- Whether a change of the machine is refused or not, nothing is written. -/
theorem wrote_after_tryChange (session : Session) (move : Machine → Except Error Machine) :
    session.Wrote [] (session.after do tryChange move; return Reply.nothing) := by
  rw [after_bind_pure, after, tryChange, EStateM.run_bind, EStateM.run_get]
  dsimp only
  cases move session.machine with
  | ok machine => exact ⟨rfl, (List.append_nil _).symm⟩
  | error cause => exact Wrote.nil session

/-- Whether a question is answered or not, nothing is written. -/
theorem wrote_after_ask (session : Session) (question : Machine → Except Error α)
    (shape : α → Reply) : session.Wrote [] (session.after do return shape (← ask question)) := by
  rw [after_bind_pure, after_ask]
  exact Wrote.nil session

/-- A program that was loaded is reported with its size. -/
theorem wrote_perform_load (session : Session) (program : ByteData) (clearFlags : Bool) :
    session.Wrote
      ((Call.load program clearFlags).entries (session.perform (.load program clearFlags)).2.machine
        (session.perform (.load program clearFlags)).1)
      (session.perform (.load program clearFlags)).2 := by
  cases read : Memory.programBytes program programStart with
  | error cause =>
    rw [session.perform_load_of_error read clearFlags]
    exact Wrote.nil session
  | ok bytes =>
    have noticed : (Call.load program clearFlags).notices =
        [⟨"INFO", "Loaded ROM (" ++ toString bytes.length ++ " bytes)"⟩] := by
      rw [Call.notices, program.size_eq_map_toBytes, Memory.toBytes_of_programBytes read]
      rfl
    rw [perform, Call.action, EStateM.run_bind, run_load session read]
    show session.Wrote (Call.load program clearFlags).notices _
    rw [noticed]
    exact ⟨rfl, rfl⟩

theorem wrote_perform_reset (session : Session) :
    session.Wrote
      (Call.reset.entries (session.perform .reset).2.machine (session.perform .reset).1)
      (session.perform .reset).2 := by
  rw [perform, Call.action, EStateM.run_bind, Session.reset, EStateM.run_bind, EStateM.run_get]
  dsimp only
  rw [EStateM.run_bind, tryChange, EStateM.run_bind, EStateM.run_get]
  dsimp only
  cases session.machine.reset (session.program.map ByteData.bytes) false with
  | ok machine => exact ⟨rfl, rfl⟩
  | error cause => exact Wrote.nil session

/-- What a call reports is written. -/
theorem wrote_perform (session : Session) (call : Call) :
    session.Wrote (call.entries (session.perform call).2.machine (session.perform call).1)
      (session.perform call).2 := by
  by_cases executes : call.executes = true
  · exact wrote_perform_of_executes executes session
  -- A call that reports nothing, however it ends, only has to leave the transcript alone.
  have quiet (silent : call.notices = []) (wrote : session.Wrote [] (session.after call.action)) :
      session.Wrote (call.entries (session.perform call).2.machine (session.perform call).1)
        (session.perform call).2 := by
    have unreported : call.entries (session.perform call).2.machine (session.perform call).1 =
        [] := by
      cases (session.perform call).1 with
      | ok reply => exact silent
      | error cause => exact if_neg executes
    rw [unreported, perform_snd]
    exact wrote
  have unchanged : session.Wrote [] session := Wrote.nil session
  cases call with
  | load program clearFlags => exact session.wrote_perform_load program clearFlags
  | reset => exact session.wrote_perform_reset
  | step => exact absurd rfl executes
  | runFrame => exact absurd rfl executes
  | run cycles =>
    refine quiet rfl ?_
    have negative : cycles < 0 := Int.not_le.mp fun nonneg => executes (decide_eq_true nonneg)
    rw [Call.action, after_bind_pure, run_eq_throw negative]
    exact unchanged
  | tick => exact quiet rfl ⟨rfl, (List.append_nil _).symm⟩
  | setRegister index value => exact quiet rfl (session.wrote_after_tryChange _)
  | setKey index pressed => exact quiet rfl (session.wrote_after_tryChange _)
  | getRegister index => exact quiet rfl (session.wrote_after_ask _ Reply.value)
  | isPressed index => exact quiet rfl (session.wrote_after_ask _ Reply.truth)
  | picture scale colours room => exact quiet rfl (session.wrote_after_ask _ Reply.picture)
  | recordedError => exact quiet rfl (session.wrote_after_ask _ Reply.fault)
  | lowestKey => exact quiet rfl unchanged
  | soundActive => exact quiet rfl unchanged
  | screen => exact quiet rfl unchanged
  | status => exact quiet rfl unchanged

/-! ## Histories -/

/-- What the calls of a history report is written. -/
theorem wrote_performAll (session : Session) (history : List Call) :
    session.Wrote (session.entries history) (session.performAll history).2 := by
  induction history generalizing session with
  | nil => exact Wrote.nil session
  | cons call history ih =>
    rw [performAll_cons_snd, entries]
    exact (session.wrote_perform call).append (ih _)

/-- Sessions that are alike have the same to report. -/
theorem Alike.entries (alike : Alike True session middle) (history : List Call) :
    session.entries history = middle.entries history := by
  induction history generalizing session middle with
  | nil => rfl
  | cons call history ih =>
    obtain ⟨outcome, next⟩ := alike.perform call fun _ => trivial
    rw [Session.entries, Session.entries, outcome, next.machine, ih next]

/-- Among sessions that differ only in what they write, one is what another becomes. -/
theorem Alike.eq_with (alike : Alike True session middle) :
    middle = { session with logger := middle.logger, transcript := middle.transcript } := by
  obtain ⟨machine, program, pace⟩ := alike
  cases session
  cases middle
  cases machine
  cases program
  cases pace trivial
  rfl

/-- The logger has no part in how a session is set up. -/
theorem create_with_logger (options : SessionOptions) (logger : Logger) :
    create { options with logger := logger } =
      (create options).map fun fresh => { fresh with logger := logger } := by
  rw [create, create]
  by_cases stopped : options.instructionFrequency ≤ 0 ∨ options.timerFrequency ≤ 0
  · rw [if_pos stopped, if_pos stopped]
    rfl
  · rw [if_neg stopped, if_neg stopped]
    cases options.dialect.resolve with
    | error cause => rfl
    | ok dialect => cases RandomKey.ofSeed? options.seed <;> rfl

/-- The stored program of a reachable session fits in memory, so that no reset fails. -/
theorem perform_reset_fst (reachable : session.IsReachable) :
    (session.perform .reset).1 = .ok .nothing := by
  obtain ⟨entry, performed⟩ := session.perform_reset (programFits_of_isReachable reachable)
  rw [performed]

/-! ## A fault that is raised more than once -/

/-- Each call that is to execute something raises a recorded fault. -/
theorem exists_perform_of_fault {error : Error}
    (faulted : session.machine.recordedError = .ok (some error)) (executes : call.executes = true) :
    ∃ last, session.perform call = (.error error, last) ∧ last.machine = session.machine := by
  refine ⟨session.reporting error, ?_, rfl⟩
  rw [perform, run_action_of_executes faulted executes]

/-- A step raises the fault that comes up in it. -/
theorem exists_perform_step_of_fault {error : Error} (clear : session.IsClear)
    (faulted : session.machine.step.recordedError = .ok (some error)) :
    ∃ last, session.perform .step = (.error error, last) ∧
      last.machine = session.machine.step := by
  let next : Session := { session with machine := session.machine.step }
  have stopped : next.machine.recordedError = .ok (some error) := faulted
  have failed : Session.step.run session = .error error (next.reporting error) := by
    rw [step_eq_batch, run_batch_of_isClear clear]
    exact run_settle_of_fault stopped
  refine ⟨next.reporting error, ?_, rfl⟩
  rw [perform, Call.action, EStateM.run_bind, failed]

/-- What a call reports comes before what the calls after it do. -/
theorem entries_of_perform {outcome : Except Error Reply}
    (performed : session.perform call = (outcome, after)) (history : List Call) :
    session.entries (call :: history) =
      call.entries after.machine outcome ++ after.entries history := by
  rw [entries, performed]

/-- A program is refused, one that is an unassigned word is loaded, and the machine is to go on
twice before it is reset.  The first of these calls reports nothing, and the third and the fourth
both report the fault. -/
theorem report_of_unassigned_word {refused : ByteData} {cause : Error}
    (unread : Memory.programBytes refused programStart = .error cause) (high low : UInt8)
    (unassigned : Instruction.decode (high.toUInt16 <<< 8 ||| low.toUInt16) = none) :
    let fault := Error.invalidOpcode (high.toUInt16 <<< 8 ||| low.toUInt16).toNat (some 0x200)
    let notices := faultNotices (loaded [high, low]).machine.step fault
    let history : List Call :=
      [.load refused false, .load (.bytes [high, low]) false, .step, .run 5, .reset]
    (standard.performAll history).1 =
        [.error cause, .ok .nothing, .error fault, .error fault, .ok .nothing] ∧
      standard.entries history =
        (Call.load (.bytes [high, low]) false).notices ++
          (notices ++ (notices ++ Call.reset.notices)) := by
  intro fault notices history
  have failed : standard.perform (.load refused false) = (.error cause, standard) :=
    standard.perform_load_of_error unread false
  have loads : standard.perform (.load (.bytes [high, low]) false) =
      (.ok .nothing, loaded [high, low]) := by
    obtain ⟨entry, performed⟩ := standard.perform_load_of_ok
      (Memory.programBytes_bytes (fits_word high low)) false
    rw [loaded, performed]
  have raised : (loaded [high, low]).machine.step.recordedError = .ok (some fault) :=
    recordedError_step_loaded_of_unassigned high low unassigned
  obtain ⟨halted, stepped, stopped⟩ :=
    exists_perform_step_of_fault (isClear_loaded (fits_word high low)) raised
  rw [← stopped] at raised
  have executes : (Call.run 5).executes = true := rfl
  obtain ⟨last, again, unmoved⟩ := exists_perform_of_fault raised executes
  have reachable : last.IsReachable := by
    have told := ((isReachable_loaded [high, low]).perform .step).perform (.run 5)
    rwa [stepped, again] at told
  have resets := perform_reset_fst reachable
  constructor
  · rw [performAll_cons_fst, failed, performAll_cons_fst, loads, performAll_cons_fst,
      stepped, performAll_cons_fst, again, performAll_cons_fst, resets]
    rfl
  · rw [entries_of_perform failed, entries_of_perform loads, entries_of_perform stepped,
      entries_of_perform again, entries, resets, unmoved, stopped]
    rfl

/-! ## Transcripts -/

/-- What the calls of a session report is filtered by their levels and written in order.  This
is all that the logger has to do with: sessions that differ only in their loggers, and in what
they have written so far, answer the same calls in the same way, report the same and become
sessions that again differ only in these. -/
theorem transcript_is_filtered_report :
    (∀ (session : Session) (history : List Call),
      (session.performAll history).2.logger = session.logger ∧
      (session.performAll history).2.transcript =
        session.transcript ++
          ((session.entries history).filter fun entry =>
            Log.rank session.logger.level ≤ Log.rank entry.level).map session.logger.line) ∧
    (∀ (session : Session) (logger : Logger) (transcript : List String) (history : List Call),
      let other : Session := { session with logger := logger, transcript := transcript }
      (other.performAll history).1 = (session.performAll history).1 ∧
      other.entries history = session.entries history ∧
      ∃ written, (other.performAll history).2 =
        { (session.performAll history).2 with logger := logger, transcript := written }) ∧
    (∀ session : Session, session.IsReachable → (session.perform .reset).1 = .ok .nothing) ∧
    (∀ (options : SessionOptions) (logger : Logger),
      create { options with logger := logger } =
        (create options).map fun fresh => { fresh with logger := logger }) ∧
    ∀ level, Log.rank level =
      if Log.upper level = "DEBUG" then 0
      else if Log.upper level = "WARNING" then 2
      else if Log.upper level = "ERROR" then 3
      else if Log.upper level = "CRITICAL" then 4
      else 1 := by
  refine ⟨?written, ?apart, fun _ => perform_reset_fst, create_with_logger, Log.rank_eq⟩
  case written =>
    intro session history
    have wrote := session.wrote_performAll history
    exact ⟨wrote.logger, wrote.transcript⟩
  case apart =>
    intro session logger transcript history other
    have alike : Alike True session other := ⟨rfl, rfl, fun _ => rfl⟩
    obtain ⟨outcomes, last⟩ : (session.performAll history).1 = (other.performAll history).1 ∧
        Alike True (session.performAll history).2 (other.performAll history).2 :=
      alike.performAll fun _ => trivial
    refine ⟨outcomes.symm, (alike.entries history).symm,
      (other.performAll history).2.transcript, ?_⟩
    have kept : (other.performAll history).2.logger = logger :=
      (other.wrote_performAll history).logger
    rw [← kept]
    exact last.eq_with

/-- At the level `WARNING` the fault is written each time it is raised, but neither the load nor
the reset is; at the level `DEBUG` all of it is, with the registers below each error. -/
theorem each_raise_of_a_fault_is_written :
    let history : List Call :=
      [.load (.zeros 3585) false, .load (.bytes [0xFF, 0xFF]) false, .step, .run 5, .reset]
    let detailed : Session := { standard with
      logger := ⟨"Machine", "debug", false, ""⟩
      transcript := [] }
    let fault := Error.invalidOpcode 0xFFFF (some 0x200)
    let last := (standard.performAll history).2
    (standard.performAll history).1 =
        [.error (.romTooLarge 3585 0x200), .ok .nothing, .error fault, .error fault,
          .ok .nothing] ∧
      (detailed.performAll history).1 = (standard.performAll history).1 ∧
      last.transcript =
        ["[TIME][   ERROR][Machine] InvalidOpcodeError: Invalid opcode 0xFFFF at 0x200",
         "[TIME][   ERROR][Machine] InvalidOpcodeError: Invalid opcode 0xFFFF at 0x200"] ∧
      (detailed.performAll history).2.transcript =
        ["[    INFO][Machine] Loaded ROM (2 bytes)",
         "[   ERROR][Machine] InvalidOpcodeError: Invalid opcode 0xFFFF at 0x200",
         "[   DEBUG][Machine] PC=0202 I=0000 DT=00 ST=00 SP=0 HALTED V0=00 V1=00 V2=00 V3=00 " ++
           "V4=00 V5=00 V6=00 V7=00 V8=00 V9=00 VA=00 VB=00 VC=00 VD=00 VE=00 VF=00",
         "[   ERROR][Machine] InvalidOpcodeError: Invalid opcode 0xFFFF at 0x200",
         "[   DEBUG][Machine] PC=0202 I=0000 DT=00 ST=00 SP=0 HALTED V0=00 V1=00 V2=00 V3=00 " ++
           "V4=00 V5=00 V6=00 V7=00 V8=00 V9=00 VA=00 VB=00 VC=00 VD=00 VE=00 VF=00",
         "[    INFO][Machine] Machine reset"] ∧
      last.IsReachable ∧ (last.perform .reset).1 = .ok .nothing := by
  intro history detailed fault last
  obtain ⟨written, apart, resets, -, -⟩ := transcript_is_filtered_report
  have unread : Memory.programBytes (.zeros 3585) programStart =
      .error (.romTooLarge 3585 0x200) := rfl
  obtain ⟨outcomes, reported⟩ := report_of_unassigned_word unread 0xFF 0xFF rfl
  obtain ⟨same, (told : detailed.entries history = standard.entries history), -⟩ :=
    apart standard detailed.logger [] history
  have reachable : last.IsReachable := isReachable_performAll_standard history
  have registers : (loaded [0xFF, 0xFF]).machine.step.report =
      "PC=0202 I=0000 DT=00 ST=00 SP=0 HALTED V0=00 V1=00 V2=00 V3=00 V4=00 V5=00 V6=00 " ++
        "V7=00 V8=00 V9=00 VA=00 VB=00 VC=00 VD=00 VE=00 VF=00" := by
    rw [step_loaded_of_unassigned 0xFF 0xFF rfl, Machine.report,
      machine_loaded (fits_word 0xFF 0xFF)]
    decide +kernel
  refine ⟨outcomes, same, ?warnings, ?details, reachable, resets last reachable⟩
  case warnings =>
    rw [(written standard history).2, reported]
    decide +kernel
  case details =>
    rw [(written detailed history).2, told, reported, faultNotices, registers]
    decide +kernel

end Session

end Chip8
