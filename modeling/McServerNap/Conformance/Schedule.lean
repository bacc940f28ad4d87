import McServerNap.Conformance.Ledger
import McServerNap.Schedule

/-!
# The supervisor keeps its schedule

A phase is limited from its publication on. While it lasts the supervisor waits in two
places, for readiness and for the end of a cooldown, and in both no longer than the
limit. What it does elsewhere neither waits before the next publication nor depends on a
limit.
-/

namespace McServerNap

open Interaction SupervisorControl

/-! ## Unlimited phases -/

/-- The operations that leave an unlimited phase unlimited. -/
def Op.lingers : Op → Prop
  | .publish transition _ => transition.hurries = false
  | _ => True

/-- What is plain publishes nothing, so it limits nothing. -/
theorem lingers_of_plain (op : Op) (plain : op.plain) : op.lingers := by
  cases op <;> trivial

/-- A supervisor without a child publishes only phases without a limit: those with one need a
child, or the failure of one. -/
theorem lingers_of_parks (op : Op) (parks : op.parks) : op.lingers := by
  cases op with
  | publish transition next =>
    obtain ⟨parked, -⟩ := parks
    cases transition with
    | setPhase phase =>
      obtain rfl : phase = .stopped := by simpa [Transition.parks] using parked
      rfl
    | recordLaunchSuccess | recordLaunchFailure | recordReapedFailure | finishFailureCleanup
    | beginFailureCleanup | beginIdleStop => cases parked
    | _ => rfl
  | _ => trivial

section Lingering

variable (config : SupervisorConfig)

/-- Looking after a child publishes nothing but a reset of the streak. -/
theorem lingers_of_oversees (op : Op) (oversees : op.oversees) : op.lingers := by
  cases op with
  | publish transition next =>
    obtain rfl : transition = .resetFailureStreak := oversees
    rfl
  | _ => trivial

/-- The monitor's own wait forgets a streak at most. -/
theorem lingers_awaitRunningMonitor (state : RunningMonitorState) (anchor : Option Instant) :
    Issues Op.lingers (awaitRunningMonitor config state anchor) :=
  issues_awaitRunningMonitor config lingers_of_oversees (fun _ => trivial) state anchor

/-- A stop sequence waits and publishes nothing. -/
theorem lingers_stopAndReap {σ : Type} {await : Awaiting σ}
    (awaits : ∀ held sources, Issues Op.lingers (await held sources)) (held : σ) :
    Issues Op.lingers (stopAndReap config await held) :=
  issues_stopAndReap trivial trivial awaits held

/-- Waiting alone publishes nothing. -/
theorem lingers_alone (held : Unit) (sources : List Source) :
    Issues Op.lingers (alone held sources) :=
  issues_alone (fun _ => trivial) held sources

/-- Nor does waiting beside the channels. -/
theorem lingers_beside (latches : WakeRequest → LifecycleState → Bool) (latch : Latch)
    (sources : List Source) : Issues Op.lingers (beside latches latch sources) :=
  issues_beside lingers_of_plain (fun _ => trivial) latches latch sources

end Lingering

variable {config : SupervisorConfig} {schedule : Schedule} {α : Type}

/-- In an unlimited phase every wait is in order. What such a program publishes is unlimited too,
so nothing has to be said about its timers. -/
theorem scheduled_lingers {program : Supervised α} (lingers : Issues Op.lingers program)
    (unlimited : schedule.limit = none) :
    Safe (scheduling config) program (fun _ later => later.limit = none) schedule := by
  refine Issues.safe (fun schedule op unlimited admitted => ?_) lingers unlimited
  cases op with
  | select sources =>
    refine ⟨fun limit limited => ?_, fun _ _ => unlimited⟩
    rw [unlimited] at limited
    cases limited
  | publish transition next =>
    have slow : transition.hurries = false := admitted
    refine ⟨fun hurries => ?_, fun _ _ => by simp [Schedule.after, slow]⟩
    rw [slow] at hurries
    cases hurries
  | _ => exact ⟨trivial, fun _ _ => unlimited⟩

/-- A program that limits no phase may be run in an unlimited one, which is still unlimited
afterwards. -/
theorem scheduled_then {program : Supervised α} {post : α → Schedule → Prop}
    (lingers : Issues Op.lingers program) (unlimited : schedule.limit = none)
    (reached : ∀ value later, later.limit = none → post value later) :
    Safe (scheduling config) program post schedule :=
  (scheduled_lingers lingers unlimited).mono reached

/-- What neither waits, publishes nor looks at the clock keeps any schedule. -/
theorem scheduled_plain {program : Supervised α} {post : α → Schedule → Prop}
    (plain : Issues Op.plain program) (reached : ∀ value, post value schedule) :
    Safe (scheduling config) program post schedule := by
  have kept : Safe (scheduling config) program (fun _ later => later = schedule) schedule := by
    refine Issues.safe (fun current op same admitted => ?_) plain rfl
    subst same
    cases op <;> first | exact ⟨trivial, fun _ _ => rfl⟩ | cases admitted
  exact kept.mono fun value _ same => same ▸ reached value

/-- The schedule has to permit the operation, and what follows has to hold for each reply it
allows. -/
theorem scheduled_access {op : Op} {post : Reply op → Schedule → Prop}
    (permitted : schedule.permits op)
    (handled : ∀ reply, schedule.answers config op reply →
      post reply (schedule.after config op reply)) :
    Safe (scheduling config) (access op) post schedule :=
  ⟨permitted, handled⟩

/-- A reading repeats the last one unless something was waited for in between. -/
theorem scheduled_now {post : Instant → Schedule → Prop}
    (handled : ∀ reading, (∀ before, schedule.reading = some before → reading = before) →
      post reading ⟨some reading, schedule.limit⟩) :
    Safe (scheduling config) now post schedule :=
  ⟨trivial, handled⟩

/-- An assertion touches no schedule, and a failed one ends the program. -/
theorem scheduled_assert {condition : Bool} {post : Unit → Schedule → Prop}
    (reached : post () schedule) : Safe (scheduling config) (assert condition) post schedule := by
  cases condition with
  | true => exact reached
  | false => exact ⟨trivial, nofun⟩

/-- Looking for a shutdown keeps the schedule, the last reading included. -/
theorem scheduled_shutdownPending {post : Bool → Schedule → Prop}
    (reached : ∀ pending, post pending schedule) :
    Safe (scheduling config) shutdownPending post schedule :=
  scheduled_plain (issues_shutdownPending fun _ plain => plain) reached

/-! ## Publications -/

/-- A limited phase begins at the instant that its publication was given. -/
theorem Transition.begins_of_hurries {transition : Transition} (hurries : transition.hurries = true)
    (current : LifecycleState) (reading : Instant) :
    (transition.target current reading).phaseStartedAt = reading := by
  cases transition <;> first | (cases hurries; done) | rfl

/-- The schedule after a publication. -/
def Schedule.published (config : SupervisorConfig) (transition : Transition)
    (current : LifecycleState) (reading : Instant) : Schedule where
  reading := some reading
  limit :=
    if transition.hurries then phaseLimit config (transition.target current reading) else none

/-- A publishing function reads the clock for what it publishes. -/
theorem scheduled_advance {transition : Transition}
    {post : LifecycleState × Instant → Schedule → Prop}
    (reached : ∀ current reading, post (transition.target current reading, reading)
      (.published config transition current reading)) :
    Safe (scheduling config) (advance transition) post schedule := by
  simp only [advance, publish, Program.bind_eq, safe_bind]
  refine scheduled_access trivial fun current _ => scheduled_assert ?_
  refine scheduled_now fun reading _ => scheduled_assert ?_
  refine scheduled_access (fun hurries => ?_) fun _ _ => reached current reading
  rw [Transition.begins_of_hurries hurries]

/-- Setting a phase publishes it with the limit it has, counted from the reading just made. -/
theorem scheduled_setPhase {phase : ServerPhase} {post : Unit → Schedule → Prop}
    (reached : ∀ current reading,
      post () (.published config (.setPhase phase) current reading)) :
    Safe (scheduling config) (setPhase phase) post schedule := by
  simp only [setPhase, Program.bind_eq, safe_bind]
  exact scheduled_advance reached

/-- After a publication that begins a stop or no limited phase there is no limit. -/
theorem unlimited_setPhase {phase : ServerPhase} (stops : phase = .stopping ∨ phase = .stopped)
    {post : Unit → Schedule → Prop} (reached : ∀ later, later.limit = none → post () later) :
    Safe (scheduling config) (setPhase phase) post schedule := by
  refine scheduled_setPhase fun current reading => reached _ ?_
  rcases stops with rfl | rfl <;> rfl

/-! ## Stops and failures -/

section Cycle

/-- How a launch cycle leaves the schedule: with the limit of the cooldown that follows a
failure, or without one. -/
def CycleScheduled : CycleResult → Schedule → Prop
  | .ok (.failed retryAt _), schedule => schedule.limit = some retryAt
  | .ok _, schedule => schedule.limit = none
  | .error _, _ => True

/-- Recording the failure of a reaped child limits the cooldown that follows by the deadline it
returns. -/
theorem scheduled_reapedFailure {failure : FailureCategory} :
    Safe (scheduling config) (reapedFailure failure)
      (fun outcome later => CycleScheduled (.ok outcome) later) schedule := by
  simp only [reapedFailure, recordReapedFailure, Program.bind_eq, safe_bind]
  exact scheduled_advance fun current reading => rfl

/-- After a failed wait the cycle ends with an error, after which no limit matters. -/
theorem scheduled_reapAfterWaitError :
    Safe (scheduling config) (reapAfterWaitError config) CycleScheduled schedule := by
  simp only [reapAfterWaitError, Program.bind_eq, safe_bind]
  refine unlimited_setPhase (.inl rfl) fun later unlimited => ?_
  refine scheduled_then (lingers_stopAndReap config lingers_alone ()) unlimited ?_
  rintro ⟨held, cleanup⟩ later unlimited
  cases cleanup with
  | error error => trivial
  | ok _ =>
    simp only [safe_bind]
    exact unlimited_setPhase (.inr rfl) fun _ _ => trivial

/-- A stop for a shutdown leaves no limit behind. -/
theorem scheduled_stopForShutdown :
    Safe (scheduling config) (stopForShutdown config) CycleScheduled schedule := by
  simp only [stopForShutdown, Program.bind_eq, safe_bind]
  refine unlimited_setPhase (.inl rfl) fun later unlimited => ?_
  refine scheduled_then (lingers_stopAndReap config lingers_alone ()) unlimited ?_
  rintro ⟨held, cleanup⟩ later unlimited
  cases cleanup with
  | error error => trivial
  | ok _ => exact unlimited

/-- Whatever a wait for the child told, the cycle ends with the limit that its outcome names. -/
theorem scheduled_processWaitOutcome {status : WaitResult} {failure : FailureCategory} :
    Safe (scheduling config) (processWaitOutcome config status failure) CycleScheduled
      schedule := by
  cases status with
  | exited =>
    simp only [processWaitOutcome, Program.bind_eq, safe_bind]
    exact scheduled_reapedFailure
  | failed => exact scheduled_reapAfterWaitError

/-- The end of a cleanup publishes the cooldown with its deadline as the limit. -/
theorem scheduled_finishFailedCleanup {retryDelay : Duration} (unlimited : schedule.limit = none) :
    Safe (scheduling config) (finishFailedCleanup config retryDelay) CycleScheduled schedule := by
  simp only [finishFailedCleanup, Program.bind_eq, safe_bind]
  refine scheduled_then (lingers_stopAndReap config (lingers_beside _) _) unlimited ?_
  rintro ⟨latch, cleanup⟩ later unlimited
  cases cleanup with
  | error error => trivial
  | ok _ =>
    dsimp only
    split
    · exact unlimited
    · simp only [safe_bind]
      refine scheduled_shutdownPending fun pending => ?_
      split
      · exact unlimited
      · simp only [finishFailureCleanup, Program.bind_eq, safe_bind]
        exact scheduled_advance fun current reading => rfl

/-- Stopping a server that failed to start ends the limit of its startup, and its failure sets the
one of the cooldown. -/
theorem scheduled_stopFailedServer {failure : FailureCategory} :
    Safe (scheduling config) (stopFailedServer config failure) CycleScheduled schedule := by
  simp only [stopFailedServer, beginFailureCleanup, Program.bind_eq, safe_bind]
  exact scheduled_advance fun current reading => scheduled_finishFailedCleanup rfl

/-- The last drain of the wake channel ends in no cooldown; whatever it receives is only latched
or refused. -/
theorem scheduled_drainRestarts {restart : Bool} (unlimited : schedule.limit = none) :
    Safe (scheduling config) (drainRestarts restart)
      (fun outcome later => CycleScheduled (.ok outcome) later) schedule := by
  refine safe_loop (fun _ later => later.limit = none) unlimited fun restart schedule unlimited => ?_
  simp only [Program.bind_eq, safe_bind]
  refine scheduled_access trivial fun outcome _ => ?_
  cases outcome with
  | received request =>
    simp only [safe_bind]
    exact scheduled_access trivial fun _ _ => scheduled_access trivial fun _ _ => unlimited
  | empty => cases restart <;> exact unlimited
  | disconnected => exact unlimited

/-- A committed idle stop is not limited, and leaves no limit. The time that it takes is bounded
by its own deadlines, which the pace accounts for. -/
theorem scheduled_stopCommittedIdleServer (unlimited : schedule.limit = none) :
    Safe (scheduling config) (stopCommittedIdleServer config) CycleScheduled schedule := by
  simp only [stopCommittedIdleServer, Program.bind_eq, safe_bind]
  refine scheduled_access trivial fun stopping _ => scheduled_assert ?_
  refine scheduled_then (lingers_stopAndReap config (lingers_beside _) _) unlimited ?_
  rintro ⟨latch, cleanup⟩ later unlimited
  cases cleanup with
  | error error => trivial
  | ok _ =>
    dsimp only
    split
    · exact unlimited
    · simp only [safe_bind]
      refine scheduled_shutdownPending fun pending => ?_
      split
      · exact unlimited
      · simp only [safe_bind]
        exact scheduled_drainRestarts unlimited

end Cycle

/-! ## Watching a running server -/

section Watching

variable {state : RunningMonitorState}

/-- Committing publishes the stopping phase, which has no limit of this kind. Where the commitment
is given up nothing was published, and the phase is still running. -/
theorem scheduled_commitIdleStop (unlimited : schedule.limit = none) :
    Safe (scheduling config) (commitIdleStop state) (fun _ later => later.limit = none)
      schedule := by
  simp only [commitIdleStop, Program.bind_eq, safe_bind]
  refine scheduled_access trivial fun current _ => ?_
  split
  · exact unlimited
  · simp only [safe_bind]
    refine scheduled_shutdownPending fun pending => ?_
    split
    · exact unlimited
    · simp only [safe_bind]
      refine scheduled_access trivial fun outcome _ => ?_
      cases outcome with
      | exited | failed => exact unlimited
      | running =>
        simp only [beginIdleStop, Program.bind_eq, safe_bind]
        exact scheduled_now fun _ _ => scheduled_advance fun _ _ => rfl

/-- Nothing that is done under the gate limits a phase: only publications set a limit, and the one
that is made there is that of the idle stop. -/
theorem scheduled_attemptUnderExclusive {anchor : Instant} (unlimited : schedule.limit = none) :
    Safe (scheduling config) (attemptUnderExclusive config anchor state)
      (fun _ later => later.limit = none) schedule := by
  simp only [attemptUnderExclusive, Program.bind_eq, safe_bind]
  refine scheduled_access trivial fun activity _ => ?_
  split
  · exact unlimited
  · simp only [safe_bind]
    refine scheduled_now fun reading _ => ?_
    split
    · exact unlimited
    · simp only [safe_bind]
      refine scheduled_access trivial fun current _ => ?_
      split
      · exact unlimited
      · simp only [safe_bind]
        refine scheduled_shutdownPending fun pending => ?_
        split
        · exact unlimited
        · simp only [safe_bind]
          refine scheduled_access trivial fun outcome _ => ?_
          cases outcome with
          | exited | failed => exact unlimited
          | running =>
            simp only [safe_bind]
            refine scheduled_then ((oversees_confirmIdlePlayerState config _).mono lingers_of_oversees) unlimited ?_
            rintro ⟨state, check⟩ later unlimited
            cases check with
            | confirmed =>
              simp only [safe_bind]
              exact scheduled_commitIdleStop unlimited
            | _ => exact unlimited

/-- Nor does a whole attempt to stop an idle server: it takes the gate, checks under it, and gives
it back, all in the running phase or the one it commits. -/
theorem scheduled_attemptExpiredIdleStop {anchor : Instant} (unlimited : schedule.limit = none) :
    Safe (scheduling config) (attemptExpiredIdleStop config state anchor)
      (fun _ later => later.limit = none) schedule := by
  simp only [attemptExpiredIdleStop, Program.bind_eq, safe_bind]
  refine scheduled_then ((oversees_acquireIdleExclusive config _ _).mono lingers_of_oversees) unlimited ?_
  rintro ⟨state, exclusive⟩ later unlimited
  cases exclusive with
  | acquired =>
    simp only [safe_bind]
    exact (scheduled_attemptUnderExclusive unlimited).mono fun _ _ unlimited =>
      scheduled_access trivial fun _ _ => unlimited
  | _ => exact unlimited

/-- The running phase is not limited, whatever the monitor does in a turn. Its own timers are no
limits of the phase. -/
theorem scheduled_advanceRunningMonitor (unlimited : schedule.limit = none) :
    Safe (scheduling config) (advanceRunningMonitor config state)
      (fun _ later => later.limit = none) schedule := by
  simp only [advanceRunningMonitor, Program.bind_eq, safe_bind]
  refine scheduled_access trivial fun activity _ => ?_
  split
  · simp only [safe_bind]
    refine scheduled_now fun reading _ => ?_
    split
    · exact scheduled_attemptExpiredIdleStop unlimited
    · exact scheduled_lingers (lingers_awaitRunningMonitor config _ _) unlimited
  · exact scheduled_lingers (lingers_awaitRunningMonitor config _ _) unlimited

/-- Monitoring a running server stays unlimited until its cycle ends, because the running phase
has no limit and nothing is published before the end. -/
theorem scheduled_monitorRunningServer {inspection : PlayerInspection} {cycle : BackendCycle}
    (unlimited : schedule.limit = none) :
    Safe (scheduling config) (monitorRunningServer config inspection cycle) CycleScheduled
      schedule := by
  simp only [monitorRunningServer, RunningMonitorState.new, Program.bind_eq, safe_bind]
  refine scheduled_access trivial fun current _ => scheduled_assert ?_
  refine safe_loop (fun _ later => later.limit = none) unlimited fun state schedule unlimited => ?_
  simp only [safe_bind]
  refine (scheduled_advanceRunningMonitor unlimited).mono ?_
  rintro ⟨state, outcome⟩ later unlimited
  cases outcome with
  | continued => exact unlimited
  | committed =>
    simp only [safe_bind]
    exact scheduled_stopCommittedIdleServer unlimited
  | shutdown =>
    simp only [safe_bind]
    exact scheduled_stopForShutdown
  | childWait status =>
    simp only [safe_bind]
    exact scheduled_processWaitOutcome

end Watching

/-! ## The two limited waits -/

section Limited

/-- The pause between two connection attempts ends within the startup timeout: the instant of the
retry is not later than the deadline, and the pause has a timer for it. -/
theorem scheduled_awaitReadinessRetry {retryAt deadline : Instant}
    (limited : schedule.limit = some deadline) (within : retryAt ≤ deadline) :
    Safe (scheduling config) (awaitReadinessRetry retryAt)
      (fun decision later => decision.elim (fun _ => later.limit = some deadline)
        fun _ => True) schedule := by
  simp only [awaitReadinessRetry, Program.bind_eq, safe_bind]
  refine scheduled_access (fun limit same => ?_) fun event _ => ?_
  · obtain rfl : deadline = limit := Option.some.inj (limited.symm.trans same)
    exact ⟨.readinessRetry, retryAt, by simp, within⟩
  · cases event with
    | wake request =>
      cases request with
      | none => trivial
      | some request =>
        simp only [safe_bind]
        exact scheduled_access trivial fun _ _ => limited
    | child status => cases status <;> trivial
    | elapsed timer => exact limited
    | _ => trivial

/-- A connection attempt and the pause after it end within the startup timeout. The reading
that the timeout is counted from is that of the publication. -/
theorem scheduled_waitForReadiness {reading : Instant}
    (scheduled : schedule = ⟨some reading, some (reading + config.startupTimeout)⟩) :
    Safe (scheduling config) (waitForReadiness config) (fun _ _ => True) schedule := by
  subst scheduled
  simp only [waitForReadiness, Program.bind_eq, safe_bind]
  refine scheduled_now fun first same => ?_
  obtain rfl : first = reading := same reading rfl
  refine safe_loop (fun _ later => later.limit = some (first + config.startupTimeout)) rfl ?_
  intro _ schedule limited
  simp only [safe_bind]
  refine scheduled_now fun second _ => ?_
  split
  · simp only [safe_bind]
    refine scheduled_access trivial fun outcome _ => ?_
    cases outcome <;> trivial
  · rename_i early
    simp only [safe_bind]
    refine scheduled_now fun third still => ?_
    obtain rfl : third = second := still second rfl
    refine scheduled_now fun fourth still => ?_
    obtain rfl : fourth = third := still third rfl
    refine scheduled_access (fun limit same => ?_) fun event _ => ?_
    · obtain rfl : first + config.startupTimeout = limit :=
        Option.some.inj (limited.symm.trans same)
      refine ⟨.connectAttempt, _, .tail _ (.tail _ (.tail _ (.tail _ (.head _)))), ?_⟩
      have remaining : fourth + (first + config.startupTimeout - fourth) =
          first + config.startupTimeout := Nat.add_sub_of_le (Nat.le_of_not_le early)
      exact Nat.le_trans (Nat.add_le_add_left (Nat.min_le_right _ _) _) (Nat.le_of_eq remaining)
    · have retried (later : Schedule)
          (limited : later.limit = some (first + config.startupTimeout)) :
          Safe (scheduling config) now (fun reading schedule =>
            Safe (scheduling config)
              (awaitReadinessRetry (min (reading + config.retryInterval)
                (first + config.startupTimeout)))
              (fun decision state => decision.elim
                (fun _ => state.limit = some (first + config.startupTimeout)) fun _ => True)
              schedule) later :=
        scheduled_now fun _ _ => scheduled_awaitReadinessRetry limited (Nat.min_le_right _ _)
      cases event with
      | wake request =>
        cases request with
        | none => trivial
        | some request =>
          simp only [safe_bind]
          exact scheduled_access trivial fun _ _ => limited
      | child status => cases status <;> trivial
      | connect ok =>
        cases ok with
        | true => trivial
        | false =>
          simp only [safe_bind]
          exact retried _ limited
      | elapsed timer =>
        simp only [safe_bind]
        exact retried _ limited
      | _ => trivial

/-- A cooldown is waited out until its retry instant. That instant is its limit, each of its waits
has a timer for it, and after it another phase is published. -/
theorem scheduled_waitForCooldown {retryAt : Instant} {retryPending : Bool}
    (limited : schedule.limit = some retryAt) :
    Safe (scheduling config) (waitForCooldown retryAt retryPending)
      (fun outcome later => outcome = .stopped → later.limit = none) schedule := by
  refine safe_loop (fun _ later => later.limit = some retryAt) limited ?_
  intro retryPending schedule limited
  simp only [Program.bind_eq, safe_bind]
  refine scheduled_shutdownPending fun pending => ?_
  split
  · simp only [safe_bind]
    exact unlimited_setPhase (.inr rfl) fun later unlimited _ => unlimited
  · simp only [safe_bind]
    refine scheduled_now fun reading _ => ?_
    split
    · split
      · exact fun stopped => by cases stopped
      · simp only [safe_bind]
        exact unlimited_setPhase (.inr rfl) fun later unlimited _ => unlimited
    · simp only [safe_bind]
      refine scheduled_access (fun limit same => ?_) fun event _ => ?_
      · obtain rfl : retryAt = limit := Option.some.inj (limited.symm.trans same)
        exact ⟨.cooldown, retryAt, by simp, Nat.le_refl _⟩
      · split
        · simp only [safe_bind]
          refine scheduled_access trivial fun current _ => ?_
          exact scheduled_access trivial fun _ _ => limited
        · exact limited
        · simp only [safe_bind]
          exact unlimited_setPhase (.inr rfl) fun later unlimited _ => unlimited

end Limited

/-! ## The run -/

section Run

/-- Running is not limited. -/
theorem scheduled_publishRunning :
    Safe (scheduling config) publishRunning (fun _ later => later.limit = none) schedule := by
  simp only [publishRunning, publish, Program.bind_eq, safe_bind]
  refine scheduled_access trivial fun current _ => scheduled_assert ?_
  refine scheduled_now fun reading _ => scheduled_access trivial fun _ _ => ?_
  exact scheduled_assert (scheduled_access (fun hurries => by cases hurries) fun _ _ => rfl)

/-- A cycle begins limited by the startup timeout from the reading of its launch on, and waits for
readiness no longer than that. -/
theorem scheduled_runServerCycle {reading : Instant}
    (scheduled : schedule = ⟨some reading, some (reading + config.startupTimeout)⟩) :
    Safe (scheduling config) (runServerCycle config) CycleScheduled schedule := by
  simp only [runServerCycle, Program.bind_eq, safe_bind]
  refine (scheduled_waitForReadiness scheduled).mono fun outcome later _ => ?_
  cases outcome with
  | startupTimedOut => exact scheduled_stopFailedServer
  | exited =>
    simp only [safe_bind]
    exact scheduled_reapedFailure
  | processWaitFailed => exact scheduled_reapAfterWaitError
  | shutdown => exact scheduled_stopForShutdown
  | ready =>
    simp only [safe_bind]
    refine scheduled_shutdownPending fun pending => ?_
    split
    · exact scheduled_stopForShutdown
    · simp only [safe_bind]
      refine scheduled_publishRunning.mono fun cycle later unlimited => ?_
      unfold PlayerInspection.fromConfig
      split
      · simp only [Program.bind_eq, safe_bind]
        exact scheduled_now fun _ _ => scheduled_monitorRunningServer unlimited
      · exact scheduled_monitorRunningServer unlimited

/-- Between two turns of the run a phase is limited only when a launch is pending. -/
def TurnScheduled (decision : Turn Bool (Except SupervisorError Unit)) (schedule : Schedule) :
    Prop :=
  decision.elim (fun launchPending => launchPending = false → schedule.limit = none)
    fun _ => True

/-- The wait of a cooldown is for its own limit, and afterwards a limit is left only if a launch
is pending. -/
theorem scheduled_afterCooldown {retryAt : Instant} {retryPending : Bool}
    (limited : schedule.limit = some retryAt) :
    Safe (scheduling config) (afterCooldown retryAt retryPending) TurnScheduled schedule := by
  have logged : Issues Op.plain logCurrentFailureCooldown :=
    .bind (.request trivial) fun _ => .bind (issues_assert (fun _ plain => plain) _) fun _ =>
      issues_assert (fun _ plain => plain) _
  simp only [afterCooldown, Program.bind_eq, safe_bind]
  refine scheduled_plain logged fun _ => ?_
  refine (scheduled_waitForCooldown limited).mono fun outcome later cooled => ?_
  cases outcome with
  | launch => exact fun idle => by cases idle
  | stopped => exact fun _ => cooled rfl
  | shutdown => trivial

/-- A launch publishes its phase with a limit counted from its own reading, on which
`run_server_cycle` then counts as well. -/
theorem scheduled_launchServer :
    Safe (scheduling config) (launchServer config) TurnScheduled schedule := by
  simp only [launchServer, Program.bind_eq, safe_bind]
  refine scheduled_access trivial fun success _ => ?_
  cases success with
  | true =>
    simp only [if_true, recordLaunchSuccess, Program.bind_eq, safe_bind]
    refine scheduled_advance fun current reading => ?_
    refine (scheduled_runServerCycle rfl).mono fun result later cycled => ?_
    cases result with
    | error error => trivial
    | ok outcome =>
      cases outcome with
      | failed retryAt retryPending => exact scheduled_afterCooldown cycled
      | stopped | restart =>
        simp only [safe_bind]
        exact unlimited_setPhase (.inr rfl) fun later unlimited _ => unlimited
      | shutdown =>
        simp only [safe_bind]
        exact unlimited_setPhase (.inr rfl) fun later unlimited => trivial
  | false =>
    simp only [Bool.false_eq_true, if_false, recordLaunchFailure, Program.bind_eq, safe_bind]
    exact scheduled_advance fun current reading => scheduled_afterCooldown rfl

/-- The final gate ends a cooldown before it waits, by publishing that it reconciles. What it
waits for afterwards therefore meets no limit of that cooldown. -/
theorem scheduled_reconcileFinalGate :
    Safe (scheduling config) (reconcileFinalGate config) (fun _ later => later.limit = none)
      schedule := by
  have blocked (publishes : Supervised Unit) (parks : Issues Op.parks publishes) :
      Issues Op.lingers (publishes.bind fun _ => .done FinalGateOutcome.blocked) :=
    .bind (parks.mono lingers_of_parks) fun _ => trivial
  simp only [reconcileFinalGate, beginReconciliation, Program.bind_eq, safe_bind]
  refine scheduled_advance fun current reading => ?_
  have unlimited : (Schedule.published config .beginReconciliation current reading).limit = none :=
    rfl
  simp only [Program.pure_eq, safe_done]
  refine scheduled_then ((parks_waitForReconciliation config false).mono lingers_of_parks)
    unlimited fun outcome later unlimited => ?_
  cases outcome with
  | shutdown => exact unlimited
  | completed result startupDemand =>
    simp only [safe_bind]
    refine scheduled_shutdownPending fun pending => ?_
    split
    · exact unlimited
    · split
      · split
        · exact scheduled_lingers (blocked _ (parks_publishExternal _)) unlimited
        · exact scheduled_lingers (blocked _ (parks_publishConflict _ _)) unlimited
      · split
        · exact unlimited
        · exact scheduled_lingers (blocked _ (parks_publishExternal _)) unlimited
        · exact scheduled_lingers (blocked _ (parks_publishConflict _ _)) unlimited
        · exact scheduled_lingers (blocked _ (parks_publishConflict _ _)) unlimited

/-- The last probe before a launch may wait without a limit, since none is published yet. -/
theorem scheduled_serveDemand :
    Safe (scheduling config) (serveDemand config) TurnScheduled schedule := by
  simp only [serveDemand, Program.bind_eq, safe_bind]
  refine scheduled_shutdownPending fun pending => ?_
  split
  · trivial
  · simp only [safe_bind]
    refine scheduled_reconcileFinalGate.mono fun outcome later unlimited => ?_
    cases outcome with
    | launch => exact scheduled_launchServer
    | blocked => exact fun _ => unlimited
    | shutdown => trivial

/-- A turn that only waits is not limited, and one that is to launch goes on to the probe. -/
theorem scheduled_serveNext {launchPending : Bool}
    (pending : launchPending = false → schedule.limit = none) :
    Safe (scheduling config) (serveNext config launchPending) TurnScheduled schedule := by
  unfold serveNext
  split
  · exact scheduled_serveDemand
  · rename_i waits
    have unlimited : schedule.limit = none := pending (by simpa using waits)
    simp only [Program.bind_eq, safe_bind]
    refine scheduled_then (parks_waitForReconciliationDemand.mono lingers_of_parks) unlimited
      fun demanded later unlimited => ?_
    split
    · exact scheduled_serveDemand
    · simp only [safe_bind]
      refine scheduled_access trivial fun current _ => ?_
      split
      · simp only [safe_bind]
        exact unlimited_setPhase (.inr rfl) fun later unlimited => trivial
      · trivial

/-- Each turn of the loop keeps the schedule for the next one. A pending launch may leave a
cooldown's limit behind, which the next turn's gate ends first. -/
theorem scheduled_superviseTurn {launchPending : Bool}
    (pending : launchPending = false → schedule.limit = none) :
    Safe (scheduling config) (superviseTurn config launchPending) TurnScheduled schedule := by
  simp only [superviseTurn, Program.bind_eq, safe_bind]
  refine scheduled_access trivial fun current published => ?_
  split
  · rename_i external
    have unlimited : schedule.limit = none := by
      rw [show schedule.limit = _ from published, phaseLimit, external]
    simp only [safe_bind]
    refine scheduled_then ((parks_monitorExternalServer config).mono lingers_of_parks) unlimited
      fun outcome later unlimited => ?_
    cases outcome with
    | conflict => exact scheduled_serveNext fun _ => unlimited
    | shutdown => trivial
  · exact scheduled_serveNext pending

/-- The whole run keeps its schedule. The loop keeps that without a pending launch the published
phase has no limit. -/
theorem scheduled_run : Safe (scheduling config) (run config) (fun _ _ => True) .initial := by
  have looped (launchPending : Bool) (schedule : Schedule) (unlimited : schedule.limit = none) :
      Safe (scheduling config) (Program.loop (superviseTurn config) launchPending)
        (fun _ _ => True) schedule :=
    safe_loop (fun launchPending later => launchPending = false → later.limit = none)
      (fun _ => unlimited) fun _ schedule pending => scheduled_superviseTurn pending
  have supervised : Safe (scheduling config) (supervise config) (fun _ _ => True) .initial := by
    simp only [supervise, Program.bind_eq, safe_bind]
    refine scheduled_access trivial fun current _ => scheduled_assert ?_
    refine scheduled_access trivial fun current _ => scheduled_assert ?_
    refine scheduled_then ((parks_reconcileStartup config).mono lingers_of_parks) rfl
      fun outcome later unlimited => ?_
    cases outcome with
    | launch | idle => exact looped _ _ unlimited
    | shutdown => trivial
  simp only [run, Program.bind_eq, safe_bind]
  exact supervised.mono fun result later _ => scheduled_access trivial fun _ _ => trivial

end Run

end McServerNap
