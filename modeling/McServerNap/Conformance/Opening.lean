import McServerNap.Conformance.Kinds

/-!
# How a cycle is opened

`publish_running` reads the clock, installs the activity record of the new cycle with that
reading, and publishes phase Running with the same reading; nothing of the supervisor comes
between. Nothing else installs a record or publishes the phase. A monitor for these three
operations says so of whole runs, so that a publication found in a history tells which record
it was preceded by.
-/

namespace McServerNap

open Interaction SupervisorControl

/-- What the last operation was, as far as the opening of a cycle goes: a reading of the clock,
the installation of a record, or anything else. -/
inductive Opening where
  | idle
  | dated (reading : Instant)
  | begun (cycle : BackendCycle) (since : Instant)
  deriving DecidableEq, Repr

namespace Opening

/-- A record is dated by the reading just made, and the phase is published with the cycle and
the date of the record just installed. -/
def permits (opening : Opening) : Op → Prop
  | .beginCycle _ since => opening = .dated since
  | .publish transition next => transition = .publishRunning →
      opening = .begun ⟨next.launchGeneration⟩ next.phaseStartedAt
  | _ => True

/-- The state after an operation, whatever it was before. -/
def after : (op : Op) → Reply op → Opening
  | .now, reading => .dated reading
  | .beginCycle cycle since, _ => .begun cycle since
  | _, _ => .idle

end Opening

/-- The monitor of the openings. -/
abbrev opening : Monitor Op Reply where
  State := Opening
  permits := Opening.permits
  answers := fun _ _ _ => True
  after := fun _ op reply => Opening.after op reply

/-- The operations that belong to no opening. -/
def Op.unopened : Op → Prop
  | .beginCycle _ _ => False
  | .publish transition _ => transition ≠ .publishRunning
  | _ => True

section Unopened

/-- What is plain belongs to no opening. -/
theorem unopened_of_plain (op : Op) (plain : op.plain) : op.unopened := by
  cases op <;> trivial

/-- A supervisor without a child has no cycle to open. -/
theorem unopened_of_parks (op : Op) (parks : op.parks) : op.unopened := by
  cases op with
  | publish transition next =>
    rintro rfl
    cases parks.1
  | _ => trivial

/-- A cleanup publishes, but never that a cycle runs. -/
theorem unopened_of_cleans (op : Op) (cleans : op.cleans) : op.unopened := by
  cases op with
  | publish transition next =>
    rintro rfl
    exact cleans
  | _ => trivial

/-- Overseeing a running server opens nothing: its one publication forgets a streak. -/
theorem unopened_of_oversees (op : Op) (oversees : op.oversees) : op.unopened := by
  cases op with
  | publish transition next =>
    obtain rfl : transition = .resetFailureStreak := oversees
    rintro ⟨⟩
  | _ => trivial

/-- Nor does a cooldown, whose one publication is the stopped phase. -/
theorem unopened_of_cools (op : Op) (cools : op.cools) : op.unopened := by
  cases op with
  | publish transition next =>
    obtain rfl : transition = .setPhase .stopped := cools
    rintro ⟨⟩
  | _ => trivial

/-- The publishing functions but one open no cycle. -/
theorem unopened_advance {transition : Transition} (other : transition ≠ .publishRunning) :
    Issues Op.unopened (advance transition) :=
  issues_advance unopened_of_plain trivial fun _ _ => other

/-- A phase that is set opens no cycle, since `publish_running` is a function of its own. -/
theorem unopened_setPhase (phase : ServerPhase) : Issues Op.unopened (setPhase phase) :=
  .bind (unopened_advance (by rintro ⟨⟩)) fun _ => trivial

/-- Looking for a shutdown is plain. -/
theorem unopened_shutdownPending : Issues Op.unopened shutdownPending :=
  issues_shutdownPending unopened_of_plain

variable (config : SupervisorConfig)

/-- The last checks before an idle stop open no cycle; what they publish is the stopping phase. -/
theorem unopened_commitIdleStop (state : RunningMonitorState) :
    Issues Op.unopened (commitIdleStop state) := by
  refine .bind (.request trivial) fun current => ?_
  split
  · trivial
  · refine .bind unopened_shutdownPending fun pending => ?_
    split
    · trivial
    · refine .bind (.request trivial) fun outcome => ?_
      cases outcome with
      | exited | failed => trivial
      | running =>
        exact .bind (.request trivial) fun _ =>
          .bind (.bind (unopened_advance (by rintro ⟨⟩)) fun _ => trivial) fun _ => trivial

/-- An attempt under the gate opens nothing: it ends the cycle or leaves it as it is. -/
theorem unopened_attemptUnderExclusive (anchor : Instant) (state : RunningMonitorState) :
    Issues Op.unopened (attemptUnderExclusive config anchor state) := by
  refine .bind (.request trivial) fun activity => ?_
  split
  · trivial
  · refine .bind (.request trivial) fun reading => ?_
    split
    · trivial
    · refine .bind (.request trivial) fun current => ?_
      split
      · trivial
      · refine .bind unopened_shutdownPending fun pending => ?_
        split
        · trivial
        · refine .bind (.request trivial) fun outcome => ?_
          cases outcome with
          | exited | failed => trivial
          | running =>
            refine .bind ((oversees_confirmIdlePlayerState config _).mono unopened_of_oversees)
              fun (state, check) => ?_
            cases check with
            | confirmed => exact .bind (unopened_commitIdleStop _) fun _ => trivial
            | _ => trivial

/-- Nor does a whole attempt, which takes the gate and gives it back around it. -/
theorem unopened_attemptExpiredIdleStop (state : RunningMonitorState) (anchor : Instant) :
    Issues Op.unopened (attemptExpiredIdleStop config state anchor) := by
  refine .bind ((oversees_acquireIdleExclusive config _ _).mono unopened_of_oversees)
    fun (state, exclusive) => ?_
  cases exclusive with
  | acquired =>
    exact .bind (unopened_attemptUnderExclusive config _ _) fun _ =>
      .bind (.request trivial) fun _ => trivial
  | _ => trivial

/-- Nor does a turn of the monitor, so an opening is not disturbed until the cycle ends. -/
theorem unopened_advanceRunningMonitor (state : RunningMonitorState) :
    Issues Op.unopened (advanceRunningMonitor config state) := by
  have awaited (anchor : Option Instant) :
      Issues Op.unopened (awaitRunningMonitor config state anchor) :=
    issues_awaitRunningMonitor config unopened_of_oversees (fun _ => trivial) state anchor
  refine .bind (.request trivial) fun activity => ?_
  dsimp only
  split
  · refine .bind (.request trivial) fun reading => ?_
    split
    · exact unopened_attemptExpiredIdleStop config _ _
    · exact awaited _
  · exact awaited _

/-- The whole life of a running server opens no further cycle. A new one begins only after this
one's cleanup, with another launch. -/
theorem unopened_monitorRunningServer (inspection : PlayerInspection) (cycle : BackendCycle) :
    Issues Op.unopened (monitorRunningServer config inspection cycle) := by
  refine .bind (.request trivial) fun current =>
    .bind (.bind (issues_assert unopened_of_plain _) fun _ => trivial) fun state =>
      .loop fun state => .bind (unopened_advanceRunningMonitor config state)
        fun (state, outcome) => ?_
  cases outcome with
  | continued => trivial
  | committed =>
    exact .bind ((cleans_stopCommittedIdleServer config).mono unopened_of_cleans) fun _ => trivial
  | shutdown =>
    exact .bind ((cleans_stopForShutdown config).mono unopened_of_cleans) fun _ => trivial
  | childWait status =>
    exact .bind ((cleans_processWaitOutcome config _ _).mono unopened_of_cleans) fun _ => trivial

end Unopened

/-! ## The run -/

section Run

variable {config : SupervisorConfig} {state : Opening} {α β : Type}

/-- The program opens cycles only as `publish_running` does, wherever it begins. -/
def OpensCycles (program : Supervised α) : Prop :=
  ∀ state : Opening, Safe opening program (fun _ _ => True) state

/-- Programs that keep to the order of an opening do so one after the other, as each of them ends
without one begun. -/
theorem OpensCycles.bind {program : Supervised α} {next : α → Supervised β} (first : OpensCycles program)
    (rest : ∀ value, OpensCycles (next value)) : OpensCycles (program.bind next) := by
  intro state
  rw [safe_bind]
  exact (first state).mono fun value later _ => rest value later

/-- What belongs to no opening may come anywhere. -/
theorem opens_of_unopened {program : Supervised α} (unopened : Issues Op.unopened program) :
    OpensCycles program := by
  intro state
  refine Issues.safe (fun state op _ admitted => ⟨?_, fun _ _ => trivial⟩) unopened trivial
  cases op with
  | beginCycle => cases admitted
  | publish transition next => exact fun same => absurd same admitted
  | _ => trivial

/-- So does a loop whose turns do. The invariant of the loop is that no opening is begun between
two turns. -/
theorem OpensCycles.loop {σ : Type} {body : σ → Supervised (Turn σ β)} {current : σ}
    (turns : ∀ current, OpensCycles (body current)) : OpensCycles (.loop body current) := by
  intro state
  refine safe_loop (fun _ _ => True) trivial fun current later _ => ?_
  refine (turns current later).mono fun decision _ _ => ?_
  cases decision <;> trivial

/-- The reading, the record and the publication follow each other. -/
theorem opens_publishRunning : OpensCycles publishRunning := by
  intro state
  have asserts (condition : Bool) (post : Unit → Opening → Prop) (state : Opening)
      (reached : post () state) : Safe opening (assert condition) post state := by
    cases condition with
    | true => exact reached
    | false => exact ⟨trivial, nofun⟩
  simp only [publishRunning, publish, Program.bind_eq, safe_bind]
  refine ⟨trivial, fun current _ => asserts _ _ _ ?_⟩
  refine ⟨trivial, fun reading _ => ⟨rfl, fun _ _ => asserts _ _ _ ?_⟩⟩
  exact ⟨fun _ => rfl, fun _ _ => trivial⟩

/-- A cycle opens once at most, in `publish_running` after its server is ready, and everything
after that belongs to no opening. -/
theorem opens_runServerCycle : OpensCycles (runServerCycle config) := by
  refine .bind (opens_of_unopened ((oversees_waitForReadiness config).mono unopened_of_oversees))
    fun outcome => ?_
  have cleaned {program : Supervised CycleResult} (cleans : Issues Op.cleans program) :
      OpensCycles program := opens_of_unopened (cleans.mono unopened_of_cleans)
  cases outcome with
  | startupTimedOut => exact cleaned (cleans_stopFailedServer config _)
  | exited => exact cleaned (.bind (cleans_reapedFailure _) fun _ => trivial)
  | processWaitFailed => exact cleaned (cleans_reapAfterWaitError config)
  | shutdown => exact cleaned (cleans_stopForShutdown config)
  | ready =>
    refine .bind (opens_of_unopened unopened_shutdownPending) fun pending => ?_
    split
    · exact cleaned (cleans_stopForShutdown config)
    · have inspected : Issues Op.unopened (PlayerInspection.fromConfig config) := by
        unfold PlayerInspection.fromConfig
        split
        · exact .bind (.request trivial) fun _ => trivial
        · trivial
      exact .bind opens_publishRunning fun cycle => .bind (opens_of_unopened inspected)
        fun inspection => opens_of_unopened (unopened_monitorRunningServer config inspection cycle)

/-- A launch that succeeds runs one cycle, and a failed one opens none: it records the failure and
cools down, which publishes no running server. -/
theorem opens_launchServer : OpensCycles (launchServer config) := by
  have cooled (retryAt : Instant) (retryPending : Bool) :
      OpensCycles (afterCooldown retryAt retryPending) :=
    opens_of_unopened ((cools_afterCooldown retryAt retryPending).mono unopened_of_cools)
  have recorded {transition : Transition} (other : transition ≠ .publishRunning) :
      OpensCycles (advance transition) := opens_of_unopened (unopened_advance other)
  have stopped {decision : Turn Bool (Except SupervisorError Unit)} :
      OpensCycles (Program.bind (setPhase .stopped) fun _ => .done decision) :=
    opens_of_unopened (.bind (unopened_setPhase _) fun _ => trivial)
  refine .bind (opens_of_unopened (.request trivial)) fun success => ?_
  cases success with
  | false =>
    exact .bind (.bind (recorded (by rintro ⟨⟩)) fun _ => opens_of_unopened trivial)
      fun _ => cooled _ _
  | true =>
    refine .bind (.bind (recorded (by rintro ⟨⟩)) fun _ => opens_of_unopened trivial)
      fun _ => .bind opens_runServerCycle fun result => ?_
    cases result with
    | error error => exact opens_of_unopened trivial
    | ok outcome =>
      cases outcome with
      | failed retryAt retryPending => exact cooled _ _
      | stopped | restart | shutdown => exact stopped

/-- Serving a demand is the last probe and a launch. -/
theorem opens_serveDemand : OpensCycles (serveDemand config) := by
  refine .bind (opens_of_unopened unopened_shutdownPending) fun pending => ?_
  split
  · exact opens_of_unopened trivial
  · refine .bind (opens_of_unopened ((parks_reconcileFinalGate config).mono unopened_of_parks))
      fun outcome => ?_
    cases outcome with
    | launch => exact opens_launchServer
    | blocked | shutdown => exact opens_of_unopened trivial

/-- A turn serves a demand or waits, as it was told. Only the first can lead to a launch, and the
wait is for the demand of the next turn. -/
theorem opens_serveNext (launchPending : Bool) : OpensCycles (serveNext config launchPending) := by
  unfold serveNext
  split
  · exact opens_serveDemand
  · refine .bind (opens_of_unopened (parks_waitForReconciliationDemand.mono unopened_of_parks))
      fun demanded => ?_
    split
    · exact opens_serveDemand
    · refine opens_of_unopened (.bind (.request trivial) fun current => ?_)
      split
      · exact .bind (unopened_setPhase _) fun _ => trivial
      · trivial

/-- Each turn of the supervisor's loop opens its cycles in order. -/
theorem opens_superviseTurn (launchPending : Bool) :
    OpensCycles (superviseTurn config launchPending) := by
  refine .bind (opens_of_unopened (.request trivial)) fun current => ?_
  split
  · refine .bind (opens_of_unopened ((parks_monitorExternalServer config).mono unopened_of_parks))
      fun outcome => ?_
    cases outcome with
    | conflict => exact opens_serveNext launchPending
    | shutdown => exact opens_of_unopened trivial
  · exact opens_serveNext launchPending

/-- A whole run opens cycles only as `publish_running` does. The loop of turns is one program, and
each of its turns was shown to be of that form. -/
theorem opens_run : OpensCycles (run config) := by
  have asserted (condition : Bool) : OpensCycles (assert condition) :=
    opens_of_unopened (issues_assert unopened_of_plain condition)
  have looked : OpensCycles currentLifecycle := opens_of_unopened (.request trivial)
  have supervised : OpensCycles (supervise config) := by
    refine .bind looked fun _ => .bind (asserted _) fun _ => .bind looked fun _ =>
      .bind (asserted _) fun _ =>
        .bind (opens_of_unopened ((parks_reconcileStartup config).mono unopened_of_parks))
          fun outcome => ?_
    cases outcome with
    | launch | idle => exact .loop opens_superviseTurn
    | shutdown => exact opens_of_unopened trivial
  exact .bind supervised fun result => opens_of_unopened (.request trivial)

end Run

end McServerNap
