import McServerNap.Interaction.Monitor
import McServerNap.Supervisor

/-!
# What the supervisor's functions issue

Some monitors allow a function for the kind of its operations alone, whatever state
they are in. The functions shared by most of the supervisor are followed here once,
for every kind that includes what they need.
-/

namespace McServerNap

open Interaction SupervisorControl

/-- The operations on the control channels that neither wait nor publish. -/
def Op.plain : Op → Prop
  | .currentLifecycle | .wakesClosed | .tryRecvShutdown | .tryRecvWake | .answer _ _ | .panic => True
  | _ => False

section Kinds

variable {kind : Op → Prop} (plain : ∀ op : Op, op.plain → kind op)

include plain

/-- An assertion issues at most the panic, which is plain. -/
theorem issues_assert (condition : Bool) : Issues kind (assert condition) := by
  cases condition with
  | true => trivial
  | false => exact ⟨plain _ trivial, nofun⟩

/-- A publishing function reads the clock once. -/
theorem issues_advance {transition : Transition} (reads : kind .now)
    (publishes : ∀ current now, kind (.publish transition (transition.target current now))) :
    Issues kind (advance transition) :=
  .bind (.request (plain _ trivial)) fun _ => .bind (issues_assert plain _) fun _ =>
    .bind (.request reads) fun _ => .bind (.bind (issues_assert plain _)
      fun _ => .request (publishes _ _)) fun _ => trivial

/-- A phase is set by a reading of the clock and the publication built from it. -/
theorem issues_setPhase {phase : ServerPhase} (reads : kind .now)
    (publishes : ∀ current now,
      kind (.publish (.setPhase phase) ((Transition.setPhase phase).target current now))) :
    Issues kind (setPhase phase) :=
  .bind (issues_advance plain reads publishes) fun _ => trivial

/-- Looking for a shutdown only polls a channel. -/
theorem issues_shutdownPending : Issues kind shutdownPending := by
  refine .bind (.request (plain _ trivial)) fun closed => ?_
  cases closed with
  | true => trivial
  | false => exact .bind (.request (plain _ trivial)) fun _ => trivial

/-- The end of the stability window queries the child and, if it is alive, forgets the streak. -/
theorem issues_completeStabilityWindow (reads : kind .now) (queries : kind .tryWait)
    (publishes : ∀ current now,
      kind (.publish .resetFailureStreak (Transition.resetFailureStreak.target current now))) :
    Issues kind completeStabilityWindow := by
  refine .bind (.request queries) fun outcome => ?_
  cases outcome with
  | exited | failed => trivial
  | running =>
    have resets : Issues kind resetFailureStreak :=
      .bind (issues_advance plain reads publishes) fun _ => trivial
    exact .bind resets fun _ => trivial

/-- Draining the wakes received during an idle stop only polls the channels and answers. -/
theorem issues_drainRestarts (restart : Bool) : Issues kind (drainRestarts restart) := by
  refine .loop fun restart => .bind (.request (plain _ trivial)) fun outcome => ?_
  cases outcome with
  | received request =>
    exact .bind (.request (plain _ trivial)) fun _ =>
      .bind (.request (plain _ trivial)) fun _ => trivial
  | empty | disconnected => trivial

/-- Beside the channels a stop sequence issues what it issues alone, and more waits. -/
theorem issues_beside (waits : ∀ sources, kind (.select sources))
    (latches : WakeRequest → LifecycleState → Bool) (latch : Latch) (sources : List Source) :
    Issues kind (beside latches latch sources) := by
  refine .loop fun latch => ?_
  split
  · exact .bind (.request (waits _)) fun _ => trivial
  · refine .bind (.request (waits _)) fun event => ?_
    split
    · trivial
    · trivial
    · exact .bind (.request (plain _ trivial)) fun _ =>
        .bind (.request (plain _ trivial)) fun _ => trivial
    · trivial

end Kinds

section Stop

variable {kind : Op → Prop} {σ : Type} {config : SupervisorConfig} {await : Awaiting σ}

/-- Waiting alone is one select over the given sources. -/
theorem issues_alone (waits : ∀ sources, kind (.select sources)) (held : Unit)
    (sources : List Source) : Issues kind (alone held sources) :=
  .bind (.request (waits _)) fun _ => trivial

variable (reads : kind .now) (queries : kind .tryWait)
  (awaits : ∀ held sources, Issues kind (await held sources))

include queries awaits

/-- Terminating a child kills its tree and waits; the waiting is the caller's way to await. -/
theorem issues_terminate (held : σ) : Issues kind (terminate await held) := by
  refine .bind (.request queries) fun outcome => ?_
  cases outcome with
  | failed | exited => trivial
  | running =>
    refine .bind (awaits _ _) fun (held, event) => ?_
    dsimp only
    split
    · trivial
    · trivial
    · refine .bind (.request queries) fun outcome => ?_
      cases outcome with
      | exited => trivial
      | running | failed => exact .bind (awaits _ _) fun _ => trivial

include reads

/-- Reaping after a kill adds a wait of its own and nothing else. -/
theorem issues_terminateAndReap (held : σ) (waitError : Bool) :
    Issues kind (terminateAndReap await held waitError) := by
  refine .bind (issues_terminate queries awaits held) fun (held, termination) =>
    .bind (.request reads) fun now => .bind (awaits _ _) fun (held, event) => ?_
  dsimp only
  split
  · cases termination <;> trivial
  · trivial
  · trivial

omit queries in
/-- The stop command goes out by RCON or by the console, each of them a few waits. -/
theorem issues_sendGracefulStop (held : σ) : Issues kind (sendGracefulStop config await held) := by
  have console : ∀ held deadline, Issues kind (sendConsoleStopBefore await held deadline) :=
    fun held deadline => .bind (awaits _ _) fun _ => trivial
  refine .bind (.request reads) fun now => ?_
  split
  · refine .bind (awaits _ _) fun (held, event) => ?_
    dsimp only
    split
    · trivial
    · exact console _ _
    · trivial
  · exact console _ _

/-- A stop sequence reads the clock, queries the child and waits. -/
theorem issues_stopAndReap (held : σ) : Issues kind (stopAndReap config await held) := by
  refine .bind (issues_sendGracefulStop reads awaits held) fun (held, sent) => ?_
  cases sent with
  | false => exact issues_terminateAndReap reads queries awaits held false
  | true =>
    refine .bind (.request reads) fun now => .bind (awaits _ _) fun (held, event) => ?_
    dsimp only
    split
    · trivial
    · exact issues_terminateAndReap reads queries awaits held true
    · exact issues_terminateAndReap reads queries awaits held false

end Stop

/-- A poll of the players looks once at the clock, and then waits for one answer and its
deadline, never for the child. -/
theorem issues_pollPlayerPresence {kind : Op → Prop} (config : SupervisorConfig)
    (plain : ∀ op : Op, op.plain → kind op) (reads : kind .now)
    (waits : ∀ source deadline, source = .rconConnect ∨ source = .rconList →
      kind (.select [source, .sleepUntil .command deadline]))
    (inspection : PlayerInspection) : Issues kind (pollPlayerPresence config inspection) := by
  unfold pollPlayerPresence
  split
  · trivial
  · refine .bind (issues_assert plain _) fun _ => .bind (.request reads) fun now =>
      .bind (.request (waits _ _ (.inl rfl))) fun event => ?_
    split <;> exact .bind (.request reads) fun _ => trivial
  · refine .bind (issues_assert plain _) fun _ => .bind (.request reads) fun now =>
      .bind (.request (waits _ _ (.inr rfl))) fun event => ?_
    split
    · split
      · have dated : ∀ started, Issues kind (Program.bind McServerNap.now fun _ =>
            Program.bind McServerNap.now fun reading =>
            .done (PlayerInspection.configuredRcon true (reading + config.pollInterval)
              (some started))) :=
          fun started => .bind (.request reads) fun _ => .bind (.request reads) fun _ => trivial
        split
        · exact .bind trivial dated
        · exact .bind (.request reads) dated
      · exact .bind (.request reads) fun _ => trivial
    · exact .bind (.request reads) fun _ => trivial

/-! ## Cleanups -/

/-- The operations of a cleanup: it publishes the begin and the end of a stop or a failure, and
launches, opens and checks nothing. -/
def Op.cleans : Op → Prop
  | .publish (.setPhase _) _ | .publish (.recordReapedFailure _) _
  | .publish (.beginFailureCleanup _) _ | .publish (.finishFailureCleanup _) _ => True
  | .publish _ _ | .launch | .beginCycle _ _ | .activitySnapshot | .releaseExclusive | .exit _ =>
    False
  | _ => True

section Cleaning

/-- What is plain is permitted while cleaning. -/
theorem cleans_of_plain (op : Op) (plain : op.plain) : op.cleans := by
  cases op <;> trivial

/-- A stop sequence cleans, whichever way it waits. -/
theorem cleans_stopAndReap {σ : Type} {config : SupervisorConfig} {await : Awaiting σ}
    (awaits : ∀ held sources, Issues Op.cleans (await held sources)) (held : σ) :
    Issues Op.cleans (stopAndReap config await held) :=
  issues_stopAndReap trivial trivial awaits held

/-- A phase may be published while cleaning, whichever it is. -/
theorem cleans_setPhase (phase : ServerPhase) : Issues Op.cleans (setPhase phase) :=
  issues_setPhase cleans_of_plain trivial fun _ _ => trivial

/-- The failure of a reaped child is recorded while cleaning. -/
theorem cleans_reapedFailure (failure : FailureCategory) :
    Issues Op.cleans (reapedFailure failure) :=
  .bind (.bind (issues_advance cleans_of_plain trivial fun _ _ => trivial) fun _ => trivial)
    fun _ => trivial

/-- Reaping after a failed wait launches nothing and touches no record of activity. -/
theorem cleans_reapAfterWaitError (config : SupervisorConfig) :
    Issues Op.cleans (reapAfterWaitError config) := by
  refine .bind (cleans_setPhase _) fun _ =>
    .bind (cleans_stopAndReap (issues_alone fun _ => trivial) ()) fun (held, cleanup) => ?_
  cases cleanup with
  | error => trivial
  | ok => exact .bind (cleans_setPhase _) fun _ => trivial

/-- Nor does the stop for a shutdown, which sets its phase and goes through the stop sequence. -/
theorem cleans_stopForShutdown (config : SupervisorConfig) :
    Issues Op.cleans (stopForShutdown config) := by
  refine .bind (cleans_setPhase _) fun _ =>
    .bind (cleans_stopAndReap (issues_alone fun _ => trivial) ()) fun (held, cleanup) => ?_
  cases cleanup <;> trivial

/-- Nor does handling the end of a wait for the child, whatever the wait told. -/
theorem cleans_processWaitOutcome (config : SupervisorConfig) (status : WaitResult)
    (failure : FailureCategory) : Issues Op.cleans (processWaitOutcome config status failure) := by
  cases status with
  | exited => exact .bind (cleans_reapedFailure failure) fun _ => trivial
  | failed => exact cleans_reapAfterWaitError config

/-- Nor does stopping a server that failed to start: what it publishes begins and ends the
cleanup, and in between lies the stop itself. -/
theorem cleans_stopFailedServer (config : SupervisorConfig) (failure : FailureCategory) :
    Issues Op.cleans (stopFailedServer config failure) := by
  have begins : Issues Op.cleans (beginFailureCleanup failure) :=
    .bind (issues_advance cleans_of_plain trivial fun _ _ => trivial) fun _ => trivial
  refine .bind begins fun delay => .bind (cleans_stopAndReap
    (issues_beside cleans_of_plain (fun _ => trivial) _) _) fun (latch, cleanup) => ?_
  cases cleanup with
  | error => trivial
  | ok =>
    dsimp only
    split
    · trivial
    · refine .bind (issues_shutdownPending cleans_of_plain) fun pending => ?_
      split
      · trivial
      · exact .bind (.bind (issues_advance cleans_of_plain trivial fun _ _ => trivial)
          fun _ => trivial) fun _ => trivial

/-- Nor does carrying out an idle stop, wakes arriving meanwhile included. The drain of the
channel at the end only receives and answers. -/
theorem cleans_stopCommittedIdleServer (config : SupervisorConfig) :
    Issues Op.cleans (stopCommittedIdleServer config) := by
  refine .bind (.request trivial) fun stopping => .bind (issues_assert cleans_of_plain _) fun _ =>
    .bind (cleans_stopAndReap (issues_beside cleans_of_plain (fun _ => trivial) _) _)
      fun (latch, cleanup) => ?_
  cases cleanup with
  | error => trivial
  | ok =>
    dsimp only
    split
    · trivial
    · refine .bind (issues_shutdownPending cleans_of_plain) fun pending => ?_
      split
      · trivial
      · exact .bind (issues_drainRestarts cleans_of_plain _) fun _ => trivial

end Cleaning

/-! ## Looking after a child -/

/-- The operations by which a child is looked after: every wait races the shutdown channel and
leaves the next poll of the players out, and nothing is published but a reset of the streak. -/
def Op.oversees : Op → Prop
  | .select sources =>
    sources.head? = some .shutdown ∧ ∀ deadline, .sleepUntil .playerPoll deadline ∉ sources
  | .publish transition _ => transition = .resetFailureStreak
  | .launch | .beginCycle _ _ | .exit _ => False
  | _ => True

section Overseeing

/-- What is plain is permitted while overseeing. -/
theorem oversees_of_plain (op : Op) (plain : op.plain) : op.oversees := by
  cases op <;> trivial

/-- The end of the stability window is the only publication while a running server is overseen. -/
theorem oversees_completeStabilityWindow : Issues Op.oversees completeStabilityWindow :=
  issues_completeStabilityWindow oversees_of_plain trivial trivial fun _ _ => rfl

/-- The end of the stability window is not a poll of the players. -/
theorem stability_unpolled (state : RunningMonitorState) (deadline : Instant) :
    .sleepUntil .playerPoll deadline ∉ state.stability := by
  unfold RunningMonitorState.stability
  split <;> simp

variable (config : SupervisorConfig)

/-- Waiting for readiness looks for a shutdown first in each of its waits, and polls no
players. -/
theorem oversees_waitForReadiness : Issues Op.oversees (waitForReadiness config) := by
  have retries (retryAt : Instant) : Issues Op.oversees (awaitReadinessRetry retryAt) := by
    refine .bind (.request ⟨rfl, by simp⟩) fun event => ?_
    split
    · exact .bind (.request trivial) fun _ => trivial
    all_goals trivial
  refine .bind (.request trivial) fun now => .loop fun _ => .bind (.request trivial) fun now => ?_
  split
  · refine .bind (.request trivial) fun outcome => ?_
    cases outcome <;> trivial
  · refine .bind (.request trivial) fun _ => .bind (.request trivial) fun _ =>
      .bind (.request ⟨rfl, by simp⟩) fun event => ?_
    split
    · exact .bind (.request trivial) fun _ => trivial
    · trivial
    · trivial
    · trivial
    · exact .bind (.request trivial) fun _ => retries _
    · exact .bind (.request trivial) fun _ => retries _
    · trivial

/-- So does waiting for the gate to be exclusive, with the stability window among its branches. -/
theorem oversees_acquireIdleExclusive (expectedAnchor : Instant) (state : RunningMonitorState) :
    Issues Op.oversees (acquireIdleExclusive config expectedAnchor state) := by
  refine .loop fun state => .bind (.request trivial) fun closed => ?_
  split
  · trivial
  · refine .bind (.request trivial) fun activity => ?_
    split
    · trivial
    · refine .bind (.request ⟨rfl, by simp [stability_unpolled]⟩) fun event => ?_
      split
      · exact .bind (.request trivial) fun _ => trivial
      · trivial
      · refine .bind oversees_completeStabilityWindow fun ended => ?_
        split <;> trivial
      · refine .bind (.request trivial) fun activity => ?_
        dsimp only
        split
        · trivial
        · refine .bind (.request trivial) fun now => ?_
          split <;> trivial
      · trivial
      · trivial

/-- So does each wait of the final check over RCON. Its branches are the channels, the child, the
stability window and its own, and no player poll is among them. -/
theorem oversees_finalRconPlayerCheck (state : RunningMonitorState) :
    Issues Op.oversees (finalRconPlayerCheck config state) := by
  refine .bind (.request trivial) fun now => .loop fun state =>
    .bind (.request trivial) fun closed => ?_
  split
  · trivial
  · refine .bind (.request ⟨rfl, by simp [stability_unpolled]⟩) fun event => ?_
    split
    · exact .bind (.request trivial) fun _ => trivial
    · trivial
    · refine .bind oversees_completeStabilityWindow fun ended => ?_
      split <;> trivial
    all_goals trivial

/-- Confirming that no player is on is the final check or no wait at all. -/
theorem oversees_confirmIdlePlayerState (state : RunningMonitorState) :
    Issues Op.oversees (confirmIdlePlayerState config state) := by
  unfold confirmIdlePlayerState
  split
  · trivial
  · exact .bind (.request trivial) fun _ => trivial
  · refine .bind (oversees_finalRconPlayerCheck config _) fun (state, check) => ?_
    cases check with
    | veto client =>
      dsimp only
      split
      · exact ⟨trivial, nofun⟩
      · exact .bind (.request trivial) fun _ => trivial
    | _ => trivial

/-- The wait of the running monitor, for a kind that includes every wait: it is the one wait
that the poll of the players belongs to. -/
theorem issues_awaitRunningMonitor {kind : Op → Prop} (oversees : ∀ op : Op, op.oversees → kind op)
    (waits : ∀ sources, kind (.select sources)) (state : RunningMonitorState)
    (anchor : Option Instant) : Issues kind (awaitRunningMonitor config state anchor) := by
  refine .bind (.request (waits _)) fun event => ?_
  split
  · exact .bind (.request (oversees _ trivial)) fun _ => trivial
  · trivial
  · refine .bind (oversees_completeStabilityWindow.mono oversees) fun ended => ?_
    split <;> trivial
  · trivial
  · exact .bind (issues_pollPlayerPresence config
      (fun op plain => oversees op (oversees_of_plain op plain)) (oversees _ trivial)
      (fun _ _ _ => waits _) _) fun _ => trivial
  · trivial
  · trivial

end Overseeing

/-! ## Cooldowns -/

/-- The operations of waiting out a cooldown: it waits in one way, and only the end of it is
published. -/
def Op.cools : Op → Prop
  | .select sources => ∃ retryAt, sources = [.shutdown, .wake, .sleepUntil .cooldown retryAt]
  | .publish transition _ => transition = .setPhase .stopped
  | .launch | .tryWait | .beginCycle _ _ | .activitySnapshot | .releaseExclusive | .exit _ => False
  | _ => True

section Cooling

/-- What is plain is permitted while cooling down. -/
theorem cools_of_plain (op : Op) (plain : op.plain) : op.cools := by
  cases op <;> trivial

/-- A cooldown ends with the publication of the stopped phase. -/
theorem cools_setPhase_stopped : Issues Op.cools (setPhase .stopped) :=
  issues_setPhase cools_of_plain trivial fun _ _ => rfl

/-- A cooldown waits for a shutdown, a wake or its own end, in this order, as often as wakes
arrive. -/
theorem cools_waitForCooldown (retryAt : Instant) (retryPending : Bool) :
    Issues Op.cools (waitForCooldown retryAt retryPending) := by
  refine .loop fun retryPending => .bind (issues_shutdownPending cools_of_plain) fun pending => ?_
  split
  · exact .bind cools_setPhase_stopped fun _ => trivial
  · refine .bind (.request trivial) fun now => ?_
    split
    · split
      · trivial
      · exact .bind cools_setPhase_stopped fun _ => trivial
    · refine .bind (.request ⟨_, rfl⟩) fun event => ?_
      split
      · exact .bind (.request trivial) fun _ => .bind (.request trivial) fun _ => trivial
      · trivial
      · exact .bind cools_setPhase_stopped fun _ => trivial

/-- The turn of the loop after a failure is the wait and the publication that ends it. -/
theorem cools_afterCooldown (retryAt : Instant) (retryPending : Bool) :
    Issues Op.cools (afterCooldown retryAt retryPending) := by
  have logged : Issues Op.cools logCurrentFailureCooldown :=
    .bind (.request trivial) fun _ => .bind (issues_assert cools_of_plain _) fun _ =>
      issues_assert cools_of_plain _
  refine .bind logged fun _ => .bind (cools_waitForCooldown _ _) fun outcome => ?_
  cases outcome <;> trivial

end Cooling

/-! ## Without a child -/

/-- The publications of a supervisor that owns no child. -/
def Transition.parks : Transition → Bool
  | .publishStoppedAfterCleanReconciliation | .publishExternal _ | .publishConflict _ _
  | .beginReconciliation => true
  | .setPhase phase => phase = .stopped
  | _ => false

/-- The operations of a supervisor that owns no child, its launches apart. -/
def Op.parks : Op → Prop
  | .select sources => sources = [.shutdown, .wake] ∨ sources = [.shutdown, .probe, .wake] ∨
      ∃ deadline, sources = [.shutdown, .wake, .sleepUntil .externalPoll deadline]
  | .publish transition next => transition.parks = true ∧
      ∃ current now, next = transition.target current now
  | .launch | .tryWait | .beginCycle _ _ | .activitySnapshot | .releaseExclusive | .exit _ => False
  | _ => True

section Parked

/-- What is plain is permitted without a child. -/
theorem parks_of_plain (op : Op) (plain : op.plain) : op.parks := by
  cases op <;> trivial

/-- The transitions of a supervisor without a child are published as they are built from the
present state. -/
theorem parks_advance {transition : Transition} (parks : transition.parks = true) :
    Issues Op.parks (advance transition) :=
  issues_advance parks_of_plain trivial fun current now => ⟨parks, current, now, rfl⟩

/-- The stopped phase is one of them. -/
theorem parks_setPhase_stopped : Issues Op.parks (setPhase .stopped) :=
  .bind (parks_advance rfl) fun _ => trivial

/-- Looking for a shutdown is plain. -/
theorem parks_shutdownPending : Issues Op.parks shutdownPending :=
  issues_shutdownPending parks_of_plain

/-- Waiting for a demand is a wait for a shutdown or a wake. -/
theorem parks_waitForReconciliationDemand : Issues Op.parks waitForReconciliationDemand := by
  refine .loop fun _ => .bind (.request trivial) fun closed => ?_
  split
  · trivial
  · refine .bind (.request (.inl rfl)) fun event => ?_
    split
    · exact .bind (.request trivial) fun _ => .bind (.request trivial) fun _ => trivial
    · trivial

/-- Logging the cooldown only reads. -/
theorem parks_logCurrentFailureCooldown : Issues Op.parks logCurrentFailureCooldown :=
  .bind (.request trivial) fun _ => .bind (issues_assert parks_of_plain _) fun _ =>
    issues_assert parks_of_plain _

variable (config : SupervisorConfig)

/-- Each probe of a reconciliation is one wait beside the two channels, whichever answers come. -/
theorem parks_waitForReconciliation (latchStartupDemand : Bool) :
    Issues Op.parks (waitForReconciliation config latchStartupDemand) := by
  refine .loop fun startupDemand => .bind (.request trivial) fun closed => ?_
  split
  · trivial
  · refine .bind (.request (.inr (.inl rfl))) fun event => ?_
    split
    · trivial
    · exact .bind (.request trivial) fun _ => .bind (.request trivial) fun _ => trivial
    · trivial

/-- Finding an external server is published without a child. -/
theorem parks_publishExternal (consumeDemand : Bool) :
    Issues Op.parks (publishExternalBackend consumeDemand) :=
  .bind (parks_advance rfl) fun _ => trivial

/-- So is finding a conflict. -/
theorem parks_publishConflict (evidence : ReconciliationEvidence) (consumeDemand : Bool) :
    Issues Op.parks (publishConflictObservation evidence consumeDemand) :=
  .bind (parks_advance rfl) fun _ => trivial

/-- So the whole reconciliation at startup owns no child: it probes the endpoints, publishes what
they mean, and ends. -/
theorem parks_reconcileStartup : Issues Op.parks (reconcileStartup config) := by
  refine .bind (parks_waitForReconciliation config true) fun outcome => ?_
  cases outcome with
  | shutdown => trivial
  | completed result startupDemand =>
    refine .bind parks_shutdownPending fun pending => ?_
    split
    · trivial
    · split
      · exact .bind (.bind (parks_advance rfl) fun _ => trivial) fun _ => trivial
      · exact .bind (parks_publishExternal _) fun _ => trivial
      · exact .bind (parks_publishConflict _ _) fun _ => trivial
      · exact .bind (parks_publishConflict _ _) fun _ => trivial

/-- Nor does the last probe before a launch, which is where the conduct asks for a clean one. -/
theorem parks_reconcileFinalGate : Issues Op.parks (reconcileFinalGate config) := by
  refine .bind (.bind (parks_advance rfl) fun _ => trivial) fun priorEvidence =>
    .bind (parks_waitForReconciliation config false) fun outcome => ?_
  cases outcome with
  | shutdown => trivial
  | completed result startupDemand =>
    refine .bind parks_shutdownPending fun pending => ?_
    split
    · trivial
    · split
      · split
        · exact .bind (parks_publishExternal _) fun _ => trivial
        · exact .bind (parks_publishConflict _ _) fun _ => trivial
      · split
        · trivial
        · exact .bind (parks_publishExternal _) fun _ => trivial
        · exact .bind (parks_publishConflict _ _) fun _ => trivial
        · exact .bind (parks_publishConflict _ _) fun _ => trivial

/-- An external server is only polled, at the deadlines of its own timer. The daemon owns no child
there, so nothing that would touch one occurs in the loop. -/
theorem parks_monitorExternalServer : Issues Op.parks (monitorExternalServer config) := by
  refine .bind (.request trivial) fun now => .loop fun nextPoll =>
    .bind (.request trivial) fun closed => ?_
  split
  · trivial
  · refine .bind (.request (.inr (.inr ⟨_, rfl⟩))) fun event => ?_
    split
    · exact .bind (.request trivial) fun _ => trivial
    · refine .bind (parks_waitForReconciliation config false) fun outcome => ?_
      cases outcome with
      | shutdown => trivial
      | completed result startupDemand =>
        refine .bind parks_shutdownPending fun pending => ?_
        split
        · trivial
        · split
          · exact .bind (.request trivial) fun _ => trivial
          · exact .bind (parks_publishConflict _ _) fun _ => trivial
    · trivial

end Parked

end McServerNap
