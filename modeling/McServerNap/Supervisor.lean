import McServerNap.Monitoring

/-!
# The supervisor

`run` reconciles once at startup and then repeats: wait for a demand unless one
is pending, probe the backend again in the final gate, launch, and supervise the
child until it is reaped. Logging, and the remembered conflict classification
that only selects log lines, are left out.
-/

namespace McServerNap

open Interaction SupervisorControl

/-- `ReconciliationWaitOutcome`. -/
inductive ReconciliationWaitOutcome where
  | completed (result : ReconciliationResult) (startupDemand : Bool)
  | shutdown
  deriving DecidableEq, Repr

/-- `StartupReconciliationOutcome`. -/
inductive StartupReconciliationOutcome where
  | idle
  | launch
  | shutdown
  deriving DecidableEq, Repr

/-- `FinalGateOutcome`. -/
inductive FinalGateOutcome where
  | launch
  | blocked
  | shutdown
  deriving DecidableEq, Repr

/-- `ExternalMonitorOutcome`. -/
inductive ExternalMonitorOutcome where
  | conflict
  | shutdown
  deriving DecidableEq, Repr

/-- `ReadinessOutcome`. -/
inductive ReadinessOutcome where
  | ready
  | startupTimedOut
  | exited
  | processWaitFailed
  | shutdown
  deriving DecidableEq, Repr

/-- `wait_for_reconciliation`; the loop's state is the latched startup demand. -/
def waitForReconciliation (config : SupervisorConfig) (latchStartupDemand : Bool) :
    Supervised ReconciliationWaitOutcome :=
  Program.loop (fun startupDemand : Bool => do
    if ← wakesClosed then
      return .leave .shutdown
    match ← select [.shutdown, .probe, .wake] with
    | .probe observation =>
      return .leave (.completed (reconciliationProbe config.rcon observation) startupDemand)
    | .wake (some request) => do
      let current ← currentLifecycle
      let accepted := latchStartupDemand && !startupDemand && request.observed = current
      answer request accepted
      return .again (startupDemand || accepted)
    | _ => return .leave .shutdown) false

/-- `publish_conflict_observation`. -/
def publishConflictObservation (evidence : ReconciliationEvidence) (consumeDemand : Bool) :
    Supervised Unit :=
  publishConflict evidence consumeDemand

/-- `publish_external_backend`. -/
def publishExternalBackend (consumeDemand : Bool) : Supervised Unit :=
  publishExternal consumeDemand

/-- `reconcile_startup`. -/
def reconcileStartup (config : SupervisorConfig) : Supervised StartupReconciliationOutcome := do
  match ← waitForReconciliation config true with
  | .shutdown => return .shutdown
  | .completed result startupDemand => do
    if ← shutdownPending then
      return .shutdown
    match result.classification with
    | .clean => do
      publishStoppedAfterCleanReconciliation
      return if startupDemand then .launch else .idle
    | .fullyReady => do
      publishExternalBackend startupDemand
      return .idle
    | .positive => do
      publishConflictObservation .positive startupDemand
      return .idle
    | .inconclusive => do
      publishConflictObservation .inconclusive startupDemand
      return .idle

/-- `reconcile_final_gate`. Positive evidence from before decides first. -/
def reconcileFinalGate (config : SupervisorConfig) : Supervised FinalGateOutcome := do
  let priorEvidence ← beginReconciliation
  match ← waitForReconciliation config false with
  | .shutdown => return .shutdown
  | .completed result _ => do
    if ← shutdownPending then
      return .shutdown
    if priorEvidence = .positive then
      if result.classification = .fullyReady then
        publishExternalBackend true
      else
        publishConflictObservation .positive true
      return .blocked
    match result.classification with
    | .clean => return .launch
    | .fullyReady => do
      publishExternalBackend true
      return .blocked
    | .positive => do
      publishConflictObservation .positive true
      return .blocked
    | .inconclusive => do
      publishConflictObservation .inconclusive true
      return .blocked

/-- `monitor_external_server`; the loop's state is the next poll. -/
def monitorExternalServer (config : SupervisorConfig) : Supervised ExternalMonitorOutcome := do
  let nextPoll := (← now) + config.pollInterval
  Program.loop (fun nextPoll : Instant => do
    if ← wakesClosed then
      return .leave .shutdown
    match ← select [.shutdown, .wake, .sleepUntil .externalPoll nextPoll] with
    | .wake (some request) => do
      answer request false
      return .again nextPoll
    | .elapsed _ => do
      match ← waitForReconciliation config false with
      | .shutdown => return .leave .shutdown
      | .completed result _ => do
        if ← shutdownPending then
          return .leave .shutdown
        if result.classification = .fullyReady then
          return .again ((← now) + config.pollInterval)
        publishConflictObservation .positive false
        return .leave .conflict
    | _ => return .leave .shutdown) nextPoll

/-- The expectations of `log_current_failure_cooldown`. -/
def logCurrentFailureCooldown : Supervised Unit := do
  let lifecycle ← currentLifecycle
  assert lifecycle.failure.isSome
  assert lifecycle.retryAt.isSome

/-- The wait between two connection attempts of `wait_for_readiness`. -/
def awaitReadinessRetry (retryAt : Instant) : Supervised (Turn Unit ReadinessOutcome) := do
  match ← select [.shutdown, .wake, .child, .sleepUntil .readinessRetry retryAt] with
  | .wake (some request) => do
    answer request false
    return .again ()
  | .child .exited => return .leave .exited
  | .child .failed => return .leave .processWaitFailed
  | .elapsed _ => return .again ()
  | _ => return .leave .shutdown

/-- `wait_for_readiness`. Where RCON is configured the attempt is an RCON
connection, and a plain connection to the backend otherwise. -/
def waitForReadiness (config : SupervisorConfig) : Supervised ReadinessOutcome := do
  let deadline := (← now) + config.startupTimeout
  Program.loop (fun _ : Unit => do
    if deadline ≤ (← now) then
      match ← access .tryWait with
      | TryWaitResult.exited => return .leave .exited
      | TryWaitResult.running => return .leave .startupTimedOut
      | TryWaitResult.failed => return .leave .processWaitFailed
    else
      let remaining := deadline - (← now)
      let connectTimeout :=
        min (if config.rcon then config.commandTimeout else config.connectTimeout) remaining
      let connectDeadline := (← now) + connectTimeout
      match ← select [.shutdown, .wake, .child, .connect,
          .sleepUntil .connectAttempt connectDeadline] with
      | .wake (some request) => do
        answer request false
        return .again ()
      | .child .exited => return .leave .exited
      | .child .failed => return .leave .processWaitFailed
      | .connect true => return .leave .ready
      | .connect false | .elapsed _ => do
        let retryAt := min ((← now) + config.retryInterval) deadline
        awaitReadinessRetry retryAt
      | _ => return .leave .shutdown) ()

/-- `run_server_cycle`. -/
def runServerCycle (config : SupervisorConfig) : Supervised CycleResult := do
  match ← waitForReadiness config with
  | .startupTimedOut => stopFailedServer config .startupTimedOut
  | .exited => do return .ok (← reapedFailure .exitedBeforeReady)
  | .processWaitFailed => reapAfterWaitError config
  | .shutdown => stopForShutdown config
  | .ready => do
    if ← shutdownPending then
      stopForShutdown config
    else do
      let cycle ← publishRunning
      monitorRunningServer config (← PlayerInspection.fromConfig config) cycle

/-- What `run` does with the outcome of a cooldown. -/
def afterCooldown (retryAt : Instant) (retryPending : Bool) :
    Supervised (Turn Bool (Except SupervisorError Unit)) := do
  logCurrentFailureCooldown
  match ← waitForCooldown retryAt retryPending with
  | .launch => return .again true
  | .stopped => return .again false
  | .shutdown => return .leave (.ok ())

/-- One launch attempt of `run` and the cycle that follows it. -/
def launchServer (config : SupervisorConfig) :
    Supervised (Turn Bool (Except SupervisorError Unit)) := do
  if ← access .launch then
    recordLaunchSuccess
    match ← runServerCycle config with
    | .error error => return .leave (.error error)
    | .ok .stopped => do
      setPhase .stopped
      return .again false
    | .ok .restart => do
      setPhase .stopped
      return .again true
    | .ok (.failed retryAt retryPending) => afterCooldown retryAt retryPending
    | .ok .shutdown => do
      setPhase .stopped
      return .leave (.ok ())
  else
    let retryAt ← recordLaunchFailure
    afterCooldown retryAt false

/-- The part of `run`'s loop that begins with a demand at hand. -/
def serveDemand (config : SupervisorConfig) :
    Supervised (Turn Bool (Except SupervisorError Unit)) := do
  if ← shutdownPending then
    return .leave (.ok ())
  match ← reconcileFinalGate config with
  | .launch => launchServer config
  | .blocked => return .again false
  | .shutdown => return .leave (.ok ())

/-- The part of `run`'s loop that waits for a demand unless a launch is pending. -/
def serveNext (config : SupervisorConfig) (launchPending : Bool) :
    Supervised (Turn Bool (Except SupervisorError Unit)) := do
  if launchPending then
    serveDemand config
  else if ← waitForReconciliationDemand then
    serveDemand config
  else do
    if (← currentLifecycle).phase = .stopped then
      setPhase .stopped
    return .leave (.ok ())

/-- One turn of `run`'s loop; its state is whether a launch is pending. -/
def superviseTurn (config : SupervisorConfig) (launchPending : Bool) :
    Supervised (Turn Bool (Except SupervisorError Unit)) := do
  if (← currentLifecycle).phase = .external then
    match ← monitorExternalServer config with
    | .conflict => serveNext config launchPending
    | .shutdown => return .leave (.ok ())
  else
    serveNext config launchPending

/-- Everything `run` does before it returns. -/
def supervise (config : SupervisorConfig) : Supervised (Except SupervisorError Unit) := do
  assert ((← currentLifecycle).phase = .reconciling)
  assert (← currentLifecycle).invariantHolds
  match ← reconcileStartup config with
  | .launch => Program.loop (superviseTurn config) true
  | .idle => Program.loop (superviseTurn config) false
  | .shutdown => return .ok ()

/-- `supervisor::run`. -/
def run (config : SupervisorConfig) : Supervised Unit := do
  let result ← supervise config
  access (.exit result)

end McServerNap
