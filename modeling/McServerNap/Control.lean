import McServerNap.Platform

/-!
# The supervisor's control of its channels

`SupervisorControl` owns the receiving ends of the wake and shutdown channels
and the sender of the lifecycle. Its functions are programs over the operations
of the platform. A failed assertion is an operation without a reply: the
program never continues past it.
-/

namespace McServerNap

open Interaction

/-- Programs of the supervisor task. -/
abbrev Supervised := Program Op Reply

/-- What the supervisor reads of its configuration. Whether RCON is configured
matters to its control flow; the endpoint and the password are used only inside
network calls. `connectTimeout` belongs to the backend endpoint. -/
structure SupervisorConfig where
  rcon : Bool
  pollInterval : Duration
  idleTimeout : Duration
  startupTimeout : Duration
  retryInterval : Duration
  commandTimeout : Duration
  shutdownTimeout : Duration
  connectTimeout : Duration
  deriving DecidableEq, Repr

/-- One access to the world. -/
def access (op : Op) : Supervised (Reply op) := .request op

/-- `Instant::now`. -/
def now : Supervised Instant := access .now

/-- `tokio::select!` over the given branches. -/
def select (sources : List Source) : Supervised Event := access (.select sources)

/-- What becomes of a received wake request. -/
def answer (request : WakeRequest) (accepted : Bool) : Supervised Unit :=
  access (.answer request accepted)

/-- `assert!`: past a failed assertion there is no continuation. -/
def assert (condition : Bool) : Supervised Unit :=
  if condition then .done () else .perform .panic nofun

/-- `unreachable!`. -/
def unreachable {α : Type} : Supervised α := .perform .panic nofun

namespace SupervisorControl

/-- Whether the wake channel is closed. -/
def wakesClosed : Supervised Bool := access .wakesClosed

/-- `shutdown_pending`. -/
def shutdownPending : Supervised Bool := do
  if ← wakesClosed then
    return true
  let outcome ← access .tryRecvShutdown
  return outcome ≠ TryRecvShutdown.empty

/-- The lifecycle that was published last. -/
def currentLifecycle : Supervised LifecycleState := access .currentLifecycle

/-- Publishing a lifecycle is for everyone to see, and only a well-formed one is published. -/
def publish (transition : Transition) (next : LifecycleState) : Supervised Unit := do
  assert next.invariantHolds
  access (.publish transition next)

/-- The shape shared by the publishing functions: read the current state, check
the assertions, read the clock, and publish the state built from them. Returns
that state and the instant. -/
def advance (transition : Transition) : Supervised (LifecycleState × Instant) := do
  let current ← currentLifecycle
  assert (transition.admits current)
  let now ← now
  let next := transition.target current now
  publish transition next
  return (next, now)

/-- `record_launch_success`. -/
def recordLaunchSuccess : Supervised Unit := do
  let _ ← advance .recordLaunchSuccess

/-- Returns the retry deadline. -/
def recordLaunchFailure : Supervised Instant := do
  let (next, now) ← advance .recordLaunchFailure
  return now + failureBackoff next.failureStreak

/-- Returns the retry deadline. -/
def recordReapedFailure (failure : FailureCategory) : Supervised Instant := do
  let (next, now) ← advance (.recordReapedFailure failure)
  return now + failureBackoff next.failureStreak

/-- Returns the delay to apply once the cleanup has finished. -/
def beginFailureCleanup (failure : FailureCategory) : Supervised Duration := do
  let (next, _) ← advance (.beginFailureCleanup failure)
  return failureBackoff next.failureStreak

/-- Returns the retry deadline. -/
def finishFailureCleanup (retryDelay : Duration) : Supervised Instant := do
  let (_, now) ← advance (.finishFailureCleanup retryDelay)
  return now + retryDelay

/-- `reset_failure_streak`. -/
def resetFailureStreak : Supervised Unit := do
  let _ ← advance .resetFailureStreak

/-- The activity record of the new cycle is installed before the phase is
published, so no client can observe the phase without it. -/
def publishRunning : Supervised BackendCycle := do
  let current ← currentLifecycle
  assert (Transition.publishRunning.admits current)
  let runningSince ← now
  let cycle : BackendCycle := ⟨current.launchGeneration⟩
  access (.beginCycle cycle runningSince)
  publish .publishRunning (Transition.publishRunning.target current runningSince)
  return cycle

/-- `begin_idle_stop`, for the cycle that is still owned and running. -/
def beginIdleStop (cycle : BackendCycle) : Supervised Unit := do
  let _ ← advance (.beginIdleStop cycle)

/-- `set_phase`. -/
def setPhase (phase : ServerPhase) : Supervised Unit := do
  let _ ← advance (.setPhase phase)

/-- Returns the evidence remembered from before. -/
def beginReconciliation : Supervised ReconciliationEvidence := do
  let (next, _) ← advance .beginReconciliation
  return next.reconciliationEvidence

/-- `publish_stopped_after_clean_reconciliation`. -/
def publishStoppedAfterCleanReconciliation : Supervised Unit := do
  let _ ← advance .publishStoppedAfterCleanReconciliation

/-- `publish_external`, which may consume the demand that was waiting. -/
def publishExternal (consumeDemand : Bool) : Supervised Unit := do
  let _ ← advance (.publishExternal consumeDemand)

/-- `publish_conflict`, likewise. -/
def publishConflict (evidence : ReconciliationEvidence) (consumeDemand : Bool) :
    Supervised Unit := do
  let _ ← advance (.publishConflict evidence consumeDemand)

/-- `wait_for_reconciliation_demand`: true once a request is accepted, false when
the supervisor is to shut down. -/
def waitForReconciliationDemand : Supervised Bool :=
  Program.loop (fun _ : Unit => do
    if ← wakesClosed then
      return .leave false
    match ← select [.shutdown, .wake] with
    | .wake (some request) => do
      let current ← currentLifecycle
      let accepted := request.canStart current || request.requestsConflictReconciliation current
      answer request accepted
      return if accepted then .leave true else .again ()
    | _ => return .leave false) ()

end SupervisorControl

/-- How waiting out a cooldown ended. -/
inductive CooldownOutcome where
  | stopped
  | launch
  | shutdown
  deriving DecidableEq, Repr

namespace SupervisorControl

/-- `wait_for_cooldown`; the loop's state is whether a retry is pending. -/
def waitForCooldown (retryAt : Instant) (retryPending : Bool) : Supervised CooldownOutcome :=
  Program.loop (fun retryPending => do
    if ← shutdownPending then
      setPhase .stopped
      return .leave .shutdown
    if retryAt ≤ (← now) then
      if retryPending then
        return .leave .launch
      setPhase .stopped
      return .leave .stopped
    match ← select [.shutdown, .wake, .sleepUntil .cooldown retryAt] with
    | .wake (some request) => do
      let current ← currentLifecycle
      let accepted := request.requestsRetry current && !retryPending
      answer request accepted
      return .again (retryPending || accepted)
    | .elapsed _ => return .again retryPending
    | _ => do
      setPhase .stopped
      return .leave .shutdown) retryPending

end SupervisorControl

end McServerNap
