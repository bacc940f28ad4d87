import McServerNap.Cleanup
import McServerNap.PlayerCount

/-!
# Monitoring a running server for idleness

An owned server is stopped once no login or transfer session has been open for
the idle timeout and, where RCON is configured, the player list has been empty
for as long. The decision is taken under the exclusive side of the backend-use
gate and repeated there, so the anchor of the idle period is compared both before
and after waiting for the gate.

An RCON client is represented by its presence.
-/

namespace McServerNap

open Interaction SupervisorControl

/-- `PlayerInspection`. -/
inductive PlayerInspection where
  | proxyOnly
  | configuredRcon (client : Bool) (nextPoll : Instant) (zeroAnchor : Option Instant)
  deriving DecidableEq, Repr

/-- `PlayerInspection::from_config`. -/
def PlayerInspection.fromConfig (config : SupervisorConfig) : Supervised PlayerInspection := do
  if config.rcon then
    return .configuredRcon false (← now) none
  else
    return .proxyOnly

/-- `RunningMonitorState`: the cycle that is watched, its stability window, and how its players
are inspected. -/
structure RunningMonitorState where
  cycle : BackendCycle
  playerInspection : PlayerInspection
  stableAt : Instant
  stabilityPending : Bool
  deriving DecidableEq, Repr

namespace RunningMonitorState

/-- `RunningMonitorState::new`. -/
def new (cycle : BackendCycle) (playerInspection : PlayerInspection)
    (lifecycle : LifecycleState) : Supervised RunningMonitorState := do
  assert (lifecycle.ownedRunningCycle = some cycle)
  return {
    cycle := cycle
    playerInspection := playerInspection
    stableAt := lifecycle.phaseStartedAt + stabilityWindow
    stabilityPending := 0 < lifecycle.failureStreak }

/-- Since when the server has been idle by every account, if it is. -/
def effectiveIdleAnchor (state : RunningMonitorState)
    (activity : Option CurrentCycleActivity) : Option Instant := do
  let activity ← activity.filter (·.cycle = state.cycle)
  let proxyAnchor ← activity.proxyIdleAnchor
  match state.playerInspection with
  | .proxyOnly => some proxyAnchor
  | .configuredRcon _ _ zeroAnchor => zeroAnchor.map (max proxyAnchor)

/-- The branch for the end of the stability window, present while that is pending. -/
def stability (state : RunningMonitorState) : List Source :=
  if state.stabilityPending then [.sleepUntil .stability state.stableAt] else []

/-- The branch for the next player poll, present where RCON is configured. -/
def playerPoll (state : RunningMonitorState) : List Source :=
  match state.playerInspection with
  | .proxyOnly => []
  | .configuredRcon _ nextPoll _ => [.sleepUntil .playerPoll nextPoll]

end RunningMonitorState

/-- `IdleExclusiveOutcome`. -/
inductive IdleExclusiveOutcome where
  | acquired
  | activityChanged
  | shutdown
  | childWait (status : WaitResult)
  deriving DecidableEq, Repr

/-- `FinalRconCheck`; a veto says whether the client survived. -/
inductive FinalRconCheck where
  | zero
  | veto (client : Bool)
  | shutdown
  | childWait (status : WaitResult)
  deriving DecidableEq, Repr

/-- `IdlePlayerCheck`. -/
inductive IdlePlayerCheck where
  | confirmed
  | veto
  | shutdown
  | childWait (status : WaitResult)
  deriving DecidableEq, Repr

/-- `RunningMonitorOutcome`. -/
inductive RunningMonitorOutcome where
  | continued
  | committed
  | shutdown
  | childWait (status : WaitResult)
  deriving DecidableEq, Repr

/-- `complete_stability_window`: nothing while the child is still running. -/
def completeStabilityWindow : Supervised (Option WaitResult) := do
  match ← access .tryWait with
  | TryWaitResult.exited => return some .exited
  | TryWaitResult.failed => return some .failed
  | TryWaitResult.running => do
    resetFailureStreak
    return none

/-- `acquire_idle_exclusive`. The snapshot is taken before each await, so an
activity change that comes after it is notified during the await. -/
def acquireIdleExclusive (config : SupervisorConfig) (expectedAnchor : Instant)
    (state : RunningMonitorState) : Supervised (RunningMonitorState × IdleExclusiveOutcome) :=
  Program.loop (fun state : RunningMonitorState => do
    if ← wakesClosed then
      return .leave (state, .shutdown)
    if state.effectiveIdleAnchor (← access .activitySnapshot) ≠ some expectedAnchor then
      return .leave (state, .activityChanged)
    match ← select ([.shutdown, .wake, .child] ++ state.stability ++ [.activity, .exclusive]) with
    | .wake (some request) => do
      answer request false
      return .again state
    | .child status => return .leave (state, .childWait status)
    | .elapsed _ => do
      match ← completeStabilityWindow with
      | some status => return .leave (state, .childWait status)
      | none => return .again { state with stabilityPending := false }
    | .activity => do
      let anchor := state.effectiveIdleAnchor (← access .activitySnapshot)
      if anchor ≠ some expectedAnchor then
        return .leave (state, .activityChanged)
      if (← now) < expectedAnchor + config.idleTimeout then
        return .leave (state, .activityChanged)
      return .again state
    | .exclusive => return .leave (state, .acquired)
    | _ => return .leave (state, .shutdown)) state

/-- `final_rcon_player_check`. The command's deadline is fixed when it is issued. -/
def finalRconPlayerCheck (config : SupervisorConfig) (state : RunningMonitorState) :
    Supervised (RunningMonitorState × FinalRconCheck) := do
  let commandDeadline := (← now) + config.commandTimeout
  Program.loop (fun state : RunningMonitorState => do
    if ← wakesClosed then
      return .leave (state, .shutdown)
    match ← select ([.shutdown, .wake, .child] ++ state.stability ++
        [.rconList, .sleepUntil .command commandDeadline]) with
    | .wake (some request) => do
      answer request false
      return .again state
    | .child status => return .leave (state, .childWait status)
    | .elapsed .stability => do
      match ← completeStabilityWindow with
      | some status => return .leave (state, .childWait status)
      | none => return .again { state with stabilityPending := false }
    | .rconList (some response) =>
      return .leave (state,
        if observedPlayerCount response = some 0 then .zero else .veto true)
    | .rconList none => return .leave (state, .veto false)
    | .elapsed _ => return .leave (state, .veto false)
    | _ => return .leave (state, .shutdown)) state

/-- `confirm_idle_player_state`. The client is taken for the final check and
comes back only with a veto. -/
def confirmIdlePlayerState (config : SupervisorConfig) (state : RunningMonitorState) :
    Supervised (RunningMonitorState × IdlePlayerCheck) := do
  match state.playerInspection with
  | .proxyOnly => return (state, .confirmed)
  | .configuredRcon false _ _ => do
    let nextPoll := (← now) + config.retryInterval
    return ({ state with playerInspection := .configuredRcon false nextPoll none }, .veto)
  | .configuredRcon true nextPoll zeroAnchor => do
    let taken := { state with playerInspection := .configuredRcon false nextPoll zeroAnchor }
    let (state, check) ← finalRconPlayerCheck config taken
    match check with
    | .zero => return (state, .confirmed)
    | .veto client =>
      match state.playerInspection with
      | .proxyOnly => unreachable
      | .configuredRcon _ _ _ => do
        let nextPoll := (← now) + if client then config.pollInterval else config.retryInterval
        return ({ state with playerInspection := .configuredRcon client nextPoll none }, .veto)
    | .shutdown => return (state, .shutdown)
    | .childWait status => return (state, .childWait status)

/-- The last checks before an idle stop, and its publication. -/
def commitIdleStop (state : RunningMonitorState) : Supervised RunningMonitorOutcome := do
  if (← currentLifecycle).ownedRunningCycle ≠ some state.cycle then
    return .continued
  if ← shutdownPending then
    return .shutdown
  match ← access .tryWait with
  | TryWaitResult.exited => return .childWait .exited
  | TryWaitResult.failed => return .childWait .failed
  | TryWaitResult.running => do
    let _ ← now
    beginIdleStop state.cycle
    return .committed

/-- `attempt_expired_idle_stop` from the acquisition of the gate on, which is
held throughout. -/
def attemptUnderExclusive (config : SupervisorConfig) (anchor : Instant)
    (state : RunningMonitorState) : Supervised (RunningMonitorState × RunningMonitorOutcome) := do
  let activity ← access .activitySnapshot
  if activity.all (fun snapshot =>
      snapshot.cycle ≠ state.cycle || snapshot.activeLoginTransferSessions ≠ 0) ||
      state.effectiveIdleAnchor activity ≠ some anchor then
    return (state, .continued)
  if (← now) < anchor + config.idleTimeout then
    return (state, .continued)
  if (← currentLifecycle).ownedRunningCycle ≠ some state.cycle then
    return (state, .continued)
  if ← shutdownPending then
    return (state, .shutdown)
  match ← access .tryWait with
  | TryWaitResult.exited => return (state, .childWait .exited)
  | TryWaitResult.failed => return (state, .childWait .failed)
  | TryWaitResult.running => do
    let (state, check) ← confirmIdlePlayerState config state
    match check with
    | .confirmed => return (state, ← commitIdleStop state)
    | .veto => return (state, .continued)
    | .shutdown => return (state, .shutdown)
    | .childWait status => return (state, .childWait status)

/-- `attempt_expired_idle_stop`. The guard is dropped on every way out. -/
def attemptExpiredIdleStop (config : SupervisorConfig) (state : RunningMonitorState)
    (anchor : Instant) : Supervised (RunningMonitorState × RunningMonitorOutcome) := do
  let (state, exclusive) ← acquireIdleExclusive config anchor state
  match exclusive with
  | .acquired => do
    let decided ← attemptUnderExclusive config anchor state
    access .releaseExclusive
    return decided
  | .activityChanged => return (state, .continued)
  | .shutdown => return (state, .shutdown)
  | .childWait status => return (state, .childWait status)

/-- `poll_player_presence`. Its network calls race only with their own deadline. That
RCON is configured is an expectation. -/
def pollPlayerPresence (config : SupervisorConfig) :
    PlayerInspection → Supervised PlayerInspection
  | .proxyOnly => return .proxyOnly
  | .configuredRcon false _ _ => do
    assert config.rcon
    let commandDeadline := (← now) + config.commandTimeout
    match ← select [.rconConnect, .sleepUntil .command commandDeadline] with
    | .rconConnect true => return .configuredRcon true (← now) none
    | _ => return .configuredRcon false ((← now) + config.retryInterval) none
  | .configuredRcon true _ zeroAnchor => do
    assert config.rcon
    let commandDeadline := (← now) + config.commandTimeout
    match ← select [.rconList, .sleepUntil .command commandDeadline] with
    | .rconList (some response) =>
      if observedPlayerCount response = some 0 then do
        let started ← match zeroAnchor with
          | some started => pure started
          | none => now
        let _ ← now
        return .configuredRcon true ((← now) + config.pollInterval) (some started)
      else
        return .configuredRcon true ((← now) + config.pollInterval) none
    | _ => return .configuredRcon false ((← now) + config.retryInterval) none

/-- The `select!` of `advance_running_monitor`, reached while no idle period has
expired. -/
def awaitRunningMonitor (config : SupervisorConfig) (state : RunningMonitorState)
    (effectiveAnchor : Option Instant) :
    Supervised (RunningMonitorState × RunningMonitorOutcome) := do
  let idleDeadline := match effectiveAnchor with
    | some anchor => [Source.sleepUntil .idleDeadline (anchor + config.idleTimeout)]
    | none => []
  match ← select ([.shutdown, .wake, .child] ++ state.stability ++ [.activity] ++
      state.playerPoll ++ idleDeadline) with
  | .wake (some request) => do
    answer request false
    return (state, .continued)
  | .child status => return (state, .childWait status)
  | .elapsed .stability => do
    match ← completeStabilityWindow with
    | some status => return (state, .childWait status)
    | none => return ({ state with stabilityPending := false }, .continued)
  | .activity => return (state, .continued)
  | .elapsed .playerPoll => do
    let playerInspection ← pollPlayerPresence config state.playerInspection
    return ({ state with playerInspection := playerInspection }, .continued)
  | .elapsed _ => return (state, .continued)
  | _ => return (state, .shutdown)

/-- `advance_running_monitor`. -/
def advanceRunningMonitor (config : SupervisorConfig) (state : RunningMonitorState) :
    Supervised (RunningMonitorState × RunningMonitorOutcome) := do
  let effectiveAnchor := state.effectiveIdleAnchor (← access .activitySnapshot)
  match effectiveAnchor with
  | some anchor =>
    if anchor + config.idleTimeout ≤ (← now) then
      attemptExpiredIdleStop config state anchor
    else
      awaitRunningMonitor config state effectiveAnchor
  | none => awaitRunningMonitor config state effectiveAnchor

/-- `monitor_running_server`. -/
def monitorRunningServer (config : SupervisorConfig) (playerInspection : PlayerInspection)
    (cycle : BackendCycle) : Supervised CycleResult := do
  let state ← RunningMonitorState.new cycle playerInspection (← currentLifecycle)
  Program.loop (fun state : RunningMonitorState => do
    let (state, outcome) ← advanceRunningMonitor config state
    match outcome with
    | .continued => return .again state
    | .committed => return .leave (← stopCommittedIdleServer config)
    | .shutdown => return .leave (← stopForShutdown config)
    | .childWait status =>
      return .leave (← processWaitOutcome config status .exitedUnexpectedly)) state

end McServerNap
