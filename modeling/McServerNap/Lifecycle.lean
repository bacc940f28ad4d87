import Mathlib.Algebra.Group.Nat.Defs

/-!
# Lifecycle states of one supervised server

The supervisor publishes one `LifecycleState` at a time. Client tasks sample the
published value and hand it back inside a wake request; each acceptance predicate
compares that sample with the value current when the request is received.

Instants and durations are nanosecond counts without an upper bound. The launch
generation is an unsigned 64-bit counter that wraps, and the failure streak an
unsigned 32-bit counter that saturates.
-/

namespace McServerNap

/-- An instant of the monotonic clock, in nanoseconds. -/
abbrev Instant := Nat

/-- A duration in nanoseconds. -/
abbrev Duration := Nat

/-- `Duration::from_secs`. -/
def seconds (count : Nat) : Duration := count * 1000000000

/-- A child that stays up this long has its failure streak forgotten. -/
def stabilityWindow : Duration := seconds 60

/-- `ServerPhase`: what the supervisor says of its server, to the clients and to its own later
checks. -/
inductive ServerPhase where
  | reconciling
  | stopped
  | starting
  | running
  | stopping
  | cooldown
  | external
  | conflict
  deriving DecidableEq, Repr

/-- `ReconciliationEvidence`: what the probes of a reconciliation have shown so far. -/
inductive ReconciliationEvidence where
  | none
  | inconclusive
  | positive
  deriving DecidableEq, Repr

/-- `FailureCategory`: in which way a launch cycle has failed. -/
inductive FailureCategory where
  | launchFailed
  | startupTimedOut
  | exitedBeforeReady
  | exitedUnexpectedly
  deriving DecidableEq, Repr

/-- `u64::wrapping_add(1)`. -/
def wrappingSucc (generation : Nat) : Nat := (generation + 1) % 2 ^ 64

/-- `u32::saturating_add(1)`. -/
def saturatingSucc (streak : Nat) : Nat := min (streak + 1) (2 ^ 32 - 1)

/-- The identity of one owned run of the backend. -/
structure BackendCycle where
  launchGeneration : Nat
  deriving DecidableEq, Repr

/-- `LifecycleState`: the phase and what belongs to it, published as one value. -/
structure LifecycleState where
  phase : ServerPhase
  launchGeneration : Nat
  failure : Option FailureCategory
  failureStreak : Nat
  phaseStartedAt : Instant
  retryAt : Option Instant
  reconciliationEvidence : ReconciliationEvidence
  deriving DecidableEq, Repr

namespace LifecycleState

/-- The state a supervisor starts from. -/
def reconciling (now : Instant) : LifecycleState where
  phase := .reconciling
  launchGeneration := 0
  failure := none
  failureStreak := 0
  phaseStartedAt := now
  retryAt := none
  reconciliationEvidence := .none

/-- `owned_running_cycle`: the cycle of a running server that is the supervisor's own. -/
def ownedRunningCycle (state : LifecycleState) : Option BackendCycle :=
  if state.phase = .running then some ⟨state.launchGeneration⟩ else none

/-- Which evidence each phase may carry. Every published state is checked
against this. -/
def invariantHolds (state : LifecycleState) : Bool :=
  match state.phase with
  | .reconciling => true
  | .external => state.reconciliationEvidence = .positive
  | .conflict => state.reconciliationEvidence ≠ .none
  | .stopped | .starting | .running | .stopping | .cooldown =>
      state.reconciliationEvidence = .none

end LifecycleState

/-- A client's demand for a launch, with the state it sampled. -/
structure WakeRequest where
  observed : LifecycleState
  deriving DecidableEq, Repr

namespace WakeRequest

/-- `can_start`: the request was made for the state that is still published, in a phase from which
a launch may follow. -/
def canStart (request : WakeRequest) (current : LifecycleState) : Bool :=
  current.phase = .stopped &&
    request.observed.launchGeneration = current.launchGeneration &&
    (request.observed.phase = .reconciling || request.observed.phase = .stopped ||
      request.observed.phase = .stopping || request.observed.phase = .cooldown)

/-- `requests_conflict_reconciliation`: the client saw the conflict that is still published. -/
def requestsConflictReconciliation (request : WakeRequest) (current : LifecycleState) : Bool :=
  current.phase = .conflict && request.observed = current

/-- `requests_restart`: the client saw the idle stop that is still under way. -/
def requestsRestart (request : WakeRequest) (current : LifecycleState) : Bool :=
  current.phase = .stopping && current.failure.isNone && request.observed = current

/-- `requests_retry`: the client saw the failure whose cleanup or cooldown is still under way. -/
def requestsRetry (request : WakeRequest) (current : LifecycleState) : Bool :=
  current.failure.isSome &&
    request.observed.failure = current.failure &&
    request.observed.failureStreak = current.failureStreak &&
    request.observed.launchGeneration = current.launchGeneration &&
    (request.observed.phase = .stopping || request.observed.phase = .cooldown) &&
    (current.phase = .stopping || current.phase = .cooldown)

end WakeRequest

/-- The delay after a failure. The source asserts that the streak is positive. -/
def failureBackoff (failureStreak : Nat) : Duration :=
  match failureStreak with
  | 1 => seconds 5
  | 2 => seconds 10
  | 3 => seconds 20
  | 4 => seconds 40
  | _ => seconds 60

/-- The functions of the supervisor that publish a state, with their arguments. -/
inductive Transition where
  | recordLaunchSuccess
  | recordLaunchFailure
  | recordReapedFailure (failure : FailureCategory)
  | beginFailureCleanup (failure : FailureCategory)
  | finishFailureCleanup (retryDelay : Duration)
  | resetFailureStreak
  | publishRunning
  | beginIdleStop (cycle : BackendCycle)
  | setPhase (phase : ServerPhase)
  | beginReconciliation
  | publishStoppedAfterCleanReconciliation
  | publishExternal (consumeDemand : Bool)
  | publishConflict (evidence : ReconciliationEvidence) (consumeDemand : Bool)
  deriving DecidableEq, Repr

namespace Transition

/-- The assertions a publishing function makes about its arguments and about the
current state. Those that compute a backoff include the assertion of
`failure_backoff` that the new streak is positive. -/
def admits (current : LifecycleState) : Transition → Bool
  | recordLaunchSuccess =>
      current.phase = .reconciling && current.reconciliationEvidence ≠ .positive
  | recordLaunchFailure =>
      current.phase = .reconciling && current.reconciliationEvidence ≠ .positive &&
        0 < saturatingSucc current.failureStreak
  | recordReapedFailure _ =>
      (current.phase = .starting || current.phase = .running) &&
        current.reconciliationEvidence = .none && 0 < saturatingSucc current.failureStreak
  | beginFailureCleanup _ =>
      current.phase = .starting && current.reconciliationEvidence = .none &&
        0 < saturatingSucc current.failureStreak
  | publishRunning =>
      current.phase = .starting && current.reconciliationEvidence = .none
  | finishFailureCleanup _ =>
      current.phase = .stopping && current.reconciliationEvidence = .none
  | resetFailureStreak =>
      current.phase = .running && current.reconciliationEvidence = .none
  | beginIdleStop cycle => current.ownedRunningCycle = some cycle
  | setPhase phase =>
      (phase = .stopped || phase = .starting || phase = .running || phase = .stopping ||
        phase = .cooldown) && current.reconciliationEvidence = .none
  | beginReconciliation =>
      current.phase = .stopped || current.phase = .cooldown || current.phase = .conflict
  | publishStoppedAfterCleanReconciliation => current.phase = .reconciling
  | publishExternal _ => current.phase = .reconciling || current.phase = .external
  | publishConflict evidence _ =>
      evidence ≠ .none && (current.phase = .reconciling || current.phase = .external)

/-- The state a publishing function builds from the current one at an instant. -/
def target (current : LifecycleState) (now : Instant) : Transition → LifecycleState
  | recordLaunchSuccess =>
    { phase := .starting
      launchGeneration := wrappingSucc current.launchGeneration
      failure := current.failure
      failureStreak := current.failureStreak
      phaseStartedAt := now
      retryAt := none
      reconciliationEvidence := .none }
  | recordLaunchFailure =>
    let failureStreak := saturatingSucc current.failureStreak
    { phase := .cooldown
      launchGeneration := wrappingSucc current.launchGeneration
      failure := some .launchFailed
      failureStreak := failureStreak
      phaseStartedAt := now
      retryAt := some (now + failureBackoff failureStreak)
      reconciliationEvidence := .none }
  | recordReapedFailure failure =>
    let failureStreak := saturatingSucc current.failureStreak
    { phase := .cooldown
      launchGeneration := current.launchGeneration
      failure := some failure
      failureStreak := failureStreak
      phaseStartedAt := now
      retryAt := some (now + failureBackoff failureStreak)
      reconciliationEvidence := .none }
  | beginFailureCleanup failure =>
    { phase := .stopping
      launchGeneration := current.launchGeneration
      failure := some failure
      failureStreak := saturatingSucc current.failureStreak
      phaseStartedAt := now
      retryAt := none
      reconciliationEvidence := .none }
  | finishFailureCleanup retryDelay =>
    { phase := .cooldown
      launchGeneration := current.launchGeneration
      failure := current.failure
      failureStreak := current.failureStreak
      phaseStartedAt := now
      retryAt := some (now + retryDelay)
      reconciliationEvidence := .none }
  | resetFailureStreak =>
    { phase := current.phase
      launchGeneration := current.launchGeneration
      failure := none
      failureStreak := 0
      phaseStartedAt := current.phaseStartedAt
      retryAt := none
      reconciliationEvidence := .none }
  | publishRunning =>
    { phase := .running
      launchGeneration := current.launchGeneration
      failure := current.failure
      failureStreak := current.failureStreak
      phaseStartedAt := now
      retryAt := none
      reconciliationEvidence := .none }
  | beginIdleStop _ =>
    { phase := .stopping
      launchGeneration := current.launchGeneration
      failure := none
      failureStreak := 0
      phaseStartedAt := now
      retryAt := none
      reconciliationEvidence := .none }
  | setPhase phase =>
    { phase := phase
      launchGeneration := current.launchGeneration
      failure := current.failure
      failureStreak := current.failureStreak
      phaseStartedAt := now
      retryAt := none
      reconciliationEvidence := .none }
  | beginReconciliation =>
    { phase := .reconciling
      launchGeneration := current.launchGeneration
      failure := current.failure
      failureStreak := current.failureStreak
      phaseStartedAt := now
      retryAt := current.retryAt
      reconciliationEvidence := current.reconciliationEvidence }
  | publishStoppedAfterCleanReconciliation =>
    { phase := .stopped
      launchGeneration := current.launchGeneration
      failure := current.failure
      failureStreak := current.failureStreak
      phaseStartedAt := now
      retryAt := none
      reconciliationEvidence := .none }
  | publishExternal consumeDemand =>
    { phase := .external
      launchGeneration :=
        if consumeDemand then wrappingSucc current.launchGeneration else current.launchGeneration
      failure := current.failure
      failureStreak := current.failureStreak
      phaseStartedAt := now
      retryAt := none
      reconciliationEvidence := .positive }
  | publishConflict evidence consumeDemand =>
    { phase := .conflict
      launchGeneration :=
        if consumeDemand then wrappingSucc current.launchGeneration else current.launchGeneration
      failure := current.failure
      failureStreak := current.failureStreak
      phaseStartedAt := now
      retryAt := none
      reconciliationEvidence := evidence }

end Transition

/-- Every failure is followed by a delay. -/
theorem failureBackoff_pos (failureStreak : Nat) : 0 < failureBackoff failureStreak := by
  unfold failureBackoff
  split <;> decide

/-- Saturation keeps an incremented streak positive. -/
theorem saturatingSucc_pos (streak : Nat) : 0 < saturatingSucc streak := by
  unfold saturatingSucc
  omega

namespace Transition

/-- A transition whose assertions hold builds a state with the evidence its
phase may carry. For `beginReconciliation` the evidence is unrestricted. -/
theorem target_invariant (transition : Transition) (current : LifecycleState) (now : Instant)
    (admitted : transition.admits current) :
    (transition.target current now).invariantHolds := by
  cases transition with
  | setPhase phase => cases phase <;> simp_all [admits, target, LifecycleState.invariantHolds]
  | resetFailureStreak => simp_all [admits, target, LifecycleState.invariantHolds]
  | publishConflict evidence consume =>
    simp_all [admits, target, LifecycleState.invariantHolds]
  | _ => simp [target, LifecycleState.invariantHolds]

end Transition

end McServerNap
