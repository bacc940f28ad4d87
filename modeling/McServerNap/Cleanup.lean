import McServerNap.Control

/-!
# Stopping and reaping the owned process

`stop_and_reap` asks the server to stop over RCON or its console, waits for it,
and otherwise kills its process tree and waits again. Two callers poll it next
to the control channels: a startup failure's cleanup and a committed idle stop
keep receiving wake requests meanwhile. The awaits of the stop sequence are
therefore a parameter, so that the same sequence runs on its own or beside the
channels. Beside them each of its awaits polls the channels first, and an event
of a channel leaves the sequence where it is.
-/

namespace McServerNap

open Interaction SupervisorControl

/-- How a program waits for one of its own sources while keeping a state. -/
abbrev Awaiting (σ : Type) := σ → List Source → Supervised (σ × Event)

/-- The plain await. -/
def alone : Awaiting Unit := fun _ sources => do
  return ((), ← select sources)

section Stop

variable {σ : Type} (config : SupervisorConfig) (await : Awaiting σ)

/-- `terminate_direct_after_tree_failure`: an error in every case. -/
def terminateDirectAfterTreeFailure (held : σ) : Supervised (σ × Except SupervisorError Unit) := do
  match ← access .tryWait with
  | TryWaitResult.exited => return (held, .error .termination)
  | _ => do
    let (held, _) ← await held [.kill]
    return (held, .error .termination)

/-- `process::terminate`. -/
def terminate (held : σ) : Supervised (σ × Except SupervisorError Unit) := do
  match ← access .tryWait with
  | TryWaitResult.failed => return (held, .error .termination)
  | TryWaitResult.exited => return (held, .ok ())
  | TryWaitResult.running => do
    let (held, event) ← await held [.killTree]
    match event with
    | .killTree .killed => return (held, .ok ())
    | .killTree .unavailable => return (held, .error .termination)
    | _ => terminateDirectAfterTreeFailure await held

/-- `send_console_stop_before`. -/
def sendConsoleStopBefore (held : σ) (deadline : Instant) : Supervised (σ × Bool) := do
  let (held, event) ← await held [.consoleStop, .sleepUntil .command deadline]
  return (held, event = .consoleStop true)

/-- The command part of `stop_and_reap`: whether a graceful stop was sent. A
command that timed out is not retried on the console. -/
def sendGracefulStop (held : σ) : Supervised (σ × Bool) := do
  let commandDeadline := (← now) + config.commandTimeout
  if config.rcon then
    let (held, event) ← await held [.rconStop, .sleepUntil .command commandDeadline]
    match event with
    | .rconStop true => return (held, true)
    | .rconStop false => sendConsoleStopBefore await held commandDeadline
    | _ => return (held, false)
  else
    sendConsoleStopBefore await held commandDeadline

/-- The forced part of `stop_and_reap`, after an optional error of the graceful
wait. -/
def terminateAndReap (held : σ) (waitError : Bool) :
    Supervised (σ × Except SupervisorError Unit) := do
  let (held, termination) ← terminate await held
  let reapDeadline := (← now) + seconds 5
  let (held, event) ← await held [.child, .sleepUntil .reap reapDeadline]
  match event with
  | .child .exited =>
    match termination with
    | .error error => return (held, .error error)
    | .ok () => return (held, if waitError then .error .gracefulWait else .ok ())
  | .child .failed => return (held, .error .reap)
  | _ => return (held, .error .stillRunning)

/-- `stop_and_reap`. -/
def stopAndReap (held : σ) : Supervised (σ × Except SupervisorError Unit) := do
  let (held, gracefulStopSent) ← sendGracefulStop config await held
  if gracefulStopSent then
    let gracefulDeadline := (← now) + config.shutdownTimeout
    let (held, event) ← await held [.child, .sleepUntil .graceful gracefulDeadline]
    match event with
    | .child .exited => return (held, .ok ())
    | .child .failed => terminateAndReap await held true
    | _ => terminateAndReap await held false
  else
    terminateAndReap await held false

end Stop

/-- How one launch cycle ended. -/
inductive CycleOutcome where
  | stopped
  | restart
  | failed (retryAt : Instant) (retryPending : Bool)
  | shutdown
  deriving DecidableEq, Repr

/-- The result of a launch cycle; an error ends the supervisor. -/
abbrev CycleResult := Except SupervisorError CycleOutcome

/-- What a cleanup polled beside the channels has learned from them. -/
structure Latch where
  pending : Bool
  shutdownReceived : Bool
  deriving DecidableEq, Repr

/-- The loops of `finish_failed_cleanup` and `stop_committed_idle_server` around
one await of the cleanup. A request is received only while none is latched, and
after a shutdown the cleanup runs on alone. -/
def beside (latches : WakeRequest → LifecycleState → Bool) : Awaiting Latch :=
  fun latch sources => Program.loop (fun latch => do
    if latch.shutdownReceived then
      return .leave (latch, ← select sources)
    let channels := if latch.pending then [.shutdown] else [.shutdown, .wake]
    match ← select (channels ++ sources) with
    | .shutdown => return .again { latch with shutdownReceived := true }
    | .wake none => return .again { latch with shutdownReceived := true }
    | .wake (some request) => do
      let accepted := latches request (← currentLifecycle)
      answer request accepted
      return .again { latch with pending := accepted }
    | event => return .leave (latch, event)) latch

/-- `reaped_failure`. -/
def reapedFailure (failure : FailureCategory) : Supervised CycleOutcome := do
  let retryAt ← recordReapedFailure failure
  return .failed retryAt false

/-- `reap_after_wait_error`. It never succeeds. -/
def reapAfterWaitError (config : SupervisorConfig) : Supervised CycleResult := do
  setPhase .stopping
  let (_, cleanup) ← stopAndReap config alone ()
  match cleanup with
  | .error _ => return .error .cleanupAfterWait
  | .ok () => do
    setPhase .stopped
    return .error .wait

/-- `stop_for_shutdown`. -/
def stopForShutdown (config : SupervisorConfig) : Supervised CycleResult := do
  setPhase .stopping
  let (_, cleanup) ← stopAndReap config alone ()
  match cleanup with
  | .error error => return .error error
  | .ok () => return .ok .shutdown

/-- `process_wait_outcome`. -/
def processWaitOutcome (config : SupervisorConfig) (status : WaitResult)
    (failure : FailureCategory) : Supervised CycleResult :=
  match status with
  | .exited => do return .ok (← reapedFailure failure)
  | .failed => reapAfterWaitError config

/-- `finish_failed_cleanup`. -/
def finishFailedCleanup (config : SupervisorConfig) (retryDelay : Duration) :
    Supervised CycleResult := do
  let (latch, cleanup) ← stopAndReap config (beside WakeRequest.requestsRetry) ⟨false, false⟩
  match cleanup with
  | .error error => return .error error
  | .ok () => do
    if latch.shutdownReceived then
      return .ok .shutdown
    if ← shutdownPending then
      return .ok .shutdown
    let retryAt ← finishFailureCleanup retryDelay
    return .ok (.failed retryAt latch.pending)

/-- `stop_failed_server`. -/
def stopFailedServer (config : SupervisorConfig) (failure : FailureCategory) :
    Supervised CycleResult := do
  let retryDelay ← beginFailureCleanup failure
  finishFailedCleanup config retryDelay

/-- The final drain of the wake channel after an idle stop: whether to restart,
or that all senders are gone. -/
def drainRestarts (restart : Bool) : Supervised CycleOutcome :=
  Program.loop (fun restart => do
    match ← access .tryRecvWake with
    | TryRecvWake.received request => do
      let accepted := request.requestsRestart (← currentLifecycle)
      answer request accepted
      return .again (restart || accepted)
    | TryRecvWake.empty => return .leave (if restart then .restart else .stopped)
    | TryRecvWake.disconnected => return .leave .shutdown) restart

/-- `stop_committed_idle_server`. -/
def stopCommittedIdleServer (config : SupervisorConfig) : Supervised CycleResult := do
  let stopping ← currentLifecycle
  assert (stopping.phase = .stopping && stopping.failure = none && stopping.failureStreak = 0)
  let (latch, cleanup) ← stopAndReap config (beside WakeRequest.requestsRestart) ⟨false, false⟩
  match cleanup with
  | .error error => return .error error
  | .ok () => do
    if latch.shutdownReceived then
      return .ok .shutdown
    if ← shutdownPending then
      return .ok .shutdown
    return .ok (← drainRestarts latch.pending)

end McServerNap
