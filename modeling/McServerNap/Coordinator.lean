import McServerNap.Interaction.Party
import McServerNap.Runtime

/-!
# The coordinator of the daemon

`activate_and_run` activates the bound runtimes, each in a monitoring task, and waits for
all of them and for the signal watcher. Every task reports its failures to one `Shutdown`,
which keeps them and requests the shutdown of all runtimes at once.

The world of the coordinator contains its runtimes as parties, each with its own program
and surroundings. `Shutdown::fail` records an error and requests the shutdown under one
lock, so that both are one step here.
-/

namespace McServerNap.Coordinator

open Interaction

/-- The place of a task in the order of activation stands for its `tokio::task::Id`. -/
abbrev TaskId := Nat

/-- `SignalWatcherExit`. -/
inductive SignalWatcherExit where
  | shutdownRequested
  | failureReported
  deriving DecidableEq

/-- What the handle of the signal watcher yields. -/
abbrev WatcherResult := Except JoinError SignalWatcherExit

/-- Results of the watcher can be compared. -/
instance : DecidableEq WatcherResult := decideExcept

/-- A bound server, as far as its activation needs it. -/
structure BoundServer where
  context : String
  waitLimit : Duration
  deriving DecidableEq

/-- A runtime's monitoring task that was joined. -/
structure Completed where
  task : TaskId
  result : Except JoinError Unit
  deriving DecidableEq

/-- `UnboundedReceiver::try_recv` -/
inductive TryRecv where
  | received
  | empty
  | disconnected
  deriving DecidableEq

/-- A completed branch of the coordinator's `select!`. -/
inductive Event where
  | infrastructure (failure : Option Unit)
  | watcher (result : WatcherResult)
  | runtime (completed : Option Completed)
  deriving DecidableEq

/-- The operations of the coordinator. `spawnRuntime` activates a server and spawns its
monitoring task, and `takeFailures` empties what was recorded. -/
inductive Op where
  | yieldNow
  | tryRecvFailure
  | watcherFinished
  | awaitWatcher
  | abortWatcher
  | tryJoinNext
  | runtimesEmpty
  | isPending
  | spawnRuntime (server : BoundServer)
  | select (receiving watching : Bool)
  | fail (error : Error)
  | takeFailures
  deriving DecidableEq

/-- What each operation of the coordinator is answered with. -/
abbrev Reply : Op → Type
  | .tryRecvFailure => TryRecv
  | .watcherFinished | .runtimesEmpty | .isPending => Bool
  | .awaitWatcher => WatcherResult
  | .tryJoinNext => Option Completed
  | .spawnRuntime _ => TaskId
  | .select _ _ => Event
  | .takeFailures => FatalErrors
  | .yieldNow | .abortWatcher | .fail _ => Unit

/-! ## The program -/

/-- Programs of the coordinator. -/
abbrev Coordinating := Program Op Reply

/-- One operation of the coordinator, with its reply. -/
def access (op : Op) : Coordinating (Reply op) := .request op

/-- `CoordinatorState` -/
structure CoordinatorState where
  infrastructureClosed : Bool
  watcherFailureReceived : Bool
  watcherObserved : Bool
  deriving DecidableEq

/-- `CoordinatorState::default` -/
def CoordinatorState.default : CoordinatorState := ⟨false, false, false⟩

/-- The contexts of the tasks that run. -/
abbrev Contexts := List (TaskId × String)

/-- A runtime is entered under the id of its monitoring task. -/
def Contexts.insert (contexts : Contexts) (task : TaskId) (context : String) : Contexts :=
  (task, context) :: contexts.filter (·.1 ≠ task)

/-- A joined task is struck out. -/
def Contexts.remove (contexts : Contexts) (task : TaskId) : Contexts :=
  contexts.filter (·.1 ≠ task)

/-- `Shutdown::fail` -/
def fail (error : Error) : Coordinating Unit := access (.fail error)

namespace CoordinatorState

/-- `record_infrastructure_failure`. -/
def recordInfrastructureFailure (state : CoordinatorState) : CoordinatorState :=
  { state with watcherFailureReceived := true }

/-- `drain_infrastructure`: messages are taken until there is none, or no sender is left. -/
def drainInfrastructure (state : CoordinatorState) : Coordinating CoordinatorState :=
  .loop (fun state : CoordinatorState => do
    match ← access .tryRecvFailure with
    | .received => return .again state.recordInfrastructureFailure
    | .empty => return .leave state
    | .disconnected => return .leave { state with infrastructureClosed := true }) state

/-- `observe_watcher`: whatever the watcher returns is a failure unless it says why the daemon
stops. -/
def observeWatcher (state : CoordinatorState) (result : WatcherResult) :
    Coordinating CoordinatorState := do
  let state ← drainInfrastructure { state with watcherObserved := true }
  match result with
  | .ok .shutdownRequested =>
    if !(← access .isPending) then
      fail (.msg "signal watcher returned after a signal without requesting shutdown")
    return state
  | .ok .failureReported =>
    if !state.watcherFailureReceived then
      fail (.msg "signal watcher stopped after a failure without reporting its cause")
    return state
  | .error error =>
    fail (.msg ("signal watcher task panicked or was cancelled: " ++ error.display))
    return state

/-- `observe_runtime` -/
def observeRuntime (contexts : Contexts) (completed : Completed) : Coordinating Contexts := do
  match completed.result with
  | .ok () => return contexts.remove completed.task
  | .error error =>
    let context := (contexts.lookup completed.task).getD "unknown"
    fail (.msg ("[server=" ++ context ++ "] runtime monitor task panicked: " ++ error.display))
    return contexts.remove completed.task

end CoordinatorState

open CoordinatorState

/-- The monitoring tasks that have completed are joined. -/
def joinCompleted (contexts : Contexts) : Coordinating Contexts :=
  .loop (fun contexts => do
    match ← access .tryJoinNext with
    | some completed => return .again (← observeRuntime contexts completed)
    | none => return .leave contexts) contexts

/-- `observe_watcher` for a watcher that has finished, or has closed its channel and is about
to, unless it was observed before. -/
def observeFinished (state : CoordinatorState) (closed : Bool) :
    Coordinating CoordinatorState := do
  if state.watcherObserved then
    return state
  let finished ← access .watcherFinished
  if finished || closed then
    let result ← access .awaitWatcher
    observeWatcher state result
  else
    return state

/-- `observe_pending_events`, in the order of the source: messages first, then the watcher, then
the runtimes. -/
def observePendingEvents (state : CoordinatorState) (contexts : Contexts) :
    Coordinating (CoordinatorState × Contexts) := do
  access .yieldNow
  let state ← drainInfrastructure state
  let state ← observeFinished state false
  let contexts ← joinCompleted contexts
  return (state, contexts)

/-- `spawn_runtime`, for the coordinator's part. -/
def spawnRuntime (contexts : Contexts) (server : BoundServer) : Coordinating Contexts := do
  let task ← access (.spawnRuntime server)
  return contexts.insert task server.context

/-- The loop over the bound servers. It stops when a shutdown is pending. -/
def activate (state : CoordinatorState) (contexts : Contexts) :
    List BoundServer → Coordinating (CoordinatorState × Contexts)
  | [] => return (state, contexts)
  | server :: rest => do
    let (state, contexts) ← observePendingEvents state contexts
    if ← access .isPending then
      return (state, contexts)
    let contexts ← spawnRuntime contexts server
    activate state contexts rest

/-- The loop that waits for all runtimes. -/
def awaitRuntimes (state : CoordinatorState) (contexts : Contexts) : Coordinating CoordinatorState :=
  .loop (fun (state, contexts) => do
    if ← access .runtimesEmpty then
      return .leave state
    match ← access (.select (!state.infrastructureClosed) (!state.watcherObserved)) with
    | .infrastructure (some ()) => return .again (state.recordInfrastructureFailure, contexts)
    | .infrastructure none => return .again ({ state with infrastructureClosed := true }, contexts)
    | .watcher result => return .again (← observeWatcher state result, contexts)
    | .runtime (some completed) => return .again (state, ← observeRuntime contexts completed)
    | .runtime none => return .leave state) (state, contexts)

/-- The watcher is observed at last, or aborted while it is still pending. -/
def concludeWatcher (state : CoordinatorState) : Coordinating CoordinatorState := do
  let state ← observeFinished state state.infrastructureClosed
  if state.watcherObserved then
    return state
  access .abortWatcher
  let result ← access .awaitWatcher
  if wasCancelled result then
    return state
  observeWatcher state result

/-- `activate_and_run` -/
def activateAndRun (servers : List BoundServer) : Coordinating (Except Error Unit) := do
  let (state, contexts) ← activate .default [] servers
  let (state, contexts) ← observePendingEvents state contexts
  let state ← awaitRuntimes state contexts
  let state ← drainInfrastructure state
  let state ← concludeWatcher state
  let _ ← drainInfrastructure state
  let failures ← access .takeFailures
  return failures.finish

/-! ## The platform -/

/-- What the match of `spawn_runtime` makes of a runtime's end. -/
def runtimeFailure (context : String) (result : Except JoinError (Except Error Unit))
    (shutdownWasDelivered : Bool) : Option Error :=
  match result, shutdownWasDelivered with
  | .ok (.ok ()), true => none
  | .ok (.ok ()), false =>
    some (.msg ("[server=" ++ context ++
      "] complete runtime stopped unexpectedly before shutdown"))
  | .ok (.error error), _ => some (.msg ("[server=" ++ context ++ "] " ++ error.chain))
  | .error error, _ =>
    some (.msg ("[server=" ++ context ++
      "] complete runtime panicked; cleanup of this runtime is uncertain: " ++ error.display))

/-- The task that monitors a runtime waits for it, may have a failure to report, and ends. -/
inductive MonitorTask where
  | awaiting
  | failing (error : Error)
  | ended (result : Except JoinError Unit)
  deriving DecidableEq

/-- A runtime with its task and the task that monitors it. `crashed` is the text of the
runtime's panic, and `joined` says that the coordinator has joined the monitoring task. -/
structure RuntimeTask where
  server : BoundServer
  runtime : Configuration ServerRuntime.platform (Except Error Unit)
  crashed : Option String
  monitor : MonitorTask
  joined : Bool

namespace RuntimeTask

/-- `BoundServerRuntime::activate`, and the tasks that `spawn_runtime` spawns. -/
def spawn (server : BoundServer) : RuntimeTask where
  server := server
  runtime := .fresh _ (ServerRuntime.runUntil server.waitLimit) ServerRuntime.World.initial
  crashed := none
  monitor := .awaiting
  joined := false

/-- What the handle of the runtime's task yields once it has ended. -/
def outcome (task : RuntimeTask) : Option (Except JoinError (Except Error Unit)) :=
  match task.crashed with
  | some display => some (.error (.panicked display))
  | none => task.runtime.program.value.map .ok

/-- The monitoring task can be joined with this result. -/
def yields (task : RuntimeTask) (result : Except JoinError Unit) : Bool :=
  !task.joined && task.monitor = .ended result

end RuntimeTask

/-- The signal watcher. After its arming it waits for a signal, or has already got one. A
returned task still owns its sender; then it drops it, and then it can be joined. -/
inductive WatcherTask where
  | watching
  | signalled
  | failing (error : Error)
  | reporting
  | returned (result : WatcherResult)
  | dropped (result : WatcherResult)
  | ended (result : WatcherResult)
  deriving DecidableEq

/-- The watcher's sender of infrastructure messages exists. -/
def WatcherTask.sends : WatcherTask → Bool
  | .dropped _ | .ended _ => false
  | _ => true

/-- `JoinHandle::is_finished`. -/
def WatcherTask.isFinished : WatcherTask → Bool
  | .ended _ => true
  | _ => false

/-- What the coordinator shares with the signal watcher and the monitoring tasks: the pending
shutdown, the record of failures, the messages in the channel, and the tasks themselves. -/
structure World where
  pending : Bool
  failures : FatalErrors
  messages : Nat
  watcher : WatcherTask
  aborted : Bool
  limiterClosed : Bool
  runtimes : List RuntimeTask

/-- A step of the signal watcher. `quits` covers the returns of `arm` that neither request
the shutdown nor report a failure. -/
inductive WatcherStep where
  | signal
  | request
  | listenerFails (error : Error)
  | report (error : Error)
  | send
  | quits (exit : SignalWatcherExit)
  | panics (display : String)
  | cancels (display : String)
  | drops
  | ends
  deriving DecidableEq

/-- A step of a runtime's two tasks. -/
inductive RuntimeStep where
  | advances (step : Advance ServerRuntime.Op ServerRuntime.Reply ServerRuntime.Move)
  | crashes (display : String)
  | joins
  | fails (error : Error)
  | monitorPanics (display : String)

/-- What the others do: a step of the watcher, a step of a runtime's tasks, or the closing of the
limiter. -/
inductive Move where
  | watcher (step : WatcherStep)
  | runtime (task : TaskId) (step : RuntimeStep)
  | closeLimiter

namespace World

/-- The daemon after its watcher was armed, with or without a signal. -/
def initial (signalled : Bool) : World where
  pending := false
  failures := .empty
  messages := 0
  watcher := if signalled then .signalled else .watching
  aborted := false
  limiterClosed := false
  runtimes := []

/-- `Shutdown::fail` -/
def fail (world : World) (error : Error) : World :=
  { world with failures := world.failures.record error, pending := true }

/-- The set of runtimes is left without the task that was joined. A completion may go
unnoticed for a while. -/
def joins (world : World) : Option Completed → Option World
  | none => some world
  | some completed =>
    match world.runtimes[completed.task]? with
    | none => none
    | some task =>
      if task.yields completed.result then
        some { world with runtimes := world.runtimes.set completed.task { task with joined := true } }
      else none

/-- No monitoring task is left to join. -/
def runtimesEmpty (world : World) : Bool := world.runtimes.all (·.joined)

/-- What each operation with its reply does, and when it may be answered so. There is no result
for a reply that this world does not give. -/
def perform (world : World) : (op : Op) → Reply op → Option World
  | .yieldNow, _ => some world
  | .tryRecvFailure, .received =>
    if 0 < world.messages then some { world with messages := world.messages - 1 } else none
  | .tryRecvFailure, .empty =>
    if world.messages = 0 ∧ world.watcher.sends then some world else none
  | .tryRecvFailure, .disconnected =>
    if world.messages = 0 ∧ !world.watcher.sends then some world else none
  | .watcherFinished, finished =>
    if finished = world.watcher.isFinished then some world else none
  | .awaitWatcher, result => if world.watcher = .ended result then some world else none
  | .abortWatcher, _ => some { world with aborted := true }
  | .tryJoinNext, completed => world.joins completed
  | .runtimesEmpty, empty => if empty = world.runtimesEmpty then some world else none
  | .isPending, pending => if pending = world.pending then some world else none
  | .spawnRuntime server, task =>
    if task = world.runtimes.length then
      some { world with runtimes := world.runtimes ++ [.spawn server] }
    else none
  | .select receiving _, .infrastructure (some ()) =>
    if receiving ∧ 0 < world.messages then some { world with messages := world.messages - 1 }
    else none
  | .select receiving _, .infrastructure none =>
    if receiving ∧ world.messages = 0 ∧ !world.watcher.sends then some world else none
  | .select _ watching, .watcher result =>
    if watching ∧ world.watcher = .ended result then some world else none
  | .select _ _, .runtime (some completed) => world.joins (some completed)
  | .select _ _, .runtime none => if world.runtimesEmpty then some world else none
  | .fail error, _ => some (world.fail error)
  | .takeFailures, failures =>
    if failures = world.failures then some { world with failures := .empty } else none

/-- The watcher is only cancelled where it waits, and after it was aborted. -/
def watch (world : World) : WatcherStep → Option World
  | .signal =>
    if world.watcher = .watching then some { world with watcher := .signalled } else none
  | .request =>
    if world.watcher = .signalled then
      some { world with pending := true, watcher := .returned (.ok .shutdownRequested) }
    else none
  | .listenerFails error =>
    if world.watcher = .watching then some { world with watcher := .failing error } else none
  | .report error =>
    if world.watcher = .failing error then some { world.fail error with watcher := .reporting }
    else none
  | .send =>
    if world.watcher = .reporting then
      some { world with messages := world.messages + 1, watcher := .returned (.ok .failureReported) }
    else none
  | .quits exit =>
    if world.watcher = .watching then some { world with watcher := .returned (.ok exit) } else none
  | .panics display =>
    match world.watcher with
    | .watching | .signalled | .failing _ | .reporting =>
      some { world with watcher := .returned (.error (.panicked display)) }
    | _ => none
  | .cancels display =>
    if world.watcher = .watching ∧ world.aborted then
      some { world with watcher := .returned (.error (.cancelled display)) }
    else none
  | .drops =>
    match world.watcher with
    | .returned result => some { world with watcher := .dropped result }
    | _ => none
  | .ends =>
    match world.watcher with
    | .dropped result => some { world with watcher := .ended result }
    | _ => none

/-- The runtime is notified of the shutdown only once it is pending, and finds the
limiter closed only once it is. -/
def allows (world : World) : Advance ServerRuntime.Op ServerRuntime.Reply ServerRuntime.Move → Bool
  | .move .request => world.pending
  | .move .closeLimiter => world.limiterClosed
  | _ => true

/-- What a step makes of the runtime's two tasks. A task that panicked does nothing more,
and a monitoring task may panic at any time. -/
def advanceTask (world : World) (task : RuntimeTask) : RuntimeStep → Option RuntimeTask
  | .advances step =>
    if task.crashed.isNone ∧ world.allows step then
      (task.runtime.advance step).map fun runtime => { task with runtime := runtime }
    else none
  | .crashes display =>
    if task.outcome.isNone then some { task with crashed := some display } else none
  | .joins =>
    match task.monitor, task.outcome with
    | .awaiting, some result => some { task with
        monitor :=
          match runtimeFailure task.server.context result task.runtime.world.delivered with
          | none => .ended (.ok ())
          | some error => .failing error }
    | _, _ => none
  | .fails error =>
    if task.monitor = .failing error then some { task with monitor := .ended (.ok ()) } else none
  | .monitorPanics display =>
    match task.monitor with
    | .ended _ => none
    | _ => some { task with monitor := .ended (.error (.panicked display)) }

/-- A move of the others. A monitoring task that fails records its error in the same step. -/
def move (world : World) : Move → Option World
  | .watcher step => world.watch step
  | .runtime task step =>
    (world.runtimes[task]?).bind fun present =>
      (world.advanceTask present step).map fun after =>
        let advanced := { world with runtimes := world.runtimes.set task after }
        match step with
        | .fails error => advanced.fail error
        | _ => advanced
  | .closeLimiter => some { world with limiterClosed := true }

end World

/-- The coordinator's surroundings. -/
def platform : Platform Op Reply where
  World := World
  Move := Move
  perform := World.perform
  disturb world _ move := world.move move

end McServerNap.Coordinator
