import McServerNap.Failures
import McServerNap.Lifecycle
import McServerNap.Interaction.Execution

/-!
# The runtime of one server

A `ServerRuntime` accepts clients, each in a task of its own, and keeps a supervisor. It
runs until its shutdown is requested, the supervisor ends or a client task panics. Then it
aborts and joins the clients, asks the supervisor to shut down and waits for it, at most
for its wait limit.

The branches of a `select!` are polled one after the other while the other tasks go on,
so that any branch that is ready can be the one that completes.
-/

namespace McServerNap.ServerRuntime

open Interaction

/-- What the `JoinHandle` of the supervisor yields. -/
abbrev SupervisorOutcome := Except JoinError (Except Error Unit)

/-- `RunExit`: why a runtime stops serving. -/
inductive RunExit where
  | shutdown (result : Except Error Unit)
  | supervisor (result : SupervisorOutcome)
  | clientTaskPanic (error : JoinError)
  deriving DecidableEq

/-- `Semaphore::try_acquire_owned` -/
inductive TryAcquire where
  | acquired
  | noPermits
  | closed
  deriving DecidableEq

/-- A completed branch of the `select!` in `run_until`. -/
inductive Event where
  | supervisor (result : SupervisorOutcome)
  | shutdown (result : Except Error Unit)
  | joined (completed : Option (Except JoinError Unit))
  | accepted (ok : Bool)
  deriving DecidableEq

/-- The operations of a runtime. `timeoutSupervisor` is the `timeout` around the
supervisor's handle, with the deadline that the limit sets. -/
inductive Op where
  | connectionsEmpty
  | select (joining : Bool)
  | sleep (duration : Duration)
  | tryAcquire
  | spawnClient
  | abortAll
  | joinNext
  | sendShutdown
  | now
  | timeoutSupervisor (deadline : Instant)
  | abortSupervisor
  | awaitSupervisor
  deriving DecidableEq

/-- What each operation of a runtime is answered with. -/
abbrev Reply : Op → Type
  | .connectionsEmpty => Bool
  | .select _ => Event
  | .tryAcquire => TryAcquire
  | .joinNext => Option (Except JoinError Unit)
  | .sendShutdown => Bool
  | .now => Instant
  | .timeoutSupervisor _ => Option SupervisorOutcome
  | .awaitSupervisor => SupervisorOutcome
  | .sleep _ | .spawnClient | .abortAll | .abortSupervisor => Unit

/-! ## The program -/

/-- Programs of a runtime's task. -/
abbrev Running := Program Op Reply

/-- One operation of a runtime, with its reply. -/
def access (op : Op) : Running (Reply op) := .request op

/-- The digits of a fraction after its point, without trailing zeros. -/
def fraction (width value : Nat) : String :=
  let digits := (toString value).toList
  let padded := List.replicate (width - digits.length) '0' ++ digits
  if value = 0 then "" else "." ++ String.ofList (padded.reverse.dropWhile (· = '0')).reverse

/-- The debugging form of a `Duration`. -/
def debugDuration (duration : Duration) : String :=
  if 1000000000 ≤ duration then
    toString (duration / 1000000000) ++ fraction 9 (duration % 1000000000) ++ "s"
  else if 1000000 ≤ duration then
    toString (duration / 1000000) ++ fraction 6 (duration % 1000000) ++ "ms"
  else if 1000 ≤ duration then
    toString (duration / 1000) ++ fraction 3 (duration % 1000) ++ "µs"
  else toString duration ++ "ns"

/-- The loop of `run_until`: why it ends. -/
def serve : Running RunExit :=
  .loop (fun _ : Unit => do
    let empty ← access .connectionsEmpty
    match ← access (.select !empty) with
    | .supervisor result => return .leave (.supervisor result)
    | .shutdown result => return .leave (.shutdown result)
    | .joined (some (.error error)) => return .leave (.clientTaskPanic error)
    | .joined _ => return .again ()
    | .accepted false =>
      access (.sleep 100000000)
      return .again ()
    | .accepted true =>
      match ← access .tryAcquire with
      | .acquired =>
        access .spawnClient
        return .again ()
      | .noPermits => return .again ()
      | .closed =>
        return .leave (.shutdown (.error (.msg "connection limiter unexpectedly closed")))) ()

/-- The clients that were aborted are joined. The first panic among them is kept. -/
def joinClients : Running (Option Error) :=
  .loop (fun cleanupClientPanic => do
    match ← access .joinNext with
    | none => return .leave cleanupClientPanic
    | some (.ok ()) => return .again cleanupClientPanic
    | some (.error error) =>
      if error.isPanic && cleanupClientPanic.isNone then
        return .again (some (.msg ("client task panicked: " ++ error.display)))
      return .again cleanupClientPanic) none

/-- `await_supervisor_shutdown`: the supervisor is waited for up to the limit, and given up
then. -/
def awaitSupervisorShutdown (waitLimit : Duration) : Running (Except Error Unit) := do
  let begun ← access .now
  match ← access (.timeoutSupervisor (begun + waitLimit)) with
  | some (.ok result) => return result
  | some (.error error) =>
    return .error ((Error.msg error.display).context "server supervisor task failed")
  | none =>
    access .abortSupervisor
    let _ ← access .awaitSupervisor
    return .error (.msg ("server supervisor did not stop within " ++ debugDuration waitLimit))

/-- The end of `run_until`: the supervisor is asked to stop and waited for, and an error of its
own is added to the one at hand. -/
def finishShutdown (waitLimit : Duration) (shutdownResult : Except Error Unit) :
    Running (Except Error Unit) := do
  let shutdownRequested ← access .sendShutdown
  let awaited ← awaitSupervisorShutdown waitLimit
  let cleanupResult :=
    if !shutdownRequested && awaited.isOk then
      .error (.msg "server supervisor stopped before shutdown was requested")
    else awaited
  match shutdownResult, cleanupResult with
  | .ok (), .ok () => return .ok ()
  | .error error, .ok () | .ok (), .error error => return .error error
  | .error shutdownError, .error cleanupError =>
    return .error (shutdownError.context ("runtime cleanup also failed: " ++ cleanupError.chain))

/-- What the supervisor's end means while it should be running. -/
def unexpectedEnd : SupervisorOutcome → Except Error Unit
  | .error error =>
    .error (.msg ("supervisor panicked; cleanup of this runtime is uncertain: " ++ error.display))
  | .ok (.error error) => .error (error.context "server supervisor failed")
  | .ok (.ok ()) => .error (.msg "server supervisor stopped unexpectedly")

/-- `run_until`, for a runtime with a wait limit for its supervisor. -/
def runUntil (waitLimit : Duration) : Running (Except Error Unit) := do
  let exit ← serve
  access .abortAll
  let cleanupClientPanic ← joinClients
  match exit with
  | .supervisor result => return combineRuntimeErrors (unexpectedEnd result) cleanupClientPanic
  | .shutdown shutdownResult =>
    finishShutdown waitLimit (combineRuntimeErrors shutdownResult cleanupClientPanic)
  | .clientTaskPanic error =>
    let clientPanic := .error (.msg ("client task panicked: " ++ error.display))
    finishShutdown waitLimit (combineRuntimeErrors clientPanic cleanupClientPanic)

/-! ## The platform -/

/-- A client task in the `JoinSet`. -/
inductive ClientTask where
  | running
  | ended (result : Except JoinError Unit)
  deriving DecidableEq

/-- The supervisor's task. When its body has ended, its end of the shutdown channel is
gone; a little later the task can be joined. -/
inductive SupervisorTask where
  | running
  | closing (outcome : SupervisorOutcome)
  | ended (outcome : SupervisorOutcome) (endedAt : Instant)
  deriving DecidableEq

/-- `requested` is the state of the daemon's shutdown, as far as the runtime has been
notified of it, and `delivered` the flag that its shutdown future sets. `aborting` says
that `abort_all` was called, and `aborted` that the supervisor was aborted. -/
structure World where
  clock : Instant
  requested : Bool
  delivered : Bool
  limiterClosed : Bool
  clients : List ClientTask
  aborting : Bool
  supervisor : SupervisorTask
  aborted : Bool
  deriving DecidableEq

/-- What happens while the runtime waits: time passes, the shutdown is requested, a client
task ends, the supervisor's body ends and its task does. -/
inductive Move where
  | tick (elapsed : Duration)
  | request
  | closeLimiter
  | clientEnds (client : Nat) (result : Except JoinError Unit)
  | supervisorReturns (outcome : SupervisorOutcome)
  | supervisorEnds
  deriving DecidableEq

namespace World

/-- A runtime that has just been activated. -/
def initial : World where
  clock := 0
  requested := false
  delivered := false
  limiterClosed := false
  clients := []
  aborting := false
  supervisor := .running
  aborted := false

/-- `join_next` takes a task that has ended out of the set, or finds the set empty. -/
def joinNext (world : World) : Option (Except JoinError Unit) → Option World
  | none => if world.clients.isEmpty then some world else none
  | some result =>
    if .ended result ∈ world.clients then
      some { world with clients := world.clients.erase (.ended result) }
    else none

/-- The supervisor's task can be joined with this outcome. -/
def supervisorYields (world : World) (outcome : SupervisorOutcome) : Bool :=
  match world.supervisor with
  | .ended ended _ => ended = outcome
  | _ => false

/-- A `timeout` polls the task before its deadline, so that it only elapses for a task
that has not ended before. -/
def supervisorLate (world : World) (deadline : Instant) : Bool :=
  deadline ≤ world.clock &&
    match world.supervisor with
    | .ended _ endedAt => deadline ≤ endedAt
    | _ => true

/-- The limiter is shared, so that permits may be missing at any time. A pause may take
any time, too. -/
def perform (world : World) : (op : Op) → Reply op → Option World
  | .connectionsEmpty, empty => if empty = world.clients.isEmpty then some world else none
  | .select _, .supervisor outcome => if world.supervisorYields outcome then some world else none
  | .select _, .shutdown result =>
    if world.requested && result = .ok () then some { world with delivered := true } else none
  | .select joining, .joined completed => if joining then world.joinNext completed else none
  | .select _, .accepted _ => some world
  | .sleep _, _ => some world
  | .tryAcquire, permit =>
    if decide (permit = .closed) = world.limiterClosed then some world else none
  | .spawnClient, _ => some { world with clients := world.clients ++ [.running] }
  | .abortAll, _ => some { world with aborting := true }
  | .joinNext, completed => world.joinNext completed
  | .sendShutdown, ok => if ok = decide (world.supervisor = .running) then some world else none
  | .now, reading => if reading = world.clock then some world else none
  | .timeoutSupervisor _, some outcome =>
    if world.supervisorYields outcome then some world else none
  | .timeoutSupervisor deadline, none =>
    if world.supervisorLate deadline then some world else none
  | .abortSupervisor, _ => some { world with aborted := true }
  | .awaitSupervisor, outcome => if world.supervisorYields outcome then some world else none

/-- A task is only cancelled after it was aborted. -/
def move (world : World) : Move → Option World
  | .tick elapsed => some { world with clock := world.clock + elapsed }
  | .request => some { world with requested := true }
  | .closeLimiter => some { world with limiterClosed := true }
  | .clientEnds client result =>
    if world.clients[client]? = some .running ∧ (wasCancelled result → world.aborting) then
      some { world with clients := world.clients.set client (.ended result) }
    else none
  | .supervisorReturns outcome =>
    if world.supervisor = .running ∧ (wasCancelled outcome → world.aborted) then
      some { world with supervisor := .closing outcome }
    else none
  | .supervisorEnds =>
    match world.supervisor with
    | .closing outcome => some { world with supervisor := .ended outcome world.clock }
    | _ => none

end World

/-- The surroundings of one runtime. -/
def platform : Platform Op Reply where
  World := World
  Move := Move
  perform := World.perform
  disturb world _ move := world.move move

end McServerNap.ServerRuntime
