import McServerNap.BackendUse
import McServerNap.Reconciliation
import McServerNap.Interaction.Execution

/-!
# The world around one supervisor

A supervisor shares with client tasks a published lifecycle, a wake channel with
one slot, a shutdown oneshot, the backend-use gate and the activity record, and
it owns at most one child process. Each of its operations below is one atomic
access to that world. Client tasks, shutdown requests and the clock move between
any two operations, so the executions contain every interleaving of a parallel
runtime, not only those that switch tasks at an `await`.

`select` models one biased `tokio::select!`: sources are polled in order and the
first that is ready wins. A timeout around a future is that future followed by a
deadline. Replies from outside the process, such as a connection's outcome or a
child's exit, may come at any time and with any content.
-/

namespace McServerNap

open Interaction

/-- The deadlines the supervisor sleeps towards. -/
inductive Timer where
  | cooldown
  | externalPoll
  | connectAttempt
  | readinessRetry
  | stability
  | playerPoll
  | idleDeadline
  | command
  | graceful
  | reap
  deriving DecidableEq, Repr

/-- One branch of a `select!`. The last group stands for calls to the network or
to the operating system. -/
inductive Source where
  | shutdown
  | wake
  | activity
  | exclusive
  | sleepUntil (timer : Timer) (deadline : Instant)
  | child
  | probe
  | connect
  | rconConnect
  | rconList
  | rconStop
  | consoleStop
  | killTree
  | kill
  deriving DecidableEq, Repr

/-- `OwnedProcess::wait`: a status, or an error of the operating system. -/
inductive WaitResult where
  | exited
  | failed
  deriving DecidableEq, Repr

/-- `OwnedProcess::try_wait`. -/
inductive TryWaitResult where
  | exited
  | running
  | failed
  deriving DecidableEq, Repr

/-- The outcome of killing the process tree. `unavailable` covers the missing or
unrepresentable process identifier, which the source reports without trying the
direct child. -/
inductive TreeKill where
  | killed
  | unavailable
  | failed
  deriving DecidableEq, Repr

/-- A branch that completed, with its value. -/
inductive Event where
  | shutdown
  | wake (request : Option WakeRequest)
  | activity
  | exclusive
  | elapsed (timer : Timer)
  | child (result : WaitResult)
  | probe (observation : ProbeObservation)
  | connect (ok : Bool)
  | rconConnect (ok : Bool)
  | rconList (response : Option (List Char))
  | rconStop (ok : Bool)
  | consoleStop (ok : Bool)
  | killTree (outcome : TreeKill)
  | kill (ok : Bool)
  deriving DecidableEq, Repr

/-- The events a source can complete with. -/
def Source.offers : Source → Event → Bool
  | .shutdown, .shutdown => true
  | .wake, .wake _ => true
  | .activity, .activity => true
  | .exclusive, .exclusive => true
  | .sleepUntil timer _, .elapsed elapsed => timer = elapsed
  | .child, .child _ => true
  | .probe, .probe _ => true
  | .connect, .connect _ => true
  | .rconConnect, .rconConnect _ => true
  | .rconList, .rconList _ => true
  | .rconStop, .rconStop _ => true
  | .consoleStop, .consoleStop _ => true
  | .killTree, .killTree _ => true
  | .kill, .kill _ => true
  | _, _ => false

/-- `oneshot::Receiver::try_recv`. -/
inductive TryRecvShutdown where
  | empty
  | received
  | closed
  deriving DecidableEq, Repr

/-- `mpsc::Receiver::try_recv`. -/
inductive TryRecvWake where
  | received (request : WakeRequest)
  | empty
  | disconnected
  deriving DecidableEq, Repr

/-- Why a supervisor's run ends with an error. -/
inductive SupervisorError where
  | wait
  | cleanupAfterWait
  | reap
  | stillRunning
  | termination
  | gracefulWait
  deriving DecidableEq, Repr

/-- The supervisor's operations. `publish` names the publishing function, and
`answer` records what becomes of a received wake request; neither changes
anything beyond the published value. `exit` is the end of the task, which drops
the receiving ends and the lifecycle sender. -/
inductive Op where
  | now
  | currentLifecycle
  | publish (transition : Transition) (next : LifecycleState)
  | panic
  | wakesClosed
  | tryRecvShutdown
  | tryRecvWake
  | answer (request : WakeRequest) (accepted : Bool)
  | launch
  | tryWait
  | beginCycle (cycle : BackendCycle) (runningSince : Instant)
  | activitySnapshot
  | releaseExclusive
  | select (sources : List Source)
  | exit (result : Except SupervisorError Unit)

/-- The reply of each operation. A failed assertion has none. -/
abbrev Reply : Op → Type
  | .now => Instant
  | .currentLifecycle => LifecycleState
  | .publish _ _ => Unit
  | .panic => Empty
  | .wakesClosed => Bool
  | .tryRecvShutdown => TryRecvShutdown
  | .tryRecvWake => TryRecvWake
  | .answer _ _ => Unit
  | .launch => Bool
  | .tryWait => TryWaitResult
  | .beginCycle _ _ => Unit
  | .activitySnapshot => Option CurrentCycleActivity
  | .releaseExclusive => Unit
  | .select _ => Event
  | .exit _ => Unit

/-- The shutdown channel, from its receiver's side. A receiver that completed
once is `taken`, whether by polling or by `try_recv`. -/
inductive Oneshot where
  | empty
  | sent
  | dropped
  | taken
  deriving DecidableEq, Repr

/-- The owned process. `absent` before the first launch. -/
inductive ChildState where
  | absent
  | live
  | reaped
  deriving DecidableEq, Repr

/-- What the supervisor shares with the clients and the operating system: the clock, the
child, the published lifecycle, the channels, the idle gate, the activity record, and the
clients' tasks. -/
structure World where
  clock : Instant
  lifecycle : LifecycleState
  supervised : Bool
  slot : Option WakeRequest
  sendersOpen : Bool
  shutdown : Oneshot
  child : ChildState
  writer : Bool
  activity : Option CurrentCycleActivity
  changed : Bool
  clients : List ClientTask
  deriving DecidableEq, Repr

namespace World

/-- A freshly activated runtime: nothing is pending and no client is connected. -/
def initial (now : Instant) : World where
  clock := now
  lifecycle := .reconciling now
  supervised := true
  slot := none
  sendersOpen := true
  shutdown := .empty
  child := .absent
  writer := false
  activity := none
  changed := false
  clients := []

/-- Some client task holds the shared side of the gate. -/
def leased (world : World) : Bool := world.clients.any fun task => task.lease.isSome

/-- The source completes when it is polled now. Calls that leave the process are
never forced to complete. -/
def ready (world : World) : Source → Bool
  | .shutdown => world.shutdown = .sent || world.shutdown = .dropped
  | .wake => world.slot.isSome || !world.sendersOpen
  | .activity => world.changed
  | .exclusive => !world.writer && !world.leased
  | .sleepUntil _ deadline => deadline ≤ world.clock
  | .child => world.child = .reaped
  | _ => false

/-- Polling the source now can complete it with the event. -/
def completes (world : World) : Source → Event → Bool
  | .shutdown, .shutdown => world.ready .shutdown
  | .wake, .wake (some request) => world.slot = some request
  | .wake, .wake none => world.slot.isNone && !world.sendersOpen
  | .activity, .activity => world.changed
  | .exclusive, .exclusive => world.ready .exclusive
  | .sleepUntil timer deadline, .elapsed elapsed => timer = elapsed && deadline ≤ world.clock
  | .child, .child .exited => world.child ≠ .absent
  | .child, .child .failed => world.child = .live
  | .probe, .probe _ => true
  | .connect, .connect _ => true
  | .rconConnect, .rconConnect _ => true
  | .rconList, .rconList _ => true
  | .rconStop, .rconStop _ => true
  | .consoleStop, .consoleStop _ => true
  | .killTree, .killTree _ => true
  | .kill, .kill _ => true
  | _, _ => false

/-- A biased `select!` can complete with the event: some source does, and no
source before it is ready. -/
def selects (world : World) : List Source → Event → Bool
  | [], _ => false
  | source :: rest, event =>
    world.completes source event || (!world.ready source && world.selects rest event)

/-- What a completed branch consumes or changes. `Child::kill` waits for the
child it has killed, so its success reaps the child. -/
def completed (world : World) : Event → World
  | .shutdown => { world with shutdown := .taken }
  | .wake (some _) => { world with slot := none }
  | .activity => { world with changed := false }
  | .exclusive => { world with writer := true }
  | .child .exited => { world with child := .reaped }
  | .kill true => { world with child := .reaped }
  | _ => world

/-- The atomic effect of one supervisor operation with a given reply. -/
def perform (world : World) : (op : Op) → Reply op → Option World
  | .now, reply => if reply = world.clock then some world else none
  | .currentLifecycle, reply => if reply = world.lifecycle then some world else none
  | .publish _ next, _ => some { world with lifecycle := next }
  | .panic, reply => nomatch reply
  | .wakesClosed, reply => if reply = !world.sendersOpen then some world else none
  | .tryRecvShutdown, reply =>
    match world.shutdown, reply with
    | .empty, .empty => some world
    | .sent, .received => some { world with shutdown := .taken }
    | .dropped, .closed => some { world with shutdown := .taken }
    | .taken, .closed => some world
    | _, _ => none
  | .tryRecvWake, reply =>
    match world.slot, reply with
    | some queued, .received request =>
      if request = queued then some { world with slot := none } else none
    | none, .empty => if world.sendersOpen then some world else none
    | none, .disconnected => if world.sendersOpen then none else some world
    | _, _ => none
  | .answer _ _, _ => some world
  | .launch, reply => if reply = true then some { world with child := .live } else some world
  | .tryWait, reply =>
    match world.child, reply with
    | .live, .exited => some { world with child := .reaped }
    | .live, _ => some world
    | .reaped, .exited => some world
    | _, _ => none
  | .beginCycle cycle runningSince, _ =>
    some { world with activity := some (.beginCycle cycle runningSince) }
  | .activitySnapshot, reply => if reply = world.activity then some world else none
  | .releaseExclusive, _ => some { world with writer := false }
  | .select sources, event =>
    if world.selects sources event then some (world.completed event) else none
  | .exit _, _ => some { world with supervised := false, slot := none }

/-- The phases in which `handle_sampled_connection` sends a wake request. -/
def wakes (phase : ServerPhase) : Bool :=
  phase = .reconciling || phase = .stopped || phase = .stopping || phase = .cooldown ||
    phase = .conflict

/-- One step of a client task: where it continues and how the world changes. A
failed check, a stale lease and an error all end the task and release its lease;
`abandon` is an error or a cancellation at one of its awaits. Dropping a session that the
record of its cycle no longer counts panics in the source and poisons the mutex of the record,
so that its next user panics too. Here the task ends and the world goes on, which allows more
runs than the code has; only a launch counter that went round gets there. -/
def clientStep (world : World) : ClientTask → ClientStep → Option (ClientTask × World)
  | .reading, .sample =>
    match world.lifecycle.phase with
    | .running => some (.queued ⟨world.lifecycle.launchGeneration⟩, world)
    | .external => some (.forwarding, world)
    | _ => some (.sleeping world.lifecycle, world)
  | .sleeping observed, .requestLogin =>
    if wakes observed.phase then some (.waking observed, world) else some (.finished, world)
  | .waking observed, .trySend =>
    if world.sendersOpen then
      if world.supervised ∧ world.slot = none then
        some (.finished, { world with slot := some ⟨observed⟩ })
      else some (.finished, world)
    else none
  | .queued cycle, .acquireShared =>
    if world.writer then none else some (.checking .connect cycle, world)
  | .checking errand cycle, .checkAuthority =>
    some (if world.supervised then .comparing errand cycle else .releasing cycle, world)
  | .comparing errand cycle, .compareCycle =>
    some (if world.lifecycle.ownedRunningCycle = some cycle then .working errand cycle
      else .releasing cycle, world)
  | .working .connect cycle, .connected => some (.checking .replay cycle, world)
  | .working .replay cycle, .writeHandshake => some (.working .replay cycle, world)
  | .working .replay cycle, .replayed => some (.checking .establish cycle, world)
  | .working .establish cycle, .establishSession =>
    match establishLoginTransferSession world.activity cycle with
    | some counted => some (.announcing cycle, { world with activity := some counted })
    | none => some (.releasing cycle, world)
  | .working .establish _, .dropLease => some (.forwarding, world)
  | .announcing cycle, .announce => some (.proxying cycle, { world with changed := true })
  | .proxying cycle, .disconnect =>
    match dropLoginTransferSession world.activity cycle world.clock with
    | .counted remaining => some (.announcingEnd cycle, { world with activity := some remaining })
    | .otherCycle => some (.releasing cycle, world)
    | .underflow => some (.releasing cycle, world)
  | .announcingEnd cycle, .announce => some (.releasing cycle, { world with changed := true })
  | .releasing _, .release => some (.finished, world)
  | .reading, .abandon | .sleeping _, .abandon | .queued _, .abandon | .forwarding, .abandon =>
    some (.finished, world)
  | .working .connect cycle, .abandon | .working .replay cycle, .abandon =>
    some (.releasing cycle, world)
  | _, _ => none

end World

/-- What happens besides the supervisor's own operations. -/
inductive Move where
  | tick (elapsed : Duration)
  | sendShutdown
  | dropShutdown
  | closeWakes
  | accept
  | client (index : Nat) (step : ClientStep)
  deriving DecidableEq, Repr

namespace World

/-- The effect of one move. A runtime signals shutdown once, and once the last
wake sender is gone none comes back. -/
def move (world : World) : Move → Option World
  | .tick elapsed => some { world with clock := world.clock + elapsed }
  | .sendShutdown =>
    if world.shutdown = .empty then some { world with shutdown := .sent } else none
  | .dropShutdown =>
    if world.shutdown = .empty then some { world with shutdown := .dropped } else none
  | .closeWakes => some { world with sendersOpen := false }
  | .accept => some { world with clients := world.clients ++ [.reading] }
  | .client index step => do
    let task ← world.clients[index]?
    let (later, world) ← world.clientStep task step
    some { world with clients := world.clients.set index later }

end World

/-- The platform on which time may pass anywhere and by any amount. -/
def platform : Platform Op Reply where
  World := World
  Move := Move
  perform := World.perform
  disturb world _ move := world.move move

end McServerNap
