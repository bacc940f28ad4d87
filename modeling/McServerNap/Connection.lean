import McServerNap.Client
import McServerNap.Interaction.Program

/-!
# A client task step by step

`handle_client` once more, now with each access to what it shares with the supervisor as an
operation of its own. Between two operations other tasks may act, and at each `await` the task may
be cancelled, which drops what it holds. What it exchanges with its two sockets stays in one
operation for each stretch that no other task can observe.

The locals of `proxy_connected_owned` are dropped in the reverse order of their declaration, the
session before its lease.
-/

namespace McServerNap

open Interaction

/-- The reply of an `await`: nothing when the task was cancelled there. -/
abbrev Awaited (α : Type) := Option (Except Interruption α)

/-- One access of a client task. -/
inductive ConnectionOp where
  | setNodelay
  | readEnvelope
  | borrow
  | readRequest (connection : ConnectionEnvelope)
  | trySend (request : WakeRequest)
  | answer (request : ClientRequest) (observed : LifecycleState)
  | acquireShared
  | hasChanged (checkpoint : Checkpoint)
  | borrowCurrent (checkpoint : Checkpoint)
  | connectBackend
  | replayHandshake (framedHandshake : Bytes)
  | establishSession (cycle : BackendCycle)
  | notifyOne
  | proxyStreams
  | dropSession (cycle : BackendCycle)
  | dropLease

/-- `acquireShared` replies whether the task got its lease before it was cancelled,
`hasChanged` whether the sender of the lifecycle is still there. -/
abbrev ConnectionReply : ConnectionOp → Type
  | .setNodelay | .acquireShared | .hasChanged _ | .establishSession _ => Bool
  | .readEnvelope => Awaited ConnectionEnvelope
  | .borrow | .borrowCurrent _ => LifecycleState
  | .readRequest _ => Awaited (Option ClientRequest)
  | .trySend _ => TrySend
  | .answer _ _ | .connectBackend | .replayHandshake _ | .proxyStreams => Awaited Unit
  | .dropSession _ => SessionDrop
  | .notifyOne | .dropLease => Unit

/-- Programs of a client task. -/
abbrev Connecting := Program ConnectionOp ConnectionReply

namespace Connection

/-- One operation of a connection's task, with the reply that its surroundings give. -/
def access (op : ConnectionOp) : Connecting (ConnectionReply op) := .request op

/-- `?` after an `await`. An error and a cancellation both drop what the task holds. -/
def awaited {α : Type} (reply : Awaited α) (cleanup : Connecting Unit)
    (next : α → Connecting (Awaited Unit)) : Connecting (Awaited Unit) :=
  match reply with
  | some (.ok value) => next value
  | some (.error interruption) => do
    cleanup
    return some (.error interruption)
  | none => do
    cleanup
    return none

/-- Nothing is held. -/
def nothing : Connecting Unit := return ()

/-- `BackendUseLease` is dropped. -/
def dropLease : Connecting Unit := access .dropLease

/-- The sleeping part of `handle_sampled_connection`. -/
def serveSleeping (observed : LifecycleState) (connection : ConnectionEnvelope) :
    Connecting (Awaited Unit) := do
  awaited (← access (.readRequest connection)) nothing fun request =>
    match request with
    | none => return some (.ok ())
    | some (.login intent) =>
      if World.wakes observed.phase then do
        match ← access (.trySend ⟨observed⟩) with
        | .sent | .full => access (.answer (.login intent) observed)
        | .closed => return some (.error (.failed .wakeChannelClosed))
      else access (.answer (.login intent) observed)
    | some other => access (.answer other observed)

/-- `ensure_current_owned_cycle` -/
def ensureCurrentOwnedCycle (checkpoint : Checkpoint) (cycle : BackendCycle) :
    Connecting (Except Interruption Unit) := do
  if ← access (.hasChanged checkpoint) then
    if (← access (.borrowCurrent checkpoint)).ownedRunningCycle = some cycle then return .ok ()
    else return .error (.failed .ownedCycleChanged)
  else return .error (.failed .lifecycleAuthorityStopped)

/-- `LoginTransferProxySession::drop`, and after it the session's lease. -/
def dropSession (cycle : BackendCycle) (ended : Awaited Unit) : Connecting (Awaited Unit) := do
  match ← access (.dropSession cycle) with
  | .counted _ =>
    access .notifyOne
    dropLease
    return ended
  | .otherCycle =>
    dropLease
    return ended
  | .underflow =>
    dropLease
    return some (.error .panicked)

/-- `establish_owned_proxy_activity` past its check, and `proxy_streams`. -/
def proxyEstablished (cycle : BackendCycle) :
    HandshakeIntent → Connecting (Awaited Unit)
  | .login | .transfer => do
    if ← access (.establishSession cycle) then
      access .notifyOne
      let ended ← access .proxyStreams
      dropSession cycle ended
    else
      dropLease
      return some (.error (.failed .activityCycleChanged))
  | .status | .unknown _ => do
    dropLease
    access .proxyStreams

/-- `proxy_owned_connection` and `proxy_connected_owned` -/
def proxyOwnedConnection (connection : ConnectionEnvelope) (cycle : BackendCycle) :
    Connecting (Awaited Unit) := do
  if ← access .acquireShared then
    awaited (some (← ensureCurrentOwnedCycle .leased cycle)) dropLease fun () => do
      awaited (← access .connectBackend) dropLease fun () => do
        awaited (some (← ensureCurrentOwnedCycle .connected cycle)) dropLease fun () => do
          awaited (← access (.replayHandshake connection.framedHandshake)) dropLease fun () => do
            awaited (some (← ensureCurrentOwnedCycle .replayed cycle)) dropLease fun () =>
              proxyEstablished cycle connection.intent
  else return none

/-- `proxy_external_connection` -/
def proxyExternalConnection (connection : ConnectionEnvelope) : Connecting (Awaited Unit) := do
  awaited (← access .connectBackend) nothing fun () => do
    awaited (← access (.replayHandshake connection.framedHandshake)) nothing fun () =>
      access .proxyStreams

/-- `handle_sampled_connection` -/
def handleSampledConnection (observed : LifecycleState) (connection : ConnectionEnvelope) :
    Connecting (Awaited Unit) :=
  if observed.phase = .running then
    match observed.ownedRunningCycle with
    | none => return some (.error .panicked)
    | some cycle => proxyOwnedConnection connection cycle
  else if observed.phase = .external then proxyExternalConnection connection
  else serveSleeping observed connection

/-- `handle_client` -/
def handleClient : Connecting (Awaited Unit) := do
  if ← access .setNodelay then
    awaited (← access .readEnvelope) nothing fun connection => do
      let observed ← access .borrow
      handleSampledConnection observed connection
  else return some (.error (.failed .clientNodelay))

end Connection

end McServerNap
