import McServerNap.Connection
import McServerNap.Platform

/-!
# A supervisor among client programs

The world around one supervisor with the programs of its client tasks in place of the points they
have reached. The shared side of the gate is what tokio's lock keeps: the number of leases that
are out. The supervisor notices nothing of a client but that number.

Each client task has its own sender of wake requests, and so has the runtime for the tasks still
to come. The wake channel closes once all of them are gone.
-/

namespace McServerNap

open Interaction

/-- What a client's access does to the world and to the number of leases. -/
def ConnectionOp.effect (world : World) (readers : Nat) :
    (op : ConnectionOp) → ConnectionReply op → Option (World × Nat)
  | .borrow, reply => if reply = world.lifecycle then some (world, readers) else none
  | .borrowCurrent _, reply => if reply = world.lifecycle then some (world, readers) else none
  | .hasChanged _, alive => if alive = world.supervised then some (world, readers) else none
  | .trySend _, .closed => if world.supervised then none else some (world, readers)
  | .trySend _, .full =>
    if world.supervised ∧ world.slot.isSome then some (world, readers) else none
  | .trySend request, .sent =>
    if world.supervised ∧ world.slot = none then some ({ world with slot := some request }, readers)
    else none
  | .acquireShared, true => if world.writer then none else some (world, readers + 1)
  | .acquireShared, false => some (world, readers)
  | .establishSession cycle, established =>
    match establishLoginTransferSession world.activity cycle with
    | some counted =>
      if established then some ({ world with activity := some counted }, readers) else none
    | none => if established then none else some (world, readers)
  | .notifyOne, _ => some ({ world with changed := true }, readers)
  | .dropSession cycle, dropped =>
    if dropped = dropLoginTransferSession world.activity cycle world.clock then
      match dropped with
      | .counted remaining => some ({ world with activity := some remaining }, readers)
      | .otherCycle | .underflow => some (world, readers)
    else none
  | .dropLease, _ => some (world, readers - 1)
  | .setNodelay, _ | .readEnvelope, _ | .readRequest _, _ | .answer _ _, _ | .connectBackend, _
  | .replayHandshake _, _ | .proxyStreams, _ => some (world, readers)

namespace ConnectionOp

variable (world : World) (readers : Nat)

/-- A sample reads the lifecycle that is published, and changes nothing. -/
theorem effect_borrow (observed : LifecycleState) : borrow.effect world readers observed =
    if observed = world.lifecycle then some (world, readers) else none := rfl

/-- So does the comparison with it before an errand. -/
theorem effect_borrowCurrent (checkpoint : Checkpoint) (current : LifecycleState) :
    (borrowCurrent checkpoint).effect world readers current =
      if current = world.lifecycle then some (world, readers) else none := rfl

/-- Asking whether it has changed tells whether the supervisor still holds its sender. -/
theorem effect_hasChanged (checkpoint : Checkpoint) (alive : Bool) :
    (hasChanged checkpoint).effect world readers alive =
      if alive = world.supervised then some (world, readers) else none := rfl

/-- The channel is closed once the supervisor is gone. -/
theorem effect_trySend_closed (request : WakeRequest) :
    (trySend request).effect world readers .closed =
      if world.supervised then none else some (world, readers) := rfl

/-- It is full while its one slot is taken. -/
theorem effect_trySend_full (request : WakeRequest) :
    (trySend request).effect world readers .full =
      if world.supervised ∧ world.slot.isSome then some (world, readers) else none := rfl

/-- A free slot takes the request. -/
theorem effect_trySend_sent (request : WakeRequest) :
    (trySend request).effect world readers .sent =
      if world.supervised ∧ world.slot = none then
        some ({ world with slot := some request }, readers)
      else none := rfl

/-- The shared side is granted while no one holds the exclusive side, and counts one more
reader. -/
theorem effect_acquireShared : acquireShared.effect world readers true =
    if world.writer then none else some (world, readers + 1) := rfl

/-- A session is established when the record counts it for its cycle, and refused when the record
is of another one. -/
theorem effect_establishSession (cycle : BackendCycle) (established : Bool) :
    (establishSession cycle).effect world readers established =
      match establishLoginTransferSession world.activity cycle with
      | some counted =>
        if established then some ({ world with activity := some counted }, readers) else none
      | none => if established then none else some (world, readers) := rfl

end ConnectionOp

/-- The shared world, whose own list of clients stays empty, the leases that are out and the
programs of the client tasks. -/
structure Hosted where
  world : World
  readers : Nat
  connections : List (Connecting (Awaited Unit))

namespace Hosted

/-- The supervisor's world before any connection: no reader of the gate, and no program. -/
def initial (now : Instant) : Hosted := ⟨World.initial now, 0, []⟩

/-- The world as the supervisor meets it: its gate is held by as many as have a lease. -/
def standing (hosted : Hosted) : World :=
  { hosted.world with clients := List.replicate hosted.readers (.releasing ⟨0⟩) }

/-- An operation of the supervisor. -/
def perform (hosted : Hosted) (op : Op) (reply : Reply op) : Option Hosted :=
  (hosted.standing.perform op reply).map fun after =>
    { hosted with world := { after with clients := [] } }

/-- The task is over. -/
def ended (connection : Connecting (Awaited Unit)) : Bool := connection.value.isSome

/-- The next operation of a client task gets a reply. -/
def advance (hosted : Hosted) (index : Nat)
    (reply : (op : ConnectionOp) → Option (ConnectionReply op)) : Option Hosted :=
  match hosted.connections[index]? with
  | some (.perform op next) =>
    (reply op).bind fun reply =>
      (op.effect hosted.world hosted.readers reply).map fun (world, readers) =>
        ⟨world, readers, hosted.connections.set index (next reply)⟩
  | _ => none

end Hosted

/-- What happens besides the supervisor's own operations. -/
inductive HostedMove where
  | tick (elapsed : Duration)
  | sendShutdown
  | dropShutdown
  | closeWakes
  | accept
  | advance (index : Nat) (reply : (op : ConnectionOp) → Option (ConnectionReply op))

namespace Hosted

/-- The effect of one move. -/
def move (hosted : Hosted) : HostedMove → Option Hosted
  | .tick elapsed =>
    some { hosted with world := { hosted.world with clock := hosted.world.clock + elapsed } }
  | .sendShutdown =>
    if hosted.world.shutdown = .empty then
      some { hosted with world := { hosted.world with shutdown := .sent } }
    else none
  | .dropShutdown =>
    if hosted.world.shutdown = .empty then
      some { hosted with world := { hosted.world with shutdown := .dropped } }
    else none
  | .closeWakes =>
    if hosted.connections.all ended then
      some { hosted with world := { hosted.world with sendersOpen := false } }
    else none
  | .accept =>
    if hosted.world.sendersOpen then
      some { hosted with connections := hosted.connections ++ [Connection.handleClient] }
    else none
  | .advance index reply => hosted.advance index reply

end Hosted

/-- The platform with the programs of the clients. -/
def hosting : Platform Op Reply where
  World := Hosted
  Move := HostedMove
  perform := Hosted.perform
  disturb hosted _ move := hosted.move move

end McServerNap
