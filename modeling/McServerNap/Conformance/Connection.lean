import McServerNap.Hosting
import McServerNap.Interaction.Monitor
import McServerNap.Interaction.Refinement

/-!
# Client programs and their automata

The points of a client task are a monitor of its program. Each access of the program takes the task
to its next point by steps that the automaton has, with the same effect on the world.
-/

namespace McServerNap

open Interaction

/-! ## The points of a program -/

/-- Where an access with its reply takes a task. -/
def ClientTask.accessed : ClientTask → (op : ConnectionOp) → ConnectionReply op → ClientTask
  | task, .setNodelay, enabled => if enabled then task else .finished
  | task, .readEnvelope, some (.ok _) => task
  | _, .readEnvelope, _ => .finished
  | _, .borrow, observed =>
    if observed.phase = .running then .queued ⟨observed.launchGeneration⟩
    else if observed.phase = .external then .forwarding
    else .sleeping observed
  | .sleeping observed, .readRequest _, some (.ok (some (.login _))) =>
    if World.wakes observed.phase then .waking observed else .finished
  | _, .readRequest _, _ => .finished
  | _, .trySend _, _ => .finished
  | task, .answer _ _, _ => task
  | .queued cycle, .acquireShared, true => .checking .connect cycle
  | _, .acquireShared, _ => .finished
  | .checking errand cycle, .hasChanged _, alive =>
    if alive then .comparing errand cycle else .releasing cycle
  | .comparing errand cycle, .borrowCurrent _, current =>
    if current.ownedRunningCycle = some cycle then .working errand cycle else .releasing cycle
  | .working .connect cycle, .connectBackend, some (.ok ()) => .checking .replay cycle
  | .working .connect cycle, .connectBackend, _ => .releasing cycle
  | .working .replay cycle, .replayHandshake _, some (.ok ()) => .checking .establish cycle
  | .working .replay cycle, .replayHandshake _, _ => .releasing cycle
  | .working .establish cycle, .establishSession _, established =>
    if established then .announcing cycle else .releasing cycle
  | .announcing cycle, .notifyOne, _ => .proxying cycle
  | .announcingEnd cycle, .notifyOne, _ => .releasing cycle
  | .proxying cycle, .dropSession _, .counted _ => .announcingEnd cycle
  | .proxying cycle, .dropSession _, _ => .releasing cycle
  | .working .establish _, .dropLease, _ => .forwarding
  | .releasing _, .dropLease, _ => .finished
  | .forwarding, .connectBackend, some (.ok ()) => .forwarding
  | .forwarding, .replayHandshake _, some (.ok ()) => .forwarding
  | .forwarding, .connectBackend, _ | .forwarding, .replayHandshake _, _ => .finished
  | .forwarding, .proxyStreams, _ => .finished
  | task, _, _ => task

namespace ClientTask

/-- A task whose socket takes the option reads on. -/
theorem accessed_setNodelay : reading.accessed .setNodelay true = reading := rfl

/-- An envelope that was read leaves the task where it samples the lifecycle. -/
theorem accessed_readEnvelope (connection : ConnectionEnvelope) :
    reading.accessed .readEnvelope (some (.ok connection)) = reading := rfl

/-- The sample decides the way of the whole task: proxied with a lease, forwarded without one, or
answered by the daemon itself. -/
theorem accessed_borrow (observed : LifecycleState) :
    reading.accessed .borrow observed =
      if observed.phase = .running then .queued ⟨observed.launchGeneration⟩
      else if observed.phase = .external then .forwarding
      else .sleeping observed := rfl

/-- A login in a phase that wakes goes on to its wake, and any other login is only answered. -/
theorem accessed_login (observed : LifecycleState) (connection : ConnectionEnvelope)
    (intent : LoginIntent) :
    (sleeping observed).accessed (.readRequest connection) (some (.ok (some (.login intent)))) =
      if World.wakes observed.phase then .waking observed else .finished := rfl

/-- With its lease the task first asks whether it may still connect. -/
theorem accessed_acquireShared (cycle : BackendCycle) :
    (queued cycle).accessed .acquireShared true = .checking .connect cycle := rfl

/-- A task whose supervisor is gone has no one to compare its cycle with, so it releases its
lease. -/
theorem accessed_hasChanged (errand : Errand) (cycle : BackendCycle) (checkpoint : Checkpoint)
    (alive : Bool) :
    (checking errand cycle).accessed (.hasChanged checkpoint) alive =
      if alive then .comparing errand cycle else .releasing cycle := rfl

/-- Only the cycle of the lease, still owned and running, lets an errand go ahead. -/
theorem accessed_borrowCurrent (errand : Errand) (cycle : BackendCycle) (checkpoint : Checkpoint)
    (current : LifecycleState) :
    (comparing errand cycle).accessed (.borrowCurrent checkpoint) current =
      if current.ownedRunningCycle = some cycle then .working errand cycle else .releasing cycle :=
  rfl

end ClientTask

/-- The accesses that are in order at a point. -/
def ClientTask.expects : ClientTask → ConnectionOp → Prop
  | .reading, .setNodelay | .reading, .readEnvelope | .reading, .borrow => True
  | .sleeping _, .readRequest _ => True
  | .waking observed, .trySend request => request = ⟨observed⟩
  | .finished, .answer _ _ => True
  | .queued _, .acquireShared => True
  | .checking _ _, .hasChanged _ | .comparing _ _, .borrowCurrent _ => True
  | .working .connect _, .connectBackend | .working .replay _, .replayHandshake _ => True
  | .working .establish cycle, .establishSession counted => counted = cycle
  | .working .establish _, .dropLease | .releasing _, .dropLease => True
  | .announcing _, .notifyOne | .announcingEnd _, .notifyOne => True
  | .proxying _, .proxyStreams => True
  | .proxying cycle, .dropSession counted => counted = cycle
  | .forwarding, .connectBackend | .forwarding, .replayHandshake _
  | .forwarding, .proxyStreams => True
  | _, _ => False

/-- A client task as its automaton sees it. -/
abbrev taskMonitor : Monitor ConnectionOp ConnectionReply where
  State := ClientTask
  permits := ClientTask.expects
  answers _ _ _ := True
  after := ClientTask.accessed

/-- The program can go on from a point to the end of its task. -/
abbrev StandsAt (connection : Connecting (Awaited Unit)) (task : ClientTask) : Prop :=
  Safe taskMonitor connection (fun _ task => task = .finished) task

/-! ## The program keeps to its points -/

namespace Connection

/-- An access needs to be in order at the point of the task, and every reply to be followed by
what is wanted. -/
theorem safe_access {op : ConnectionOp} {post : ConnectionReply op → ClientTask → Prop}
    {task : ClientTask} (expected : task.expects op)
    (replied : ∀ reply, post reply (task.accessed op reply)) :
    Safe taskMonitor (access op) post task :=
  ⟨expected, fun reply _ => replied reply⟩

/-- An access and what follows it. -/
theorem safe_access_bind {op : ConnectionOp} {next : ConnectionReply op → Connecting (Awaited Unit)}
    {task : ClientTask} (expected : task.expects op)
    (replied : ∀ reply, StandsAt (next reply) (task.accessed op reply)) :
    StandsAt (access op >>= next) task :=
  (safe_bind _ _ _ _).mpr (safe_access expected replied)

/-- Past an `await` the task goes on, or drops what it holds. A failure and the end of the task
from outside are the same here: both run the cleanup. -/
theorem safe_awaited {α : Type} {reply : Awaited α} {cleanup : Connecting Unit}
    {next : α → Connecting (Awaited Unit)} {task : ClientTask}
    (succeeds : ∀ value, reply = some (.ok value) → StandsAt (next value) task)
    (fails : (∀ value, reply ≠ some (.ok value)) →
      Safe taskMonitor cleanup (fun _ task => task = .finished) task) :
    StandsAt (awaited reply cleanup next) task := by
  match reply with
  | some (.ok value) => exact succeeds value rfl
  | some (.error interruption) =>
    have dropped := fails (by simp)
    exact (safe_bind _ _ _ _).mpr (dropped.mono fun _ _ finished => finished)
  | none =>
    have dropped := fails (by simp)
    exact (safe_bind _ _ _ _).mpr (dropped.mono fun _ _ finished => finished)

/-- A task that has finished does nothing more. -/
theorem safe_nothing : Safe taskMonitor nothing (fun _ task => task = .finished) .finished := rfl

/-- A failed step of a proxied task leads to where its lease is dropped. -/
theorem safe_dropLease_bind (cycle : BackendCycle) (ended : Awaited Unit) :
    StandsAt (dropLease >>= fun _ => return ended) (.releasing cycle) :=
  safe_access_bind trivial fun _ => rfl

/-- Serving a sleeping backend ends its task at every way out: after an answer, after the wake of
a login, or on a failed read or write. -/
theorem serveSleeping_safe (observed : LifecycleState) (connection : ConnectionEnvelope) :
    StandsAt (serveSleeping observed connection) (.sleeping observed) := by
  refine safe_access_bind trivial fun reply => safe_awaited (fun request read => ?_) fun failed => ?_
  · subst read
    match request with
    | none => exact rfl
    | some (.login intent) =>
      by_cases waking : World.wakes observed.phase
      · simp only [ClientTask.accessed_login, waking, ↓reduceIte]
        refine safe_access_bind rfl fun ending => ?_
        cases ending with
        | sent | full => exact safe_access trivial fun _ => rfl
        | closed => exact rfl
      · simp only [ClientTask.accessed_login, waking, Bool.false_eq_true, ↓reduceIte]
        exact safe_access trivial fun _ => rfl
    | some .status => exact safe_access trivial fun _ => rfl
    | some (.unsupportedProtocol protocol) => exact safe_access trivial fun _ => rfl
  · match reply with
    | some (.ok request) => exact absurd rfl (failed request)
    | some (.error interruption) => exact safe_nothing
    | none => exact safe_nothing

/-- A look at the lifecycle passes only while the cycle is current; a closed channel or any other
cycle ends the task, which then gives back its lease. -/
theorem ensureCurrentOwnedCycle_safe {checkpoint : Checkpoint} {errand : Errand}
    {cycle : BackendCycle} {next : Unit → Connecting (Awaited Unit)}
    (passed : StandsAt (next ()) (.working errand cycle)) :
    StandsAt (do awaited (some (← ensureCurrentOwnedCycle checkpoint cycle)) dropLease next)
      (.checking errand cycle) := by
  unfold ensureCurrentOwnedCycle
  simp only [Program.bind_eq, Program.bind_assoc]
  refine safe_access_bind trivial fun alive => ?_
  cases alive with
  | false => exact safe_dropLease_bind cycle _
  | true =>
    simp only [↓reduceIte, Program.bind_assoc]
    refine safe_access_bind trivial fun current => ?_
    by_cases owned : current.ownedRunningCycle = some cycle
    · simp only [ClientTask.accessed_hasChanged, ClientTask.accessed_borrowCurrent, owned, ↓reduceIte]
      exact passed
    · simp only [ClientTask.accessed_hasChanged, ClientTask.accessed_borrowCurrent, owned, ↓reduceIte]
      exact safe_dropLease_bind cycle _

/-- Dropping the session is followed by its announcement, when it was counted, and by the release
of the lease. -/
theorem dropSession_safe (cycle : BackendCycle) (ended : Awaited Unit) :
    StandsAt (dropSession cycle ended) (.proxying cycle) := by
  refine safe_access_bind rfl fun dropped => ?_
  cases dropped with
  | counted remaining =>
    exact safe_access_bind trivial fun _ => safe_dropLease_bind cycle ended
  | otherCycle => exact safe_dropLease_bind cycle ended
  | underflow => exact safe_dropLease_bind cycle _

/-- A counted session is announced, proxied and dropped before the lease goes; one that was not
counted gives the lease back at once. -/
theorem proxyEstablished_safe (cycle : BackendCycle) (intent : HandshakeIntent) :
    StandsAt (proxyEstablished cycle intent) (.working .establish cycle) := by
  have counted : StandsAt (do
      if ← access (.establishSession cycle) then
        access .notifyOne
        let ended ← access .proxyStreams
        dropSession cycle ended
      else
        dropLease
        return some (.error (.failed .activityCycleChanged))) (.working .establish cycle) := by
    refine safe_access_bind rfl fun established => ?_
    cases established with
    | false => exact safe_dropLease_bind cycle _
    | true =>
      exact safe_access_bind trivial fun _ => safe_access_bind trivial fun ended =>
        dropSession_safe cycle ended
  cases intent with
  | login | transfer => exact counted
  | status | unknown _ =>
    exact safe_access_bind trivial fun _ => safe_access trivial fun _ => rfl

/-- The proxied task holds its lease at every check and errand, and each failure on the way leads
to where the lease is dropped. -/
theorem proxyOwnedConnection_safe (connection : ConnectionEnvelope) (cycle : BackendCycle) :
    StandsAt (proxyOwnedConnection connection cycle) (.queued cycle) := by
  refine safe_access_bind trivial fun acquired => ?_
  cases acquired with
  | false => exact rfl
  | true =>
    refine ensureCurrentOwnedCycle_safe (safe_access_bind trivial fun connected => ?_)
    match connected with
    | some (.ok ()) =>
      refine ensureCurrentOwnedCycle_safe (safe_access_bind trivial fun replayed => ?_)
      match replayed with
      | some (.ok ()) =>
        exact ensureCurrentOwnedCycle_safe (proxyEstablished_safe cycle connection.intent)
      | some (.error interruption) => exact safe_dropLease_bind cycle _
      | none => exact safe_dropLease_bind cycle _
    | some (.error interruption) => exact safe_dropLease_bind cycle _
    | none => exact safe_dropLease_bind cycle _

/-- Toward an external server a task connects, replays and copies, and ends wherever that
fails. -/
theorem proxyExternalConnection_safe (connection : ConnectionEnvelope) :
    StandsAt (proxyExternalConnection connection) .forwarding := by
  refine safe_access_bind trivial fun connected => ?_
  match connected with
  | some (.ok ()) =>
    refine safe_access_bind trivial fun replayed => ?_
    match replayed with
    | some (.ok ()) => exact safe_access trivial fun _ => rfl
    | some (.error interruption) => exact rfl
    | none => exact rfl
  | some (.error interruption) => exact rfl
  | none => exact rfl

/-- The program starts where its automaton does, and ends where it ends: each refusal on the way,
from a failed option of the socket to an unreadable opening, is an end of both. -/
theorem handleClient_safe : StandsAt handleClient .reading := by
  refine safe_access_bind trivial fun enabled => ?_
  cases enabled with
  | false => exact rfl
  | true =>
    refine safe_access_bind trivial fun envelope => ?_
    match envelope with
    | some (.error interruption) => exact rfl
    | none => exact rfl
    | some (.ok connection) =>
      refine safe_access_bind trivial fun observed => ?_
      rw [ClientTask.accessed_setNodelay, ClientTask.accessed_readEnvelope]
      unfold handleSampledConnection
      by_cases running : observed.phase = .running
      · simp only [ClientTask.accessed_borrow, running, ↓reduceIte, LifecycleState.ownedRunningCycle]
        exact proxyOwnedConnection_safe connection _
      · by_cases external : observed.phase = .external
        · simp only [ClientTask.accessed_borrow, external, ↓reduceIte, reduceCtorEq]
          exact proxyExternalConnection_safe connection
        · simp only [ClientTask.accessed_borrow, running, external, ↓reduceIte]
          exact serveSleeping_safe observed connection

end Connection

/-! ## Each access is some steps -/

/-- Steps of one task in a row. -/
def World.follow (world : World) (task : ClientTask) : List ClientStep → Option (ClientTask × World)
  | [] => some (task, world)
  | step :: rest => (world.clientStep task step).bind fun (later, after) => after.follow later rest

/-- How many leases the task holds. -/
def ClientTask.leases (task : ClientTask) : Nat := if task.lease.isSome then 1 else 0

/-- The task takes these steps, and its leases go in and out of the gate. -/
def Accesses (world : World) (readers : Nat) (task later : ClientTask) (after : World)
    (readers' : Nat) : Prop :=
  ∃ steps, world.follow task steps = some (later, after) ∧
    readers' + task.leases = readers + later.leases

section Accesses

variable {world after : World} {readers readers' : Nat}

/-- Accesses to the sockets do nothing to the world. -/
theorem Accesses.alone {task later : ClientTask} (steps : List ClientStep)
    (followed : world.follow task steps = some (later, world)) (same : task.leases = later.leases) :
    Accesses world readers task later world readers :=
  ⟨steps, followed, by rw [same]⟩

/-- The program's sample is the automaton's: both read the published lifecycle and branch on its
phase alike. -/
theorem sampled_follows {observed : LifecycleState}
    (effect : ConnectionOp.borrow.effect world readers observed = some (after, readers')) :
    Accesses world readers .reading (ClientTask.reading.accessed .borrow observed) after
      readers' := by
  simp only [ConnectionOp.effect_borrow, Option.ite_none_right_eq_some, Option.some.injEq,
    Prod.mk.injEq] at effect
  obtain ⟨rfl, rfl, rfl⟩ := effect
  refine ⟨[.sample], ?_, ?_⟩
  · simp only [World.follow, World.clientStep, ClientTask.accessed_borrow]
    cases world.lifecycle.phase <;> rfl
  · simp only [ClientTask.accessed_borrow]
    cases world.lifecycle.phase <;> rfl

/-- Reading the request is the automaton's request of a login when it is one, and abandoning the
connection when it is not. -/
theorem request_follows {observed : LifecycleState} {connection : ConnectionEnvelope}
    (reply : Awaited (Option ClientRequest)) :
    Accesses world readers (.sleeping observed)
      ((ClientTask.sleeping observed).accessed (.readRequest connection) reply) world readers := by
  match reply with
  | some (.ok (some (.login intent))) =>
    by_cases waking : World.wakes observed.phase
    · exact .alone [.requestLogin]
        (by simp [World.follow, World.clientStep, ClientTask.accessed_login, waking])
        (by simp [ClientTask.accessed_login, waking, ClientTask.leases, ClientTask.lease])
    · exact .alone [.requestLogin]
        (by simp [World.follow, World.clientStep, ClientTask.accessed_login, waking])
        (by simp [ClientTask.accessed_login, waking, ClientTask.leases, ClientTask.lease])
  | some (.ok (some .status)) => exact .alone [.abandon] rfl rfl
  | some (.ok (some (.unsupportedProtocol _))) => exact .alone [.abandon] rfl rfl
  | some (.ok none) => exact .alone [.abandon] rfl rfl
  | some (.error _) => exact .alone [.abandon] rfl rfl
  | none => exact .alone [.abandon] rfl rfl

/-- Sending the wake is one step for the automaton as well, whatever the channel answers: it is
sent into a free slot, finds it full, or finds the supervisor gone. -/
theorem wake_follows {observed : LifecycleState} {reply : TrySend}
    (sendersOpen : world.sendersOpen = true)
    (effect : (ConnectionOp.trySend ⟨observed⟩).effect world readers reply =
      some (after, readers')) :
    Accesses world readers (.waking observed) .finished after readers' := by
  have settled {freed : World} (stepped : world.clientStep (.waking observed) .trySend =
      some (.finished, freed)) : Accesses world readers (.waking observed) .finished freed readers :=
    ⟨[.trySend], by simp [World.follow, stepped], rfl⟩
  cases reply with
  | closed =>
    simp only [ConnectionOp.effect_trySend_closed, Option.ite_none_left_eq_some, Option.some.injEq,
      Prod.mk.injEq] at effect
    obtain ⟨gone, rfl, rfl⟩ := effect
    exact settled (by simp [World.clientStep, sendersOpen, gone])
  | full =>
    simp only [ConnectionOp.effect_trySend_full, Option.ite_none_right_eq_some, Option.some.injEq,
      Prod.mk.injEq] at effect
    obtain ⟨⟨_, occupied⟩, rfl, rfl⟩ := effect
    refine settled ?_
    have filled : world.slot ≠ none := by
      rintro empty
      rw [empty] at occupied
      cases occupied
    simp [World.clientStep, sendersOpen, filled]
  | sent =>
    simp only [ConnectionOp.effect_trySend_sent, Option.ite_none_right_eq_some, Option.some.injEq,
      Prod.mk.injEq] at effect
    obtain ⟨free, rfl, rfl⟩ := effect
    exact settled (by simp [World.clientStep, sendersOpen, free])

/-- Establishing a session counts it in the same record that the automaton's step counts it in,
and is refused by the same comparison of cycles. -/
theorem establish_follows {cycle : BackendCycle} {established : Bool}
    (effect : (ConnectionOp.establishSession cycle).effect world readers established =
      some (after, readers')) :
    Accesses world readers (.working .establish cycle)
      (if established then .announcing cycle else .releasing cycle) after readers' := by
  simp only [ConnectionOp.effect_establishSession] at effect
  cases counted : establishLoginTransferSession world.activity cycle with
  | none =>
    simp only [counted, Option.ite_none_left_eq_some, Option.some.injEq, Prod.mk.injEq] at effect
    obtain ⟨refused, rfl, rfl⟩ := effect
    refine ⟨[.establishSession], ?_, ?_⟩
    · simp [World.follow, World.clientStep, counted, refused]
    · simp [refused, ClientTask.leases, ClientTask.lease]
  | some activity =>
    simp only [counted, Option.ite_none_right_eq_some, Option.some.injEq, Prod.mk.injEq] at effect
    obtain ⟨done, rfl, rfl⟩ := effect
    refine ⟨[.establishSession], ?_, ?_⟩
    · simp [World.follow, World.clientStep, counted, done]
    · simp [done, ClientTask.leases, ClientTask.lease]

/-- Dropping a session is the automaton's disconnect: its three outcomes go to the same points and
leave the same record. -/
theorem drop_follows {cycle : BackendCycle} {dropped : SessionDrop}
    (effect : (ConnectionOp.dropSession cycle).effect world readers dropped =
      some (after, readers')) :
    Accesses world readers (.proxying cycle)
      ((ClientTask.proxying cycle).accessed (.dropSession cycle) dropped) after readers' := by
  simp only [ConnectionOp.effect, Option.ite_none_right_eq_some] at effect
  obtain ⟨rfl, effect⟩ := effect
  refine ⟨[.disconnect], ?_, ?_⟩
  · simp only [World.follow, World.clientStep]
    cases ended : dropLoginTransferSession world.activity cycle world.clock with
    | counted remaining =>
      simp only [ended, Option.some.injEq, Prod.mk.injEq] at effect
      obtain ⟨rfl, rfl⟩ := effect
      rfl
    | otherCycle | underflow =>
      simp only [ended, Option.some.injEq, Prod.mk.injEq] at effect
      obtain ⟨rfl, rfl⟩ := effect
      rfl
  · cases ended : dropLoginTransferSession world.activity cycle world.clock with
    | counted remaining =>
      simp only [ended, Option.some.injEq, Prod.mk.injEq] at effect
      obtain ⟨rfl, rfl⟩ := effect
      rfl
    | otherCycle | underflow =>
      simp only [ended, Option.some.injEq, Prod.mk.injEq] at effect
      obtain ⟨rfl, rfl⟩ := effect
      rfl

/-- The errands of a proxied task. Each one either succeeds, which is a step of the automaton with
the same lease, or fails, which is its abandonment. -/
theorem errand_follows {errand : Errand} {cycle : BackendCycle} {op : ConnectionOp}
    {reply : ConnectionReply op} (expected : (ClientTask.working errand cycle).expects op)
    (held : (ClientTask.working errand cycle).leases ≤ readers)
    (effect : op.effect world readers reply = some (after, readers')) :
    Accesses world readers (.working errand cycle) ((ClientTask.working errand cycle).accessed op reply)
      after readers' := by
  cases errand <;> cases op <;> try exact expected.elim
  case connect.connectBackend =>
    cases effect
    match reply with
    | some (.ok ()) => exact .alone [.connected] rfl rfl
    | some (.error interruption) => exact .alone [.abandon] rfl rfl
    | none => exact .alone [.abandon] rfl rfl
  case replay.replayHandshake =>
    cases effect
    match reply with
    | some (.ok ()) => exact .alone [.writeHandshake, .replayed] rfl rfl
    | some (.error interruption) => exact .alone [.writeHandshake, .abandon] rfl rfl
    | none => exact .alone [.writeHandshake, .abandon] rfl rfl
  case establish.establishSession counted =>
    cases expected
    exact establish_follows effect
  case establish.dropLease =>
    cases effect
    refine ⟨[.dropLease], rfl, ?_⟩
    have counted : 1 ≤ readers := held
    exact Nat.sub_add_cancel counted

/-- Before its sample a task reads from its socket and from the lifecycle: it goes on past what
succeeds, and a failure is the automaton's abandoning. -/
theorem reading_follows {op : ConnectionOp} {reply : ConnectionReply op}
    (expected : ClientTask.reading.expects op)
    (effect : op.effect world readers reply = some (after, readers')) :
    Accesses world readers .reading (ClientTask.reading.accessed op reply) after readers' := by
  cases op <;> try exact expected.elim
  case setNodelay =>
    cases effect
    cases reply with
    | true => exact .alone [] rfl rfl
    | false => exact .alone [.abandon] rfl rfl
  case readEnvelope =>
    cases effect
    obtain _ | interruption | connection := reply
    · exact .alone [.abandon] rfl rfl
    · exact .alone [.abandon] rfl rfl
    · exact .alone [] rfl rfl
  case borrow => exact sampled_follows effect

/-- A queued task gets its lease when the automaton's gate is free for it, and only then is one
more reader counted. -/
theorem lease_follows {cycle : BackendCycle} {granted : Bool}
    (effect : ConnectionOp.acquireShared.effect world readers granted = some (after, readers')) :
    Accesses world readers (.queued cycle)
      ((ClientTask.queued cycle).accessed .acquireShared granted) after readers' := by
  cases granted with
  | true =>
    simp only [ConnectionOp.effect_acquireShared, Option.ite_none_left_eq_some, Option.some.injEq,
      Prod.mk.injEq] at effect
    obtain ⟨free, rfl, rfl⟩ := effect
    exact ⟨[.acquireShared],
      by simp [World.follow, World.clientStep, ClientTask.accessed_acquireShared, free], rfl⟩
  | false =>
    cases effect
    exact .alone [.abandon] rfl rfl

/-- Asking whether the supervisor is alive decides between the comparison and the release, as the
automaton's check of authority does. -/
theorem checked_follows {errand : Errand} {cycle : BackendCycle} {checkpoint : Checkpoint}
    {alive : Bool}
    (effect : (ConnectionOp.hasChanged checkpoint).effect world readers alive =
      some (after, readers')) :
    Accesses world readers (.checking errand cycle)
      ((ClientTask.checking errand cycle).accessed (.hasChanged checkpoint) alive) after
      readers' := by
  simp only [ConnectionOp.effect_hasChanged, Option.ite_none_right_eq_some, Option.some.injEq,
    Prod.mk.injEq] at effect
  obtain ⟨rfl, rfl, rfl⟩ := effect
  refine .alone [.checkAuthority] rfl ?_
  cases supervised : world.supervised <;>
    simp [ClientTask.accessed_hasChanged, ClientTask.leases, ClientTask.lease]

/-- Comparing the lifecycle with the sampled cycle decides between the errand and the release. -/
theorem compared_follows {errand : Errand} {cycle : BackendCycle} {checkpoint : Checkpoint}
    {current : LifecycleState}
    (effect : (ConnectionOp.borrowCurrent checkpoint).effect world readers current =
      some (after, readers')) :
    Accesses world readers (.comparing errand cycle)
      ((ClientTask.comparing errand cycle).accessed (.borrowCurrent checkpoint) current) after
      readers' := by
  simp only [ConnectionOp.effect_borrowCurrent, Option.ite_none_right_eq_some, Option.some.injEq,
    Prod.mk.injEq] at effect
  obtain ⟨rfl, rfl, rfl⟩ := effect
  refine .alone [.compareCycle] rfl ?_
  by_cases owned : world.lifecycle.ownedRunningCycle = some cycle <;>
    simp [ClientTask.accessed_borrowCurrent, ClientTask.leases, ClientTask.lease, owned]

/-- A task that forwards to an external server holds no lease: what succeeds changes nothing, and
the first failure or the end of the copy ends the task. -/
theorem forwarding_follows {op : ConnectionOp} {reply : ConnectionReply op}
    (expected : ClientTask.forwarding.expects op)
    (effect : op.effect world readers reply = some (after, readers')) :
    Accesses world readers .forwarding (ClientTask.forwarding.accessed op reply) after
      readers' := by
  cases op <;> try exact expected.elim
  case connectBackend =>
    cases effect
    obtain _ | interruption | _ := reply
    · exact .alone [.abandon] rfl rfl
    · exact .alone [.abandon] rfl rfl
    · exact .alone [] rfl rfl
  case replayHandshake =>
    cases effect
    obtain _ | interruption | _ := reply
    · exact .alone [.abandon] rfl rfl
    · exact .alone [.abandon] rfl rfl
    · exact .alone [] rfl rfl
  case proxyStreams =>
    cases effect
    exact .alone [.abandon] rfl rfl

/-- Every access that is in order is some steps of the automaton, point by point. A lease that is
dropped was counted, so the readers of the gate and the leases of the task agree afterwards. -/
theorem access_follows {task : ClientTask} {op : ConnectionOp} {reply : ConnectionReply op}
    (sendersOpen : world.sendersOpen = true) (expected : task.expects op)
    (held : task.leases ≤ readers) (effect : op.effect world readers reply = some (after, readers')) :
    Accesses world readers task (task.accessed op reply) after readers' := by
  cases task with
  | reading => exact reading_follows expected effect
  | working errand cycle => exact errand_follows expected held effect
  | forwarding => exact forwarding_follows expected effect
  | sleeping observed =>
    cases op <;> try exact expected.elim
    cases effect
    exact request_follows reply
  | waking observed =>
    cases op <;> try exact expected.elim
    cases expected
    exact wake_follows sendersOpen effect
  | finished =>
    cases op <;> try exact expected.elim
    cases effect
    exact .alone [] rfl rfl
  | queued cycle =>
    cases op <;> try exact expected.elim
    exact lease_follows effect
  | checking errand cycle =>
    cases op <;> try exact expected.elim
    exact checked_follows effect
  | comparing errand cycle =>
    cases op <;> try exact expected.elim
    exact compared_follows effect
  | announcing cycle =>
    cases op <;> try exact expected.elim
    cases effect
    exact ⟨[.announce], rfl, rfl⟩
  | announcingEnd cycle =>
    cases op <;> try exact expected.elim
    cases effect
    exact ⟨[.announce], rfl, rfl⟩
  | proxying cycle =>
    cases op <;> try exact expected.elim
    case proxyStreams =>
      cases effect
      exact .alone [] rfl rfl
    case dropSession counted =>
      cases expected
      exact drop_follows effect
  | releasing cycle =>
    cases op <;> try exact expected.elim
    cases effect
    refine ⟨[.release], rfl, ?_⟩
    have counted : 1 ≤ readers := held
    exact Nat.sub_add_cancel counted

end Accesses

end McServerNap
