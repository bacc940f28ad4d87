import Mathlib.Algebra.Ring.Nat
import McServerNap.DaemonOutcome

/-!
# The connection limit of the daemon

All runtimes of the daemon share one semaphore, with a permit for every connection that the
configuration allows. A runtime takes a permit for each connection it accepts and hands it to the
client's task, which gives it back when it ends, however it ends. A runtime that panics drops the
permit in its hand, and the clients it leaves behind are cancelled.

Each runtime was studied with a semaphore that may lack permits at any time. Here the permits that
are free are a part of the world that the runtimes share.
-/

namespace McServerNap

open Interaction

namespace ServerRuntime

/-! ## The permit in a runtime's hand -/

/-- The operation has got a permit. -/
def acquires : (op : Op) → Reply op → Bool
  | .tryAcquire, .acquired => true
  | _, _ => false

/-- The runtime's last operation has got a permit: it has let a client in, whose task it has not
started yet. -/
def holding : List Happening → Bool
  | [] => false
  | .issued op reply :: _ => acquires op reply
  | .moved _ _ :: earlier => holding earlier

/-- The monitor of the permit in a runtime's hand. The permit goes to a new client next, and no
client is started without one. -/
abbrev handing : Monitor Op Reply where
  State := Bool
  permits held op := op = .spawnClient ↔ held = true
  answers _ _ _ := True
  after _ op reply := acquires op reply

/-- The operation has nothing to do with permits. -/
def Op.permitless : Op → Prop
  | .tryAcquire | .spawnClient => False
  | _ => True

/-- A program that leaves the permits alone is safe with an empty hand. -/
theorem safe_permitless {α : Type} {program : Running α} (issues : Issues Op.permitless program) :
    Safe handing program (fun _ held => held = false) false := by
  have kept (held : handing.State) (op : Op) (empty : held = false) (permitless : op.permitless) :
      handing.permits held op ∧
        ∀ reply, handing.answers held op reply → handing.after held op reply = false := by
    subst empty
    cases op with
    | tryAcquire | spawnClient => exact permitless.elim
    | _ => exact ⟨by simp, fun _ _ => rfl⟩
  exact Issues.safe kept issues rfl

/-- Waiting for the supervisor needs no permit, whether its outcome is taken, the wait is given
up, or the task is aborted after that. -/
theorem issues_awaitSupervisorShutdown (waitLimit : Duration) :
    Issues Op.permitless (awaitSupervisorShutdown waitLimit) := by
  constructor
  · trivial
  intro begun
  constructor
  · trivial
  intro answer
  obtain _ | error | result := answer
  · exact ⟨trivial, fun _ => ⟨trivial, fun _ => trivial⟩⟩
  · trivial
  · trivial

/-- Nor does the rest of a shutdown, so a runtime that is stopping lets no client in. -/
theorem issues_finishShutdown (waitLimit : Duration) (shutdownResult : Except Error Unit) :
    Issues Op.permitless (finishShutdown waitLimit shutdownResult) := by
  constructor
  · trivial
  intro sent
  apply (issues_awaitSupervisorShutdown waitLimit).bind
  intro awaited
  cases sent <;> cases awaited <;> cases shutdownResult <;> trivial

/-- The loop that accepts clients leaves with an empty hand: a permit that was acquired goes to a
client task in the same turn, before anything else is awaited. -/
theorem safe_serve_handing {post : RunExit → Bool → Prop} (left : ∀ exit, post exit false) :
    Safe handing serve post false := by
  apply safe_loop fun _ (held : Bool) => held = false
  · rfl
  rintro - _ rfl
  refine ⟨by simp, fun empty _ => ⟨by simp [acquires], fun event _ => ?_⟩⟩
  cases event with
  | supervisor outcome => exact left (.supervisor outcome)
  | shutdown result => exact left (.shutdown result)
  | joined completed =>
    obtain _ | error | value := completed
    · rfl
    · exact left (.clientTaskPanic error)
    · rfl
  | accepted ok =>
    cases ok with
    | false => exact ⟨by simp [acquires], fun _ _ => rfl⟩
    | true =>
      refine ⟨by simp [acquires], fun permit _ => ?_⟩
      cases permit with
      | acquired => exact ⟨by simp [acquires], fun _ _ => rfl⟩
      | noPermits => rfl
      | closed => exact left (.shutdown _)

/-- A runtime starts a client exactly when it holds the permit that it got for it, and ends with
an empty hand. -/
theorem safe_runUntil_handing (waitLimit : Duration) :
    Safe handing (runUntil waitLimit) (fun _ held => held = false) false := by
  apply (safe_bind _ _ _ _).mpr
  apply safe_serve_handing
  intro exit
  apply safe_permitless
  constructor
  · trivial
  intro _
  have joining : Issues Op.permitless joinClients := issues_joinClients trivial
  apply joining.bind
  intro panic
  cases exit with
  | supervisor outcome => trivial
  | shutdown result => exact issues_finishShutdown _ _
  | clientTaskPanic error => exact issues_finishShutdown _ _

/-- The monitor of the hand needs no assumption about the world. -/
def unassumingHand : Coupling platform handing where
  relates _ _ := True
  answered _ _ _ := trivial
  issued _ _ _ := trivial
  moved _ _ _ := trivial

section Hand

variable {waitLimit : Duration} {history : List Happening} {program : Running (Except Error Unit)}
  {world : World}

/-- In every run the hand is what the history says, and the rest of the program goes by it. -/
theorem runUntil_handing
    (reached : Reaches platform (runUntil waitLimit) World.initial history program world) :
    Safe handing program (fun _ held => held = false) (holding history) := by
  obtain ⟨held, watched, remaining⟩ :=
    reached.watched unassumingHand trivial (safe_runUntil_handing waitLimit)
  have same : held = holding history := by
    apply watched.always unassumingHand trivial
      (fun history held _ => held = holding history) rfl
    · intro history held world op reply after _ _ _ _
      rfl
    · intro history held world waiting move after same _ _ _
      exact same
  exact same ▸ remaining

/-- A client's task is started exactly when a permit is in the hand. -/
theorem starts_iff_holding {op : Op} {next : Reply op → Running (Except Error Unit)}
    (reached : Reaches platform (runUntil waitLimit) World.initial history (.perform op next) world) :
    op = .spawnClient ↔ holding history = true :=
  (runUntil_handing reached).1

/-- A runtime that has returned has no client and no permit. -/
theorem returned_emptyHanded {result : Except Error Unit}
    (reached : Reaches platform (runUntil waitLimit) World.initial history program world)
    (finished : program.value = some result) :
    holding history = false ∧ world.clients = [] := by
  have handed := runUntil_handing reached
  obtain ⟨progress, told, remaining⟩ := runUntil_told reached
  rw [Program.value_eq_some.mp finished] at handed remaining
  obtain ⟨⟨-, drained, -⟩, -⟩ := remaining
  exact ⟨handed, (told.drained drained).2⟩

end Hand

/-! ## The clients that run -/

/-- The clients whose tasks run. -/
def World.running (world : World) : Nat := world.clients.count .running

/-- Joining a client removes one that has already ended, so as many are running as before. -/
theorem joinNext_running {world after : World} {completed : Option (Except JoinError Unit)}
    (joined : world.joinNext completed = some after) : after.running = world.running := by
  cases completed with
  | none =>
    simp only [World.joinNext] at joined
    split at joined <;> cases joined
    rfl
  | some result =>
    simp only [World.joinNext] at joined
    split at joined <;> cases joined
    exact List.count_erase_of_ne (by simp)

/-- Operations start a client or leave those that run: of all of them only the one that spawns a
client changes how many are running, by one. -/
theorem performed_running {world after : World} {op : Op} {reply : Reply op}
    (performed : world.perform op reply = some after) :
    after.running = world.running + if op = .spawnClient then 1 else 0 := by
  cases op with
  | spawnClient =>
    cases performed
    simp [World.running]
  | joinNext => exact joinNext_running performed
  | select joining =>
    cases reply with
    | joined completed =>
      simp only [World.perform] at performed
      split at performed
      · exact joinNext_running performed
      · cases performed
    | supervisor | shutdown =>
      simp only [World.perform] at performed
      split at performed <;> cases performed
      rfl
    | accepted =>
      cases performed
      rfl
  | timeoutSupervisor deadline =>
    cases reply <;>
    · simp only [World.perform] at performed
      split at performed <;> cases performed
      rfl
  | sleep | abortAll | abortSupervisor =>
    cases performed
    rfl
  | connectionsEmpty | tryAcquire | sendShutdown | now | awaitSupervisor =>
    simp only [World.perform] at performed
    split at performed <;> cases performed
    rfl

/-- The move ends a client's task. -/
def Move.ended : Move → Nat
  | .clientEnds _ _ => 1
  | _ => 0

/-- The end of a running client takes one from those that run. -/
theorem ended_running {clients : List ClientTask} {client : Nat}
    (present : clients[client]? = some .running) (result : Except JoinError Unit) :
    (clients.set client (.ended result)).count .running + 1 = clients.count .running := by
  obtain ⟨inside, same⟩ := List.getElem?_eq_some_iff.mp present
  have counted : 0 < clients.count .running :=
    List.count_pos_iff.mpr (same ▸ List.getElem_mem inside)
  rw [List.count_set inside, same]
  simp
  omega

/-- Among the moves of a runtime's world only the end of a client changes how many run. -/
theorem moved_running {world after : World} {move : Move} (moved : world.move move = some after) :
    after.running + move.ended = world.running := by
  cases move with
  | clientEnds client result =>
    simp only [World.move] at moved
    split at moved <;> cases moved
    rename_i present
    exact ended_running present.1 result
  | supervisorReturns | supervisorEnds =>
    simp only [World.move] at moved
    split at moved <;> cases moved
    rfl
  | tick | request | closeLimiter =>
    cases moved
    rfl

end ServerRuntime

namespace Coordinator

/-! ## The shared semaphore -/

namespace RuntimeTask

/-- The permit in the hand of a runtime that has not panicked. -/
def inHand (task : RuntimeTask) : Nat :=
  if task.crashed.isNone && ServerRuntime.holding task.runtime.history then 1 else 0

/-- The connections of a runtime: its clients that run, and the one that it has let in and whose
task it is about to start. -/
def connections (task : RuntimeTask) : Nat := task.runtime.world.running + task.inHand

/-- A client that a panicked runtime has left behind is cancelled. -/
def abandon (task : RuntimeTask) (client : Nat) (display : String) : RuntimeTask :=
  let left := task.runtime.world.clients.set client (.ended (.error (.cancelled display)))
  { task with runtime := { task.runtime with
      world := { task.runtime.world with clients := left } } }

end RuntimeTask

/-- The connections of all runtimes. -/
def World.connections (world : World) : Nat := (world.runtimes.map RuntimeTask.connections).sum

/-- The daemon and the permits of its semaphore that are free. -/
structure Limited where
  daemon : World
  permits : Nat

/-- A move of the daemon's world, or the end of a client whose runtime has panicked and left it
behind. -/
inductive LimitedMove where
  | daemon (move : Move)
  | abandoned (task : TaskId) (client : Nat) (display : String)

/-- The permits that are free after a step of a runtime's tasks. `try_acquire_owned` gets one where
there is one, and finds none only where there is none. -/
def permitsAfter (permits : Nat) (task : RuntimeTask) : RuntimeStep → Option Nat
  | .advances (.issue .tryAcquire .acquired) => if 0 < permits then some (permits - 1) else none
  | .advances (.issue .tryAcquire .noPermits) => if permits = 0 then some permits else none
  | .advances (.move (.clientEnds _ _)) => some (permits + 1)
  | .crashes _ => some (permits + task.inHand)
  | _ => some permits

namespace Limited

/-- A semaphore with a permit for each connection. -/
def initial (maxConnections : Nat) (signalled : Bool) : Limited :=
  ⟨.initial signalled, maxConnections⟩

/-- The coordinator's own operations touch no permit. -/
def perform (limited : Limited) (op : Op) (reply : Reply op) : Option Limited :=
  (limited.daemon.perform op reply).map fun daemon => { limited with daemon := daemon }

/-- A step of a runtime takes or gives the permits it needs, and is not possible without them. A
client that was left behind gives its own back when it is cancelled. -/
def move (limited : Limited) : LimitedMove → Option Limited
  | .daemon (.runtime task step) =>
    (limited.daemon.runtimes[task]?).bind fun present =>
      (permitsAfter limited.permits present step).bind fun permits =>
        (limited.daemon.move (.runtime task step)).map fun daemon => ⟨daemon, permits⟩
  | .daemon move =>
    (limited.daemon.move move).map fun daemon => { limited with daemon := daemon }
  | .abandoned task client display =>
    (limited.daemon.runtimes[task]?).bind fun present =>
      if present.crashed.isSome ∧ present.runtime.world.clients[client]? = some .running then
        let runtimes := limited.daemon.runtimes.set task (present.abandon client display)
        some ⟨{ limited.daemon with runtimes := runtimes }, limited.permits + 1⟩
      else none

end Limited

/-- The coordinator's surroundings with the semaphore that its runtimes share. -/
def limitedPlatform : Platform Op Reply where
  World := Limited
  Move := LimitedMove
  perform := Limited.perform
  disturb limited _ move := limited.move move

/-! ## Every permit is in its place -/

namespace RuntimeTask

/-- A runtime that has not panicked is where its program leads. -/
def OnCourse (task : RuntimeTask) : Prop :=
  task.crashed = none → task.runtime.Continues (ServerRuntime.runUntil task.server.waitLimit)
    ServerRuntime.World.initial

variable {world : World} {task after : RuntimeTask} {step : RuntimeStep} {permits later : Nat}

/-- A runtime stays where its program leads as long as it does not panic, whatever is done to it
by its own operations or by the tasks beside it. -/
theorem onCourse_advanced (onCourse : task.OnCourse)
    (advanced : world.advanceTask task step = some after) : after.OnCourse := by
  cases step with
  | advances inner =>
    simp only [World.advanceTask] at advanced
    split at advanced
    · obtain ⟨runtime, moved, rfl⟩ := Option.map_eq_some_iff.mp advanced
      exact fun alive => (onCourse alive).advance moved
    · cases advanced
  | crashes display =>
    simp only [World.advanceTask] at advanced
    split at advanced <;> cases advanced
    intro alive
    cases alive
  | joins | fails | monitorPanics =>
    simp only [World.advanceTask] at advanced
    split at advanced <;> cases advanced
    exact onCourse

/-- A permit that a runtime acquires comes into its hand, and goes from there to a client. -/
theorem connections_issued {runtime : Configuration ServerRuntime.platform (Except Error Unit)}
    {op : ServerRuntime.Op} {reply : ServerRuntime.Reply op} (onCourse : task.OnCourse)
    (alive : task.crashed = none) (issued : task.runtime.advance (.issue op reply) = some runtime) :
    ({ task with runtime := runtime } : RuntimeTask).connections =
      task.connections + (ServerRuntime.acquires op reply).toNat := by
  have continues := onCourse alive
  obtain ⟨server, ⟨history, program, world⟩, crashed, monitor, joined⟩ := task
  cases program with
  | perform pending next =>
    simp only [Configuration.advance] at issued
    split at issued
    · rename_i same
      subst same
      obtain ⟨later, performed, rfl⟩ := Option.map_eq_some_iff.mp issued
      have starts := ServerRuntime.starts_iff_holding continues
      have running := ServerRuntime.performed_running performed
      subst alive
      simp only [connections, inHand, ServerRuntime.holding, running, starts, Option.isNone_none,
        Bool.true_and]
      cases ServerRuntime.acquires op reply <;> simp
    · cases issued
  | done value => cases issued
  | iterate body state next => cases issued

/-- An operation of a runtime takes one permit if it acquires one, and none otherwise, so what was
free before is what is free after it and what it took. -/
theorem permitsAfter_issue {op : ServerRuntime.Op} {reply : ServerRuntime.Reply op}
    (free : permitsAfter permits task (.advances (.issue op reply)) = some later) :
    later + (ServerRuntime.acquires op reply).toNat = permits := by
  cases op with
  | tryAcquire =>
    cases reply with
    | acquired =>
      simp only [permitsAfter] at free
      split at free <;> cases free
      simp only [ServerRuntime.acquires, Bool.toNat_true]
      omega
    | noPermits =>
      simp only [permitsAfter] at free
      split at free <;> cases free
      rfl
    | closed =>
      obtain rfl := Option.some.inj free
      rfl
  | _ =>
    obtain rfl := Option.some.inj free
    rfl

/-- A move of a runtime's world gives back the permit of the client that it ends. -/
theorem permitsAfter_move {move : ServerRuntime.Move}
    (free : permitsAfter permits task (.advances (.move move)) = some later) :
    later = permits + move.ended := by
  cases move <;> exact (Option.some.inj free).symm

/-- A step of a runtime's tasks moves permits between the semaphore and the connections: their sum
is the same before and after it, also where a client panics or is cancelled. -/
theorem connections_advanced (onCourse : task.OnCourse)
    (advanced : world.advanceTask task step = some after)
    (free : permitsAfter permits task step = some later) :
    after.connections + later = task.connections + permits := by
  cases step with
  | advances inner =>
    simp only [World.advanceTask] at advanced
    split at advanced
    · rename_i possible
      obtain ⟨runtime, moved, rfl⟩ := Option.map_eq_some_iff.mp advanced
      have alive := Option.isNone_iff_eq_none.mp possible.1
      cases inner with
      | issue op reply =>
        have issued := connections_issued onCourse alive moved
        have freed := permitsAfter_issue free
        omega
      | move move =>
        obtain ⟨surroundings, passed, rfl⟩ := Option.map_eq_some_iff.mp moved
        have running := ServerRuntime.moved_running passed
        have freed := permitsAfter_move free
        change surroundings.running + task.inHand + later =
          task.runtime.world.running + task.inHand + permits
        omega
      | turn =>
        obtain rfl := Option.some.inj free
        obtain ⟨server, ⟨history, program, world⟩, crashed, monitor, joined⟩ := task
        cases program with
        | iterate body state next =>
          cases moved
          rfl
        | done value => cases moved
        | perform op next => cases moved
    · cases advanced
  | crashes display =>
    simp only [World.advanceTask] at advanced
    split at advanced <;> cases advanced
    obtain rfl := Option.some.inj free
    simp only [connections, inHand, Option.isNone_some, Bool.false_and, Bool.false_eq_true, if_false]
    omega
  | joins | fails | monitorPanics =>
    simp only [World.advanceTask] at advanced
    split at advanced <;> cases advanced
    obtain rfl := Option.some.inj free
    rfl

/-- A client left behind gives its permit back. -/
theorem connections_abandon {client : Nat}
    (present : task.runtime.world.clients[client]? = some .running) (display : String) :
    (task.abandon client display).connections + 1 = task.connections := by
  have running := ServerRuntime.ended_running present (.error (.cancelled display))
  change _ + task.inHand + 1 = List.count .running task.runtime.world.clients + task.inHand
  rw [← running]
  exact Nat.add_right_comm _ _ _

/-- A runtime that has returned has no connection. -/
theorem connections_returned {result : Except Error Unit} (onCourse : task.OnCourse)
    (ended : task.outcome = some (.ok result)) : task.connections = 0 := by
  obtain ⟨alive, finished⟩ := outcome_ok ended
  obtain ⟨empty, joined⟩ := ServerRuntime.returned_emptyHanded (onCourse alive) finished
  simp [connections, inHand, ServerRuntime.World.running, empty, joined]

end RuntimeTask

/-- One term of a sum is replaced by another; it is stated without a subtraction, so that callers
can use it with `omega`. -/
theorem sum_set {index : Nat} {terms : List Nat} {present term : Nat}
    (listed : terms[index]? = some present) :
    (terms.set index term).sum + present = terms.sum + term := by
  induction terms generalizing index with
  | nil => cases listed
  | cons head rest inductionHypothesis =>
    cases index with
    | zero =>
      obtain rfl := Option.some.inj listed
      simp only [List.set_cons_zero, List.sum_cons]
      omega
    | succ index =>
      have remaining := inductionHypothesis listed
      simp only [List.set_cons_succ, List.sum_cons]
      omega

namespace World

variable {world after : World}

/-- The connections of one runtime are replaced by others. -/
theorem connections_set {index : Nat} {task later : RuntimeTask}
    (listed : world.runtimes[index]? = some task)
    (replaced : after.runtimes = world.runtimes.set index later) :
    after.connections + task.connections = world.connections + later.connections := by
  simp only [connections, replaced, List.map_set]
  apply sum_set
  rw [List.getElem?_map, listed]
  rfl

/-- An operation of the coordinator adds a runtime, or says of one that it was joined, or leaves
the runtimes as they are. -/
theorem performed_runtimes {op : Op} {reply : Reply op}
    (performed : world.perform op reply = some after) :
    after.runtimes = world.runtimes ∨
      (∃ server, after.runtimes = world.runtimes ++ [.spawn server]) ∨
      ∃ task present, world.runtimes[task]? = some present ∧
        after.runtimes = world.runtimes.set task { present with joined := true } := by
  have joined (completed : Option Completed) (joins : world.joins completed = some after) :
      after.runtimes = world.runtimes ∨ ∃ task present, world.runtimes[task]? = some present ∧
        after.runtimes = world.runtimes.set task { present with joined := true } := by
    cases completed with
    | none =>
      cases joins
      exact .inl rfl
    | some completed =>
      obtain ⟨task, present, -, -, rfl⟩ := World.joins_some joins
      exact .inr ⟨_, task, present, rfl⟩
  cases op with
  | tryJoinNext => exact (joined reply performed).imp_right .inr
  | spawnRuntime server =>
    simp only [World.perform] at performed
    split at performed <;> cases performed
    exact .inr (.inl ⟨server, rfl⟩)
  | select receiving watching =>
    cases reply with
    | runtime completed =>
      cases completed with
      | none =>
        simp only [World.perform] at performed
        split at performed <;> cases performed
        exact .inl rfl
      | some completed => exact (joined (some completed) performed).imp_right .inr
    | watcher result =>
      simp only [World.perform] at performed
      split at performed <;> cases performed
      exact .inl rfl
    | infrastructure failure =>
      cases failure <;>
      · simp only [World.perform] at performed
        split at performed <;> cases performed
        exact .inl rfl
  | tryRecvFailure =>
    cases reply <;>
    · simp only [World.perform] at performed
      split at performed <;> cases performed
      exact .inl rfl
  | watcherFinished | awaitWatcher | runtimesEmpty | isPending | takeFailures =>
    simp only [World.perform] at performed
    split at performed <;> cases performed
    exact .inl rfl
  | yieldNow | abortWatcher | fail =>
    cases performed
    exact .inl rfl

end World

/-- Every permit is free or with a connection, and the runtimes that have not panicked are where
their programs lead. -/
structure Balanced (maxConnections : Nat) (limited : Limited) : Prop where
  balance : limited.daemon.connections + limited.permits = maxConnections
  onCourse : ∀ task ∈ limited.daemon.runtimes, task.OnCourse

namespace Balanced

variable {maxConnections permits : Nat} {limited : Limited} {daemon : World}

/-- Before the first activation every permit is free. -/
theorem initial (signalled : Bool) : Balanced maxConnections (.initial maxConnections signalled) where
  balance := Nat.zero_add maxConnections
  onCourse _ listed := nomatch listed

/-- One runtime is replaced, and the permits move between it and the semaphore. All others are as
they were, so the sum over all runtimes changes by what this one does. -/
theorem replace (balanced : Balanced maxConnections limited) {index : TaskId}
    {task later : RuntimeTask} (listed : limited.daemon.runtimes[index]? = some task)
    (replaced : daemon.runtimes = limited.daemon.runtimes.set index later)
    (onCourse : task.OnCourse → later.OnCourse)
    (moved : task.OnCourse → later.connections + permits = task.connections + limited.permits) :
    Balanced maxConnections ⟨daemon, permits⟩ := by
  have present := balanced.onCourse task (List.mem_of_getElem? listed)
  constructor
  · have connections := World.connections_set listed replaced
    have balance := balanced.balance
    have passed := moved present
    change daemon.connections + permits = maxConnections
    omega
  · intro other found
    rw [replaced] at found
    rcases List.mem_or_eq_of_mem_set found with old | rfl
    · exact balanced.onCourse other old
    · exact onCourse present

/-- The runtimes are left as they are. -/
theorem leave (balanced : Balanced maxConnections limited)
    (same : daemon.runtimes = limited.daemon.runtimes) :
    Balanced maxConnections { limited with daemon := daemon } := by
  constructor
  · rw [← balanced.balance]
    simp only [World.connections, same]
  · intro task listed
    exact balanced.onCourse task (same ▸ listed)

/-- The coordinator's operations keep the balance: a runtime that is activated has no client yet,
and one that is joined keeps those it has. -/
theorem performed {later : Limited} {op : Op} {reply : Reply op}
    (balanced : Balanced maxConnections limited)
    (performed : limited.perform op reply = some later) : Balanced maxConnections later := by
  obtain ⟨daemon, coordinated, rfl⟩ := Option.map_eq_some_iff.mp performed
  rcases World.performed_runtimes coordinated with
    same | ⟨server, added⟩ | ⟨index, task, listed, joined⟩
  · exact balanced.leave same
  · constructor
    · have fresh : (RuntimeTask.spawn server).connections = 0 := rfl
      rw [← balanced.balance]
      simp [World.connections, added, fresh]
    · intro task listed
      rw [added] at listed
      rcases List.mem_append.mp listed with old | new
      · exact balanced.onCourse task old
      · rw [List.mem_singleton.mp new]
        exact fun _ => .start
  · exact balanced.replace listed joined (fun onCourse => onCourse) fun _ => rfl

/-- Every move keeps the balance, a panic of a runtime included, whose permit in the hand is freed
while those of its clients stay with them. -/
theorem moved {later : Limited} {move : LimitedMove} (balanced : Balanced maxConnections limited)
    (moved : limited.move move = some later) : Balanced maxConnections later := by
  cases move with
  | daemon move =>
    cases move with
    | runtime index step =>
      obtain ⟨task, listed, allowed⟩ := Option.bind_eq_some_iff.mp moved
      obtain ⟨permits, free, mapped⟩ := Option.bind_eq_some_iff.mp allowed
      obtain ⟨daemon, acted, rfl⟩ := Option.map_eq_some_iff.mp mapped
      obtain ⟨stepped⟩ := World.runtime_stepped acted
      have same : stepped.present = task := Option.some.inj (stepped.found.symm.trans listed)
      have advanced := stepped.stepped
      rw [same] at advanced
      exact balanced.replace listed stepped.runtimes
        (fun onCourse => RuntimeTask.onCourse_advanced onCourse advanced)
        (fun onCourse => RuntimeTask.connections_advanced onCourse advanced free)
    | watcher step =>
      obtain ⟨daemon, watched, rfl⟩ := Option.map_eq_some_iff.mp moved
      exact balanced.leave (World.watch_stepped watched).runtimes
    | closeLimiter =>
      obtain rfl := Option.some.inj moved
      exact balanced.leave rfl
  | abandoned index client display =>
    obtain ⟨task, listed, allowed⟩ := Option.bind_eq_some_iff.mp moved
    split at allowed
    · rename_i left
      obtain rfl := Option.some.inj allowed
      refine balanced.replace listed rfl (fun _ alive => ?_) fun _ => ?_
      · have panicked := left.1
        rw [show task.crashed = none from alive] at panicked
        cases panicked
      · have freed := RuntimeTask.connections_abandon left.2 display
        omega
    · cases allowed

/-- What `try_acquire_owned` replied tells what was free: a permit was got where there was one,
and none was where there was none. -/
theorem permit {index : TaskId} {permit : ServerRuntime.TryAcquire} {later : Limited}
    (moved : limited.move (.daemon (.runtime index (.advances (.issue .tryAcquire permit)))) =
      some later) :
    (permit = .acquired → 0 < limited.permits) ∧ (permit = .noPermits → limited.permits = 0) := by
  obtain ⟨task, -, allowed⟩ := Option.bind_eq_some_iff.mp moved
  obtain ⟨permits, free, -⟩ := Option.bind_eq_some_iff.mp allowed
  cases permit with
  | acquired =>
    simp only [permitsAfter, Option.ite_none_right_eq_some] at free
    exact ⟨fun _ => free.1, by simp⟩
  | noPermits =>
    simp only [permitsAfter, Option.ite_none_right_eq_some] at free
    exact ⟨by simp, fun _ => free.1⟩
  | closed => exact ⟨by simp, by simp⟩

end Balanced

/-- In every state that the daemon reaches, the permits that are free and the connections of all
its runtimes together make up the limit. A connection is let in only below the limit, and it is
refused only at the limit; and once all runtimes have returned, every permit is free again. -/
theorem runtimes_share_connection_limit {α : Type} {maxConnections : Nat} {signalled : Bool}
    {first program : Coordinating α} {history : History limitedPlatform} {limited : Limited}
    (reached : Reaches limitedPlatform first (Limited.initial maxConnections signalled) history
      program limited) :
    limited.daemon.connections + limited.permits = maxConnections ∧
    (∀ index permit later,
      limited.move (.daemon (.runtime index (.advances (.issue .tryAcquire permit)))) = some later →
        (permit = .acquired → limited.daemon.connections < maxConnections) ∧
        (permit = .noPermits → limited.daemon.connections = maxConnections)) ∧
    ((∀ task ∈ limited.daemon.runtimes, ∃ result, task.outcome = some (.ok result)) →
      limited.permits = maxConnections) := by
  have balanced : Balanced maxConnections limited := by
    apply reached.invariant (fun held performed => held.performed performed)
      (fun held moved => held.moved moved)
    exact .initial signalled
  have balance := balanced.balance
  refine ⟨balance, fun index permit later moved => ?_, fun returned => ?_⟩
  · obtain ⟨acquired, refused⟩ := Balanced.permit moved
    constructor
    · intro got
      have free := acquired got
      omega
    · intro missed
      have none := refused missed
      omega
  · have unconnected : limited.daemon.connections = 0 := by
      apply List.sum_eq_zero_iff_forall_eq_nat.mpr
      intro connections listed
      obtain ⟨task, present, rfl⟩ := List.mem_map.mp listed
      obtain ⟨result, ended⟩ := returned task present
      exact RuntimeTask.connections_returned (balanced.onCourse task present) ended
    omega

/-- A runtime's own program takes a step. -/
def limitedStep (index : TaskId)
    (step : Advance ServerRuntime.Op ServerRuntime.Reply ServerRuntime.Move) : Cue limitedPlatform :=
  .move (.daemon (.runtime index (.advances step)))

/-- Two servers share one permit. The first lets a client in, then the second accepts one. -/
def crowdedRun : Configuration limitedPlatform (Except Error Unit) :=
  (Configuration.fresh limitedPlatform (activateAndRun [⟨"lobby", 50⟩, ⟨"survival", 50⟩])
    (Limited.initial 1 false)).rehearse (fun limited op => limited.daemon.dictated op) 32
    [limitedStep 0 .turn, limitedStep 0 (.issue .connectionsEmpty true),
      limitedStep 0 (.issue (.select false) (.accepted true)),
      limitedStep 0 (.issue .tryAcquire .acquired), limitedStep 0 (.issue .spawnClient ()),
      limitedStep 1 .turn, limitedStep 1 (.issue .connectionsEmpty true),
      limitedStep 1 (.issue (.select false) (.accepted true))]

/-- The crowded run is one that the daemon can really take. -/
theorem crowdedRun_reached : crowdedRun.Continues
    (activateAndRun [⟨"lobby", 50⟩, ⟨"survival", 50⟩]) (Limited.initial 1 false) :=
  Configuration.rehearse_reached _ _ _ _ _

/-- The second server refuses its client, as the only connection is one of the first. -/
theorem second_server_finds_no_permit :
    ∃ later, crowdedRun.world.move (.daemon (.runtime 1 (.advances
      (.issue .tryAcquire .noPermits)))) = some later ∧ crowdedRun.world.daemon.connections = 1 := by
  obtain ⟨later, refused⟩ := Option.isSome_iff_exists.mp
    (by decide +kernel : (crowdedRun.world.move (.daemon (.runtime 1 (.advances
      (.issue .tryAcquire .noPermits))))).isSome = true)
  exact ⟨later, refused,
    ((runtimes_share_connection_limit crowdedRun_reached).2.1 1 .noPermits later refused).2 rfl⟩

end Coordinator

end McServerNap
