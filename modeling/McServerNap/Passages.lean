import McServerNap.Interaction.Passage
import McServerNap.Record

/-!
# Passages of the supervisor

What the supervisor's functions do in a world of which only some parts are known. Each
rule takes the passage that remains once the function has returned, so that a run can be
followed through functions as through operations. The runs followed here are those in
which nobody asks the supervisor to end.
-/

namespace McServerNap

open Interaction SupervisorControl

/-- Events other than the answer to a request. -/
def Happening.quiet : Happening → Bool
  | .issued (.answer _ _) _ => false
  | _ => true

/-- Nothing has asked the supervisor to end. -/
structure World.Ongoing (world : World) : Prop where
  sendersOpen : world.sendersOpen = true
  shutdown : world.shutdown = .empty

/-- The world with one more client task. -/
def World.joined (world : World) (task : ClientTask) : World :=
  { world with clients := world.clients ++ [task] }

/-- The world with one client task at another point. -/
def World.placed (world : World) (index : Nat) (task : ClientTask) : World :=
  { world with clients := world.clients.set index task }

section

variable {α : Type} {allowed : Happening → Prop} {world after : World}
  {program last : Supervised α} {config : SupervisorConfig}
  (lenient : ∀ happening, Happening.quiet happening = true → allowed happening)

include lenient

/-! ## Channels and publications -/

/-- An operation with a reply that the world gives leads on to what follows it. -/
theorem passes_access {op : Op} {reply : Reply op} {between : World}
    {next : Reply op → Supervised α} (performed : world.perform op reply = some between)
    (quiet : Happening.quiet (.issued op reply) = true)
    (rest : Passage platform allowed (next reply) between last after) :
    Passage platform allowed ((access op).bind next) world last after :=
  .issue performed (lenient _ quiet) rest

/-- Reading the lifecycle leads on with what is published. -/
theorem passes_currentLifecycle {next : LifecycleState → Supervised α}
    (rest : Passage platform allowed (next world.lifecycle) world last after) :
    Passage platform allowed (currentLifecycle.bind next) world last after :=
  passes_access lenient (if_pos rfl) rfl rest

/-- Reading the clock leads on with its instant. -/
theorem passes_now {next : Instant → Supervised α}
    (rest : Passage platform allowed (next world.clock) world last after) :
    Passage platform allowed (now.bind next) world last after :=
  passes_access lenient (if_pos rfl) rfl rest

/-- A wait leads on with an event that the world can complete. -/
theorem passes_select {sources : List Source} {event : Event} {next : Event → Supervised α}
    (selects : world.selects sources event = true)
    (rest : Passage platform allowed (next event) (world.completed event) last after) :
    Passage platform allowed ((select sources).bind next) world last after :=
  passes_access lenient (if_pos selects) rfl rest

/-- While the daemon goes on, the wake channel is found open. -/
theorem passes_wakesClosed {next : Bool → Supervised α} (ongoing : world.Ongoing)
    (rest : Passage platform allowed (next false) world last after) :
    Passage platform allowed (wakesClosed.bind next) world last after := by
  refine passes_access lenient ?_ rfl rest
  simp [World.perform, ongoing.sendersOpen]

/-- And no shutdown is found. -/
theorem passes_shutdownPending {next : Bool → Supervised α} (ongoing : world.Ongoing)
    (rest : Passage platform allowed (next false) world last after) :
    Passage platform allowed (shutdownPending.bind next) world last after := by
  have empty : world.perform .tryRecvShutdown .empty = some world := by
    simp [World.perform, ongoing.shutdown]
  rw [shutdownPending, Program.bind_eq, Program.bind_assoc]
  refine passes_wakesClosed lenient ongoing ?_
  simp only [Bool.false_eq_true, if_false]
  exact passes_access lenient empty rfl rest

/-- A well-formed state is published and leads on. -/
theorem passes_publish {transition : Transition} {state : LifecycleState}
    {next : Unit → Supervised α} (invariant : state.invariantHolds = true)
    (rest : Passage platform allowed (next ()) { world with lifecycle := state } last after) :
    Passage platform allowed ((publish transition state).bind next) world last after := by
  have published : world.perform (.publish transition state) () =
      some { world with lifecycle := state } := rfl
  simp only [publish, assert, if_pos invariant, Program.bind_eq, Program.done_bind]
  exact passes_access lenient published rfl rest

/-- A publication whose assertions hold. -/
theorem passes_advance {transition : Transition} {next : LifecycleState × Instant → Supervised α}
    (admitted : transition.admits world.lifecycle = true)
    (rest : Passage platform allowed
      (next (transition.target world.lifecycle world.clock, world.clock))
      { world with lifecycle := transition.target world.lifecycle world.clock } last after) :
    Passage platform allowed ((advance transition).bind next) world last after := by
  simp only [advance, assert, Program.bind_eq, Program.bind_assoc]
  refine passes_currentLifecycle lenient ?_
  rw [if_pos admitted, Program.done_bind]
  refine passes_now lenient ?_
  exact passes_publish lenient (transition.target_invariant _ _ admitted) rest

/-- Where it is admitted, `publish_running` begins the cycle's record and publishes the running
phase at the same instant. -/
theorem passes_publishRunning {next : BackendCycle → Supervised α}
    (admitted : Transition.publishRunning.admits world.lifecycle = true)
    (rest : Passage platform allowed (next ⟨world.lifecycle.launchGeneration⟩)
      { world with
        activity := some (.beginCycle ⟨world.lifecycle.launchGeneration⟩ world.clock)
        lifecycle := Transition.publishRunning.target world.lifecycle world.clock }
      last after) :
    Passage platform allowed (publishRunning.bind next) world last after := by
  have begun : world.perform (.beginCycle ⟨world.lifecycle.launchGeneration⟩ world.clock) () =
      some { world with
        activity := some (.beginCycle ⟨world.lifecycle.launchGeneration⟩ world.clock) } := rfl
  simp only [publishRunning, assert, Program.bind_eq, Program.bind_assoc]
  refine passes_currentLifecycle lenient ?_
  rw [if_pos admitted, Program.done_bind]
  refine passes_now lenient ?_
  refine passes_access lenient begun rfl ?_
  exact passes_publish lenient (Transition.target_invariant _ _ _ admitted) rest

/-! ## Demands and the final gate -/

/-- The request of a client that has sampled the published conflict is accepted. It is received by
the wait and counts as a demand for another reconciliation. -/
theorem passes_waitForReconciliationDemand {next : Bool → Supervised α}
    (answers : allowed (.issued (.answer ⟨world.lifecycle⟩ true) ())) (ongoing : world.Ongoing)
    (slot : world.slot = some ⟨world.lifecycle⟩) (phase : world.lifecycle.phase = .conflict)
    (rest : Passage platform allowed (next true) { world with slot := none } last after) :
    Passage platform allowed (waitForReconciliationDemand.bind next) world last after := by
  have accepted : (WakeRequest.canStart ⟨world.lifecycle⟩ world.lifecycle ||
      WakeRequest.requestsConflictReconciliation ⟨world.lifecycle⟩ world.lifecycle) = true := by
    simp [WakeRequest.requestsConflictReconciliation, phase]
  have selects : world.selects [.shutdown, .wake] (.wake (some ⟨world.lifecycle⟩)) = true := by
    simp [World.selects, World.completes, World.ready, ongoing.shutdown, slot]
  have answered : platform.perform { world with slot := none }
      (.answer ⟨world.lifecycle⟩ true) () = some { world with slot := none } := rfl
  refine .unroll ?_
  simp only [Program.turn, Program.bind_eq, Program.bind_assoc]
  refine passes_wakesClosed lenient ongoing ?_
  simp only [Bool.false_eq_true, if_false, Program.bind_assoc]
  refine passes_select lenient selects ?_
  simp only [Program.bind_assoc, World.completed]
  refine passes_currentLifecycle lenient ?_
  simp only [accepted, if_true]
  exact .issue answered answers rest

/-- A reconciliation's wait leads on with any observation that its probe may make, since the probe
is always ready and nothing before it is. -/
theorem passes_waitForReconciliation {latch : Bool}
    {next : ReconciliationWaitOutcome → Supervised α} (ongoing : world.Ongoing)
    (observation : ProbeObservation)
    (rest : Passage platform allowed
      (next (.completed (reconciliationProbe config.rcon observation) false)) world last after) :
    Passage platform allowed ((waitForReconciliation config latch).bind next) world last after := by
  have silent : world.ready .shutdown = false := by simp [World.ready, ongoing.shutdown]
  have selects : world.selects [.shutdown, .probe, .wake] (.probe observation) = true := by
    simp [World.selects, World.completes, silent]
  refine .unroll ?_
  simp only [Program.turn, Program.bind_eq, Program.bind_assoc]
  refine passes_wakesClosed lenient ongoing ?_
  simp only [Bool.false_eq_true, if_false, Program.bind_assoc]
  exact passes_select lenient selects rest

/-- The final gate opens after a clean probe: the reconciliation is published, the probe
classifies as clean, and no shutdown is found at the check. -/
theorem passes_clean_gate {next : FinalGateOutcome → Supervised α} (ongoing : world.Ongoing)
    (phase : world.lifecycle.phase = .conflict)
    (evidence : world.lifecycle.reconciliationEvidence = .inconclusive)
    {observation : ProbeObservation}
    (clean : (reconciliationProbe config.rcon observation).classification = .clean)
    (rest : Passage platform allowed (next .launch)
      { world with lifecycle := Transition.beginReconciliation.target world.lifecycle world.clock }
      last after) :
    Passage platform allowed ((reconcileFinalGate config).bind next) world last after := by
  simp only [reconcileFinalGate, beginReconciliation, Program.bind_eq, Program.bind_assoc]
  refine passes_advance lenient (by simp [Transition.admits, phase]) ?_
  simp only [Program.pure_eq, Program.done_bind]
  refine passes_waitForReconciliation lenient ⟨ongoing.sendersOpen, ongoing.shutdown⟩
    observation ?_
  simp only [Program.bind_assoc]
  refine passes_shutdownPending lenient ⟨ongoing.sendersOpen, ongoing.shutdown⟩ ?_
  simpa [Transition.target, evidence, clean] using rest

/-- The final gate blocks after an inconclusive probe, and uses up the demand: the conflict is
published again, and the counter goes on by one. -/
theorem passes_inconclusive_gate {next : FinalGateOutcome → Supervised α}
    (ongoing : world.Ongoing) (phase : world.lifecycle.phase = .conflict)
    (evidence : world.lifecycle.reconciliationEvidence = .inconclusive)
    {observation : ProbeObservation}
    (inconclusive : (reconciliationProbe config.rcon observation).classification = .inconclusive)
    (rest : Passage platform allowed (next .blocked)
      { world with
        lifecycle := (Transition.publishConflict .inconclusive true).target world.lifecycle
          world.clock }
      last after) :
    Passage platform allowed ((reconcileFinalGate config).bind next) world last after := by
  simp only [reconcileFinalGate, beginReconciliation, Program.bind_eq, Program.bind_assoc]
  refine passes_advance lenient (by simp [Transition.admits, phase]) ?_
  simp only [Program.pure_eq, Program.done_bind]
  refine passes_waitForReconciliation lenient ⟨ongoing.sendersOpen, ongoing.shutdown⟩
    observation ?_
  simp only [Program.bind_assoc]
  refine passes_shutdownPending lenient ⟨ongoing.sendersOpen, ongoing.shutdown⟩ ?_
  simp only [Transition.target, evidence, inconclusive, Bool.false_eq_true, if_false,
    reduceCtorEq, publishConflictObservation, publishConflict, Program.bind_eq,
    Program.bind_assoc]
  refine passes_advance lenient rfl ?_
  simpa [Transition.target] using rest

/-! ## Launches -/

/-- The first connection attempt to a launched server succeeds, at the instant at which the wait
began, so that no deadline matters to it. -/
theorem passes_waitForReadiness {next : ReadinessOutcome → Supervised α}
    (ongoing : world.Ongoing) (slot : world.slot = none) (live : world.child = .live)
    (patient : 0 < config.startupTimeout)
    (rest : Passage platform allowed (next .ready) world last after) :
    Passage platform allowed ((waitForReadiness config).bind next) world last after := by
  have selects (deadline : Instant) : world.selects
      [.shutdown, .wake, .child, .connect, .sleepUntil .connectAttempt deadline]
      (.connect true) = true := by
    simp [World.selects, World.completes, World.ready, ongoing.shutdown, ongoing.sendersOpen,
      slot, live]
  have early : ¬ world.clock + config.startupTimeout ≤ world.clock :=
    Nat.not_le_of_lt (Nat.lt_add_of_pos_right patient)
  simp only [waitForReadiness, Program.loop, Program.bind_eq, Program.bind_assoc]
  refine passes_now lenient ?_
  refine .unroll ?_
  simp only [Program.turn, Program.bind_assoc]
  refine passes_now lenient ?_
  simp only [early, if_false, Program.bind_assoc]
  refine passes_now lenient ?_
  refine passes_now lenient ?_
  exact passes_select lenient (selects _) rest

/-- A recorded launch whose server gets ready at once is monitored. Three publications lie on the
way, and the cycle that begins is that of the counter after the launch. -/
theorem passes_ready_launch {following : CycleResult → Supervised α} (ongoing : world.Ongoing)
    (slot : world.slot = none) (live : world.child = .live)
    (phase : world.lifecycle.phase = .reconciling)
    (evidence : world.lifecycle.reconciliationEvidence = .inconclusive)
    (patient : 0 < config.startupTimeout) :
    ∃ monitoring, Passage platform allowed
      (recordLaunchSuccess.bind fun _ => (runServerCycle config).bind following) world monitoring
      { world with
        activity := some (.beginCycle ⟨wrappingSucc world.lifecycle.launchGeneration⟩ world.clock)
        lifecycle := Transition.publishRunning.target
          (Transition.recordLaunchSuccess.target world.lifecycle world.clock) world.clock } := by
  refine ⟨?_, ?_⟩
  rotate_left
  · simp only [recordLaunchSuccess, Program.bind_eq, Program.bind_assoc]
    refine passes_advance lenient ?_ ?_
    · simp [Transition.admits, phase, evidence]
    simp only [Program.pure_eq, Program.done_bind, runServerCycle, Program.bind_eq,
      Program.bind_assoc]
    refine passes_waitForReadiness lenient ⟨ongoing.sendersOpen, ongoing.shutdown⟩ slot live
      patient ?_
    simp only [Program.bind_assoc]
    refine passes_shutdownPending lenient ⟨ongoing.sendersOpen, ongoing.shutdown⟩ ?_
    simp only [Bool.false_eq_true, if_false, Program.bind_assoc]
    refine passes_publishRunning lenient rfl ?_
    exact .refl _ _

/-- The cooldown after a failed launch refuses a request that observed no failure: the client had
sampled the lifecycle before the launch it would retry. -/
theorem passes_refused_retry {observed : LifecycleState} {retryAt : Instant}
    (following : Turn Bool (Except SupervisorError Unit) → Supervised α) (ongoing : world.Ongoing)
    (slot : world.slot = some ⟨observed⟩) (failed : world.lifecycle.failure = some .launchFailed)
    (retried : world.lifecycle.retryAt = some retryAt) (unfailed : observed.failure = none)
    (early : world.clock < retryAt) :
    ∃ answered, Passage platform allowed ((afterCooldown retryAt false).bind following) world
      ((answer ⟨observed⟩ false).bind answered) { world with slot := none } := by
  have refused : WakeRequest.requestsRetry ⟨observed⟩ world.lifecycle = false := by
    simp [WakeRequest.requestsRetry, failed, unfailed]
  have selects : world.selects [.shutdown, .wake, .sleepUntil .cooldown retryAt]
      (.wake (some ⟨observed⟩)) = true := by
    simp [World.selects, World.completes, World.ready, ongoing.shutdown, slot]
  refine ⟨?_, ?_⟩
  rotate_left
  · simp only [afterCooldown, logCurrentFailureCooldown, assert, Program.bind_eq,
      Program.bind_assoc]
    refine passes_currentLifecycle lenient ?_
    simp only [failed, retried, Option.isSome_some, if_true, Program.done_bind]
    refine .unroll ?_
    simp only [Program.turn, Program.bind_eq, Program.bind_assoc]
    refine passes_shutdownPending lenient ongoing ?_
    simp only [Bool.false_eq_true, if_false, Program.bind_assoc]
    refine passes_now lenient ?_
    simp only [Nat.not_le_of_lt early, if_false, Program.bind_assoc]
    refine passes_select lenient selects ?_
    simp only [Program.bind_assoc, World.completed]
    refine passes_currentLifecycle lenient ?_
    simp only [refused, Bool.false_and]
    exact .refl _ _

/-! ## Client tasks -/

/-- A move of the others leads on with the program where it was. -/
theorem passes_move (move : Move) {between : World} (moved : world.move move = some between)
    (rest : Passage platform allowed program between last after) :
    Passage platform allowed program world last after :=
  .move moved (lenient _ rfl) rest

/-- A client's step does, and puts its later task in its place. -/
theorem passes_client {index : Nat} {task : ClientTask} (step : ClientStep) (later : ClientTask)
    (between : World) (listed : world.clients[index]? = some task)
    (stepped : world.clientStep task step = some (later, between))
    (rest : Passage platform allowed program (between.placed index later) last after) :
    Passage platform allowed program world last after := by
  refine passes_move lenient (.client index step) ?_ rest
  simp [World.move, World.placed, listed, stepped]

/-- A step of the client that came last. -/
theorem passes_newest {task : ClientTask} (step : ClientStep) (later : ClientTask)
    (between : World) (same : between.clients = world.clients)
    (stepped : (world.joined task).clientStep task step = some (later, between.joined task))
    (rest : Passage platform allowed program (between.joined later) last after) :
    Passage platform allowed program (world.joined task) last after := by
  have listed : (world.joined task).clients[world.clients.length]? = some task := by
    simp [World.joined]
  have left : between.joined later = (between.joined task).placed world.clients.length later := by
    simp [World.joined, World.placed, same]
  rw [left] at rest
  exact passes_client lenient step later (between.joined task) listed stepped rest

/-- A further step of one client, which changes nothing else. -/
theorem passes_placed {index : Nat} {task : ClientTask} (step : ClientStep) (later : ClientTask)
    (inside : index < world.clients.length)
    (stepped : (world.placed index task).clientStep task step =
      some (later, world.placed index task))
    (rest : Passage platform allowed program (world.placed index later) last after) :
    Passage platform allowed program (world.placed index task) last after := by
  have listed : (world.placed index task).clients[index]? = some task := by
    simp [World.placed, inside]
  refine passes_client lenient step later _ listed stepped ?_
  simpa [World.placed] using rest

/-- A client that waited for the gate goes on to the replay of its handshake where the
published cycle is the one that it has sampled. -/
theorem passes_replay {index : Nat} {cycle : BackendCycle}
    (queued : world.clients[index]? = some (.queued cycle)) (free : world.writer = false)
    (supervised : world.supervised = true)
    (current : world.lifecycle.ownedRunningCycle = some cycle) :
    Passage platform allowed program world program
      (world.placed index (.working .replay cycle)) := by
  obtain ⟨inside, present⟩ := List.getElem?_eq_some_iff.mp queued
  have unmoved : world.placed index (.queued cycle) = world := by
    rw [World.placed, ← present, List.set_getElem_self]
  have passage : Passage platform allowed program (world.placed index (.queued cycle)) program
      (world.placed index (.working .replay cycle)) := by
    refine passes_placed lenient .acquireShared (.checking .connect cycle) inside ?_ ?_
    · simp [World.clientStep, World.placed, free]
    refine passes_placed lenient .checkAuthority (.comparing .connect cycle) inside ?_ ?_
    · simp [World.clientStep, World.placed, supervised]
    refine passes_placed lenient .compareCycle (.working .connect cycle) inside ?_ ?_
    · simp [World.clientStep, World.placed, current]
    refine passes_placed lenient .connected (.checking .replay cycle) inside rfl ?_
    refine passes_placed lenient .checkAuthority (.comparing .replay cycle) inside ?_ ?_
    · simp [World.clientStep, World.placed, supervised]
    refine passes_placed lenient .compareCycle (.working .replay cycle) inside ?_ ?_
    · simp [World.clientStep, World.placed, current]
    exact .refl _ _
  rwa [unmoved] at passage

end

end McServerNap
