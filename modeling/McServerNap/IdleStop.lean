import McServerNap.Generations
import McServerNap.Wraparound

/-!
# An idle stop cuts off nobody

The gate excludes client leases while an idle stop is published. A client looks at
the cycle again before each errand, so a stopped cycle gains no connection either,
while the counter has not gone round.
-/

namespace McServerNap

open Interaction

/-- The cycle a client task serves, once it has sampled one. -/
def ClientTask.cycle : ClientTask → Option BackendCycle
  | .queued cycle | .checking _ cycle | .comparing _ cycle | .working _ cycle
  | .announcing cycle | .proxying cycle | .announcingEnd cycle | .releasing cycle => some cycle
  | _ => none

/-- While the exclusive side is held no client holds a lease. -/
def World.Exclusive (world : World) : Prop :=
  world.writer = true → ∀ task ∈ world.clients, task.lease = none

/-- A lease is taken only while the exclusive side is free. -/
theorem World.clientStep_lease {world after : World} {task later : ClientTask} {step : ClientStep}
    (stepped : world.clientStep task step = some (later, after)) (held : world.writer = true)
    (free : task.lease = none) : later.lease = none := by
  revert stepped
  fun_cases World.clientStep world task step
  all_goals
    intro stepped
    cases stepped
  all_goals simp_all [ClientTask.lease]

/-- The exclusive side and the leases stay apart: the gate is taken only while no client holds a
lease. -/
theorem World.Exclusive.performed {world after : World} {op : Op} {reply : Reply op}
    (exclusive : world.Exclusive) (performed : world.perform op reply = some after) :
    after.Exclusive := by
  have framed := World.framed performed
  intro held
  rw [framed.clients]
  rcases framed.writer held with before | unleased
  · exact exclusive before
  · intro task listed
    have free := List.any_eq_false.mp unleased task listed
    simpa using free

/-- Nor does a client get a lease while it is taken. A step of a client either keeps its lease,
gives it back or takes one, and the last needs the exclusive side to be free. -/
theorem World.Exclusive.moved {world after : World} {move : Move}
    (exclusive : world.Exclusive) (moved : world.move move = some after) : after.Exclusive := by
  cases move with
  | client index step =>
    obtain ⟨task, later, stepped, listed, step, rfl⟩ := World.move_client moved
    obtain ⟨slot, activity, changed, rfl⟩ := World.clientStep_frame step
    intro held other member
    rcases List.mem_or_eq_of_mem_set member with before | rfl
    · exact exclusive held other before
    · exact World.clientStep_lease step held (exclusive held task (List.mem_of_getElem? listed))
  | accept =>
    cases moved
    intro held task member
    rcases List.mem_append.mp member with before | fresh
    · exact exclusive held task before
    · rw [List.mem_singleton.mp fresh]
      rfl
  | sendShutdown | dropShutdown =>
    simp only [World.move] at moved
    split at moved <;> cases moved
    exact exclusive
  | tick | closeWakes =>
    cases moved
    exact exclusive

/-- The cycle was stopped for being idle. -/
def IdleStopped (cycle : BackendCycle) (history : List Happening) : Prop :=
  ∃ next, .issued (.publish (.beginIdleStop cycle) next) () ∈ history

/-- The cycle is over: it will not be current again, and no client that has passed
its looks at the lifecycle serves it. -/
structure Retired (cycle : BackendCycle) (stance : Stance) (world : World) : Prop where
  passed : cycle.launchGeneration < stance.lifecycle.launchGeneration ∨
    cycle.launchGeneration = stance.lifecycle.launchGeneration ∧ stance.stage ≠ .owned
  idle : ∀ task ∈ world.clients,
    task.session ≠ some cycle ∧ ∀ errand, task ≠ .working errand cycle

/-- Phase Running is published only by a stage that owns the child. -/
theorem Stance.Sound.owned_of_running {stance : Stance} (sound : stance.Sound)
    (running : stance.lifecycle.phase = .running) : stance.stage = .owned := by
  have situation := sound.situated
  obtain ⟨stage, lifecycle, child, held, offer, ending⟩ := stance
  cases stage with
  | owned => rfl
  | stopping cause latched =>
    have stopping := sound.phase_stopping
    simp_all
  | _ => simp_all [Stance.situated]

/-- A retired cycle is not the current one. -/
theorem Retired.unowned {cycle : BackendCycle} {stance : Stance} {world : World}
    (retired : Retired cycle stance world) (sound : stance.Sound) :
    stance.lifecycle.ownedRunningCycle ≠ some cycle := by
  intro current
  simp only [LifecycleState.ownedRunningCycle, Option.ite_none_right_eq_some,
    Option.some.injEq] at current
  obtain ⟨running, rfl⟩ := current
  rcases retired.passed with later | ⟨-, unowned⟩
  · exact Nat.lt_irrefl _ later
  · exact unowned (sound.owned_of_running running)

/-- A client starts working only for the current cycle, and counts a session only
while it works. -/
theorem World.clientStep_retired {world after : World} {task later : ClientTask}
    {step : ClientStep} {cycle : BackendCycle}
    (stepped : world.clientStep task step = some (later, after))
    (unowned : world.lifecycle.ownedRunningCycle ≠ some cycle)
    (idle : task.session ≠ some cycle ∧ ∀ errand, task ≠ .working errand cycle) :
    later.session ≠ some cycle ∧ ∀ errand, later ≠ .working errand cycle := by
  revert stepped
  fun_cases World.clientStep world task step
  all_goals
    intro stepped
    cases stepped
  all_goals try split
  all_goals simp_all [ClientTask.session]

/-- A retired cycle stays retired when a client moves. A client that still has to look at the
lifecycle finds another cycle, and one that has looked serves another. -/
theorem Retired.moved {cycle : BackendCycle} {stance : Stance} {world after : World} {move : Move}
    (retired : Retired cycle stance world) (sound : stance.Sound) (agrees : stance.agrees world)
    (moved : world.move move = some after) : Retired cycle stance after := by
  have unowned := retired.unowned sound
  rw [agrees.1] at unowned
  obtain ⟨passed, idle⟩ := retired
  cases move with
  | client index step =>
    obtain ⟨task, later, stepped, listed, step, rfl⟩ := World.move_client moved
    refine ⟨passed, fun other member => ?_⟩
    rcases List.mem_or_eq_of_mem_set member with before | rfl
    · exact idle other before
    · exact World.clientStep_retired step unowned (idle task (List.mem_of_getElem? listed))
  | accept =>
    cases moved
    refine ⟨passed, fun task member => ?_⟩
    rcases List.mem_append.mp member with before | fresh
    · exact idle task before
    · rw [List.mem_singleton.mp fresh]
      exact ⟨nofun, nofun⟩
  | sendShutdown | dropShutdown =>
    simp only [World.move] at moved
    split at moved <;> cases moved
    exact ⟨passed, idle⟩
  | tick | closeWakes =>
    cases moved
    exact ⟨passed, idle⟩

/-- A stage comes to own a child only with the record of a launch. Every other publication leads
elsewhere or finds the child owned already. -/
theorem Stance.after_owned {stance : Stance} {op : Op} (rcon : Bool) (reply : Reply op)
    (permitted : stance.permits op) (owned : (stance.after rcon op reply).stage = .owned) :
    stance.stage = .owned ∨ ∃ next, op = .publish .recordLaunchSuccess next := by
  cases op with
  | publish transition next =>
    obtain ⟨-, legal, -⟩ := permitted
    obtain ⟨stage, lifecycle, child, held, offer, ending⟩ := stance
    cases transition with
    | recordLaunchSuccess => exact .inr ⟨next, rfl⟩
    | publishRunning | resetFailureStreak => exact .inl (by simpa [Stance.legal] using legal)
    | publishStoppedAfterCleanReconciliation =>
      cases latched : stage.demanding <;> simp [Stance.after, Stance.published, latched] at owned
    | setPhase phase =>
      simp only [Stance.after, Stance.published] at owned
      repeat' split at owned
      all_goals cases owned
    | _ => cases owned
  | _ =>
    left
    rcases Stance.after_stage rcon stance _ reply (by simp) with
      same | latched | opened | cleared | ⟨classification, probed⟩ | ⟨-, success, attempted⟩
    · exact same.symm.trans owned
    · rw [latched] at owned
      cases stage : stance.stage <;> simp [stage, Stage.latch] at owned ⊢
    · rw [opened] at owned
      cases stage : stance.stage <;> simp [stage, Stage.opened] at owned ⊢
    · rw [cleared] at owned
      cases stage : stance.stage <;> simp [stage, Stage.cleared] at owned ⊢
    · rw [probed] at owned
      cases stage : stance.stage <;> simp [stage, Stage.probed] at owned ⊢
    · rw [attempted] at owned
      cases success <;> cases owned

/-- An idle stop retires its cycle: the exclusive side is held meanwhile, so no client has a
lease, and the phase that is published is no longer the running one. -/
theorem Retired.begun {cycle : BackendCycle} {stance : Stance} {world after : World}
    {next : LifecycleState} (rcon : Bool) (exclusive : world.Exclusive)
    (agrees : stance.agrees world)
    (permitted : stance.permits (.publish (.beginIdleStop cycle) next))
    (performed : world.perform (.publish (.beginIdleStop cycle) next) () = some after) :
    Retired cycle (stance.after rcon (.publish (.beginIdleStop cycle) next) ()) after := by
  obtain ⟨-, legal, admitted, now, rfl⟩ := permitted
  obtain ⟨owned, held⟩ : stance.stage = .owned ∧ stance.held = true := by
    simpa [Stance.legal] using legal
  obtain ⟨-, rfl⟩ : stance.lifecycle.phase = .running ∧
      ⟨stance.lifecycle.launchGeneration⟩ = cycle := by
    simpa [Transition.admits, LifecycleState.ownedRunningCycle] using admitted
  refine ⟨.inr ⟨rfl, by rintro ⟨⟩⟩, ?_⟩
  rw [(World.framed performed).clients]
  intro task listed
  have free := exclusive (agrees.2.2.symm.trans held) task listed
  refine ⟨?_, ?_⟩
  · cases task <;> simp_all [ClientTask.lease, ClientTask.session]
  · rintro errand rfl
    cases free

/-- A retired cycle stays retired while the counter does not go round. A new cycle has a greater
generation, so the retired one cannot be the current one again. -/
theorem Retired.issued {history : List Happening} {stance : Stance} {world after : World}
    {rcon : Bool} {op : Op} {reply : Reply op} {cycle : BackendCycle}
    (retired : Retired cycle stance world) (counted : Counted history stance)
    (permitted : stance.permits op) (performed : world.perform op reply = some after)
    (small : attempts (.issued op reply :: history) + blocks (.issued op reply :: history) <
      2 ^ 64) : Retired cycle (stance.after rcon op reply) after := by
  obtain ⟨passed, idle⟩ := retired
  refine ⟨?_, by rwa [(World.framed performed).clients]⟩
  have owning := Stance.after_owned rcon reply permitted
  rw [Stance.after_lifecycle]
  cases op with
  | publish transition next =>
    obtain ⟨-, legal, -, now, rfl⟩ := permitted
    have advances := counted.advances legal now small
    rcases passed with later | ⟨current, unowned⟩
    · exact .inl (by simp only; omega)
    · cases recorded : transition.records || transition.consumes with
      | true => exact .inl (by simp [advances, recorded, current])
      | false =>
        refine .inr ⟨by simp [advances, recorded, current], fun owned => ?_⟩
        rcases owning owned with before | ⟨next, same⟩
        · exact unowned before
        · cases same
          cases recorded
  | _ =>
    refine passed.imp_right fun ⟨current, unowned⟩ => ⟨current, fun owned => ?_⟩
    rcases owning owned with before | ⟨next, same⟩
    · exact unowned before
    · cases same

/-- When an idle stop is published no client holds a lease, has a session or is
between its first look at the lifecycle and its session. After it, while the counter
has not gone round, no client of the stopped cycle writes a handshake or establishes
a session. -/
theorem idle_stop_spares_connections {config : SupervisorConfig} {start : Instant}
    {history : History platform} {program : Supervised Unit} {world : World}
    (reached : Reaches platform (run config) (World.initial start) history program world) :
    (∀ cycle next, program.pending = some (.publish (.beginIdleStop cycle) next) →
      ∀ task ∈ world.clients,
        task.lease = none ∧ task.session = none ∧ task.halfOpened = false) ∧
    (attempts history + blocks history < 2 ^ 64 → ∀ cycle, IdleStopped cycle history →
      ∀ task ∈ world.clients, task.cycle = some cycle →
        world.clientStep task .writeHandshake = none ∧
        world.clientStep task .establishSession = none) := by
  obtain ⟨stance, watched, remaining⟩ := run_follows reached
  obtain ⟨accounted, exclusive, retired⟩ := watched.always (coupled config.rcon)
    (initial_coupled config.rcon start)
    (fun history stance world => Accounted (.reconciling start) history stance ∧
      World.Exclusive world ∧ (attempts history + blocks history < 2 ^ 64 →
        ∀ cycle, IdleStopped cycle history → Retired cycle stance world))
    ⟨.start start, nofun, fun _ cycle ⟨next, stopped⟩ => nomatch stopped⟩
    (by
      rintro history stance world op reply after ⟨accounted, exclusive, retired⟩
        ⟨sound, agrees⟩ permitted performed
      refine ⟨accounted.issued _ sound permitted, exclusive.performed performed,
        fun small cycle ⟨next, stopped⟩ => ?_⟩
      rcases List.mem_cons.mp stopped with present | before
      · cases present
        exact Retired.begun config.rcon exclusive agrees permitted performed
      · have grown := counts_grow op reply history
        exact (retired (Nat.lt_of_le_of_lt grown small) cycle ⟨next, before⟩).issued
          accounted.counted permitted performed small)
    (by
      rintro history stance world waiting move after ⟨accounted, exclusive, retired⟩
        ⟨sound, agrees⟩ - disturbed
      refine ⟨accounted.moved, exclusive.moved disturbed, fun small cycle ⟨next, stopped⟩ => ?_⟩
      rcases List.mem_cons.mp stopped with present | before
      · cases present
      · exact (retired small cycle ⟨next, before⟩).moved sound agrees disturbed)
  obtain ⟨sound, agrees⟩ :=
    watched.related (coupled config.rcon) (initial_coupled config.rcon start)
  refine ⟨fun cycle next waits task listed => ?_, fun small cycle stopped task listed serves => ?_⟩
  · obtain ⟨-, legal, -⟩ := remaining.pending_permitted _ waits
    have held : stance.stage = .owned ∧ stance.held = true := by simpa [Stance.legal] using legal
    have free := exclusive (agrees.2.2.symm.trans held.2) task listed
    refine ⟨free, ?_⟩
    have engaged := mt task.leased_of_engaged (by simp [free])
    simpa using engaged
  · obtain ⟨-, idle⟩ := retired small cycle stopped
    obtain ⟨-, unworking⟩ := idle task listed
    constructor <;> cases task <;> simp_all [World.clientStep, ClientTask.cycle]

/-- An idle stop about to be published, while a client that sampled the running server
waits for the gate. -/
def idleStopRun : Configuration platform Unit :=
  ((rehearsal (exampleConfig true) (untilReady ++ [.move .accept, Cue.client 1 .sample] ++
    untilIdle)).follow (Cue.tryWait .running)).settle World.dictated 3

/-- The run up to the idle stop is one that the supervisor can really take. -/
theorem idleStopRun_reached :
    idleStopRun.Continues (run (exampleConfig true)) (World.initial 0) :=
  ((rehearsal_reached _ _).follow _).settle _ _

/-- After an idle stop nothing answers the probe for the next demand, while a client that
sampled the stopped cycle still waits for the gate. -/
def stoppedRun : Configuration platform Unit :=
  (((rehearsal (exampleConfig true) (untilReady ++ [.move .accept, Cue.client 1 .sample] ++
    untilIdle)).rehearse World.dictated 64 ([Cue.tryWait .running, Cue.event (.rconStop true),
      Cue.event (.child .exited)] ++ Cue.login 2 ++ [Cue.client 2 .trySend, Cue.wake])).follow
        (Cue.event (.probe .silent))).settle World.dictated 5

/-- So is the run behind it, to where the waiting client goes on. -/
theorem stoppedRun_reached :
    stoppedRun.Continues (run (exampleConfig true)) (World.initial 0) :=
  (((rehearsal_reached _ _).rehearse _ _ _).follow _).settle _ _

/-- The first cycle was stopped for being idle in it. -/
theorem stoppedRun_stopped : IdleStopped ⟨1⟩ stoppedRun.history :=
  ⟨(Transition.beginIdleStop ⟨1⟩).target idleStopRun.world.lifecycle (seconds 600),
    List.elem_iff.mp (by decide +kernel)⟩

/-- Client 1 of these runs sampled the running server and waits for the gate. It holds
nothing when the idle stop is published, and when the next gate has probed the port it
still has neither a handshake to write nor a session to establish. -/
theorem idle_stop_spares_waiting_client :
    (∃ task ∈ idleStopRun.world.clients, task.cycle = some ⟨1⟩ ∧
      task.lease = none ∧ task.session = none ∧ task.halfOpened = false) ∧
    (∃ task ∈ stoppedRun.world.clients, task.cycle = some ⟨1⟩ ∧
      stoppedRun.world.clientStep task .writeHandshake = none ∧
      stoppedRun.world.clientStep task .establishSession = none) := by
  have waiting : ClientTask.queued ⟨1⟩ ∈ idleStopRun.world.clients :=
    List.elem_iff.mp (by decide +kernel)
  have stopping : idleStopRun.program.pending = some (.publish (.beginIdleStop ⟨1⟩)
      ((Transition.beginIdleStop ⟨1⟩).target idleStopRun.world.lifecycle (seconds 600))) := by
    decide +kernel
  have stillWaiting : ClientTask.queued ⟨1⟩ ∈ stoppedRun.world.clients :=
    List.elem_iff.mp (by decide +kernel)
  have unwrapped : attempts stoppedRun.history + blocks stoppedRun.history < 2 ^ 64 := by
    decide +kernel
  constructor
  · exact ⟨.queued ⟨1⟩, waiting, rfl,
      (idle_stop_spares_connections idleStopRun_reached).1 _ _ stopping _ waiting⟩
  · exact ⟨.queued ⟨1⟩, stillWaiting, rfl, (idle_stop_spares_connections stoppedRun_reached).2
      unwrapped ⟨1⟩ stoppedRun_stopped _ stillWaiting rfl⟩

set_option maxRecDepth 20000 in
/-- The supervisor is parked again and waits. -/
theorem stoppedRun_waiting :
    ∃ next, stoppedRun.program = waiting (exampleConfig true) next := by
  refine ⟨?_, ?_⟩
  rotate_left
  rfl

/-- Afterwards the published generation is another one, no one holds the exclusive side, and the
client is still queued with its old cycle. -/
theorem stoppedRun_blocked : stoppedRun.world.Blocked ∧
    stoppedRun.world.lifecycle.launchGeneration = 2 ∧ stoppedRun.world.writer = false ∧
    stoppedRun.world.clients[1]? = some (.queued ⟨1⟩) := by
  have fields : stoppedRun.world.sendersOpen = true ∧ stoppedRun.world.shutdown = .empty ∧
      stoppedRun.world.supervised = true ∧ stoppedRun.world.slot = none ∧
      stoppedRun.world.lifecycle.phase = .conflict ∧
      stoppedRun.world.lifecycle.reconciliationEvidence = .inconclusive ∧
      stoppedRun.world.lifecycle.launchGeneration = 2 ∧ stoppedRun.world.writer = false ∧
      stoppedRun.world.clients[1]? = some (.queued ⟨1⟩) := by
    decide +kernel
  obtain ⟨sendersOpen, shutdown, supervised, slot, phase, evidence, rest⟩ := fields
  exact ⟨⟨⟨sendersOpen, shutdown⟩, supervised, slot, phase, evidence⟩, rest⟩

/-- When the counter has come round, a client of the cycle that was stopped writes its
handshake to the new cycle of that number. -/
theorem stopped_cycle_comes_round :
    ¬ ∀ (config : SupervisorConfig) (start : Instant) (history : History platform)
      (program : Supervised Unit) (world : World),
      Reaches platform (run config) (World.initial start) history program world →
      (∀ cycle next, program.pending = some (.publish (.beginIdleStop cycle) next) →
        ∀ task ∈ world.clients,
          task.lease = none ∧ task.session = none ∧ task.halfOpened = false) ∧
      (∀ cycle, IdleStopped cycle history →
        ∀ task ∈ world.clients, task.cycle = some cycle →
          world.clientStep task .writeHandshake = none ∧
          world.clientStep task .establishSession = none) := by
  intro spares
  obtain ⟨next, waits⟩ := stoppedRun_waiting
  obtain ⟨blocked, generation, free, queued⟩ := stoppedRun_blocked
  have reached : Reaches platform (run (exampleConfig true)) (World.initial 0)
      stoppedRun.history stoppedRun.program stoppedRun.world := stoppedRun_reached
  rw [waits] at reached
  obtain ⟨world, later, attempted, cycled, times, launching, -, succeeded⟩ :=
    launch_comes_round reached blocked (by rw [generation]; decide) (2 ^ 64 - 2)
  have again : wrappingSucc world.lifecycle.launchGeneration = 1 := by
    rw [times.generation, generation]
    rfl
  let launched : World := { world.cleared with child := .live }
  obtain ⟨monitoring, readied⟩ := passes_ready_launch quiet_anything
    (⟨times.sendersOpen, times.shutdown⟩ : launched.Ongoing) times.slot rfl rfl times.evidence
    (by decide : 0 < (exampleConfig true).startupTimeout)
  rw [← succeeded] at readied
  let running : World := { launched with
    activity := some (.beginCycle ⟨wrappingSucc world.lifecycle.launchGeneration⟩ world.clock)
    lifecycle := Transition.publishRunning.target
      (Transition.recordLaunchSuccess.target launched.lifecycle world.clock) world.clock }
  have current : running.lifecycle.ownedRunningCycle = some ⟨1⟩ :=
    congrArg (fun generation => some (BackendCycle.mk generation)) again
  have replays : Passage platform anything monitoring running monitoring
      (running.placed 1 (.working .replay ⟨1⟩)) :=
    passes_replay quiet_anything (times.cleared_kept queued) (times.writer.trans free)
      times.supervised current
  obtain ⟨last, -, replaying⟩ := (readied.trans replays).prolongs (launching.issue rfl)
  have stopped : IdleStopped ⟨1⟩ (last ++ .issued .launch true :: (later ++ stoppedRun.history)) := by
    obtain ⟨state, listed⟩ := stoppedRun_stopped
    exact ⟨state, List.mem_append_right _ (.tail _ (List.mem_append_right _ listed))⟩
  have member : ClientTask.working .replay ⟨1⟩ ∈
      (running.placed 1 (.working .replay ⟨1⟩)).clients :=
    List.mem_set (List.getElem?_eq_some_iff.mp (times.cleared_kept queued)).1 _
  have silent := ((spares _ _ _ _ _ replaying).2 ⟨1⟩ stopped _ member rfl).1
  cases silent

end McServerNap
