import McServerNap.Conformance.Vigil
import McServerNap.Rehearsal

/-!
# An idle stop follows an idle period

From the moment a cycle runs until it is stopped for being idle, the anchor of the
decision marks an idle period that has lasted for the timeout: no session of the
cycle was open since, and where RCON is configured an unbroken row of replies of
zero players reaches from before the anchor to a reply requested under the gate.
-/

namespace McServerNap

open Interaction SupervisorControl

/-- The world that `publish_running` leaves: the cycle is current, its record is
fresh, and no client serves it yet. -/
structure JustRunning (cycle : BackendCycle) (since : Instant) (world : World) : Prop where
  current : world.lifecycle.ownedRunningCycle = some cycle
  record : world.activity = some (.beginCycle cycle since)
  begun : since ≤ world.clock
  unserved : ∀ task ∈ world.clients, task.cycle ≠ some cycle
  free : world.Exclusive

/-- In the world where a cycle has just begun to run no session is open, so its tally begins at
zero. -/
theorem JustRunning.tallied {cycle : BackendCycle} {since : Instant} {world : World}
    (running : JustRunning cycle since world) : Tallied world cycle since [] world := by
  have closed : ∀ task ∈ world.clients, task.session ≠ some cycle := by
    intro task listed open_
    refine running.unserved task listed ?_
    cases task <;> simp_all [ClientTask.session, ClientTask.cycle]
  refine ⟨⟨_, running.record, rfl, rfl, ?_, by rintro _ ⟨⟩, fun anchor idle => ?_⟩,
    running.begun⟩
  · symm
    simpa [World.sessions, List.countP_eq_zero, CurrentCycleActivity.beginCycle] using closed
  · obtain rfl : since = anchor := by
      simpa [CurrentCycleActivity.proxyIdleAnchor, CurrentCycleActivity.beginCycle] using idle
    refine ⟨running.begun, fun later earlier passed split reached past => ?_⟩
    obtain ⟨rfl, rfl⟩ := List.append_eq_nil_iff.mp split.symm
    obtain rfl : world = passed := Option.some.inj reached
    exact closed

/-- Whenever a monitored cycle is about to be stopped for being idle, there is an
anchor, no earlier than the cycle's begin and at least the timeout ago, after which no
session of the cycle was open at any instant. Where RCON is configured, a reply of zero
players came no later than the anchor, every list request after it ended in such a
reply, no connection was attempted in between, and one of these replies came under the
gate that is still held. -/
theorem idle_stop_follows_idle_period {config : SupervisorConfig} {cycle stopped : BackendCycle}
    {since : Instant} {origin world : World} {history : History platform}
    {program : Supervised CycleResult} {next : LifecycleState}
    (running : JustRunning cycle since origin)
    (reached : Reaches platform ((PlayerInspection.fromConfig config).bind fun inspection =>
      monitorRunningServer config inspection cycle) origin history program world)
    (waits : program.pending = some (.publish (.beginIdleStop stopped) next)) :
    stopped = cycle ∧ ∃ anchor, since ≤ anchor ∧ anchor + config.idleTimeout ≤ world.clock ∧
      Rested origin cycle anchor history ∧
      (config.rcon = true → ZeroSince origin anchor history ∧ UnderGate history HeardZero) := by
  have initial : (observant config cycle).relates Vigil.initial origin :=
    ⟨Nat.zero_le _, nofun, running.free, nofun⟩
  obtain ⟨vigil, watched, remaining⟩ :=
    reached.watched (observant config cycle) initial vigil_monitorRunningServer
  have holds := watched.related (observant config cycle) initial
  obtain ⟨-, tallied, recalls⟩ := watched.always (observant config cycle) initial
    (fun history vigil world => platform.replay origin history = some world ∧
      Tallied origin cycle since history world ∧ Vigil.Recalls origin history world vigil)
    ⟨rfl, running.tallied, nofun, nofun, nofun⟩
    (by
      rintro history vigil world op reply after ⟨replayed, tallied, recalls⟩ - permitted performed
      refine ⟨Platform.replay_issued replayed performed,
        tallied.issued replayed performed fun other since begins => ?_,
        recalls.issued replayed performed⟩
      subst begins
      exact permitted)
    (by
      rintro history vigil world waiting move after ⟨replayed, tallied, recalls⟩ - - disturbed
      exact ⟨Platform.replay_moved replayed disturbed, tallied.moved replayed disturbed,
        recalls.moved disturbed⟩)
  obtain ⟨rfl, held, record, proxy, anchor, taken, current, idle, past, elapsed, row⟩ :=
    remaining.pending_permitted _ waits
  have present := holds.snapshot held record taken current
  obtain ⟨⟨_, same, -, started, -, disconnected, anchored⟩, -⟩ := tallied
  obtain rfl := Option.some.inj (present.symm.trans same)
  have begun : since ≤ proxy := by
    simp only [CurrentCycleActivity.proxyIdleAnchor, Option.ite_none_right_eq_some,
      Option.some.injEq] at idle
    obtain ⟨-, rfl⟩ := idle
    cases ended : record.lastFinalSessionDisconnect with
    | none => exact Nat.le_of_eq started.symm
    | some instant => exact disconnected instant ended
  refine ⟨rfl, anchor, Nat.le_trans begun past, Nat.le_trans elapsed holds.latest,
    (anchored proxy idle).2.later past, fun rcon => ?_⟩
  obtain ⟨confirmed, read, dated, before⟩ := row rcon
  obtain ⟨later, sources, earlier, split, kept, heard⟩ := recalls.gate held
  exact ⟨(recalls.dated read dated).later before,
    later, sources, earlier, split, kept, heard confirmed⟩

/-- A server that has just become ready in the first generation. -/
def readyWorld : World :=
  { World.initial 0 with
    lifecycle := Transition.publishRunning.target
      (Transition.recordLaunchSuccess.target (.reconciling 0) 0) 0
    child := .live
    activity := some (.beginCycle ⟨1⟩ 0) }

/-- Its monitoring, up to the publication of an idle stop. -/
def emptyServerRun : Configuration platform CycleResult :=
  let monitoring := (PlayerInspection.fromConfig (exampleConfig true)).bind fun inspection =>
    monitorRunningServer (exampleConfig true) inspection ⟨1⟩
  (((Configuration.fresh platform monitoring readyWorld).rehearse World.dictated 64
    untilIdle).follow (Cue.tryWait .running)).settle World.dictated 3

/-- The run with RCON and an empty server has an idle period of the full length before its stop,
with zero replies all along and one more under the gate. -/
theorem empty_server_is_idle :
    (⟨1⟩ : BackendCycle) = ⟨1⟩ ∧ ∃ anchor, 0 ≤ anchor ∧
      anchor + (exampleConfig true).idleTimeout ≤ emptyServerRun.world.clock ∧
      Rested readyWorld ⟨1⟩ anchor emptyServerRun.history ∧
      ((exampleConfig true).rcon = true → ZeroSince readyWorld anchor emptyServerRun.history ∧
        UnderGate emptyServerRun.history HeardZero) :=
  idle_stop_follows_idle_period
    ⟨rfl, rfl, Nat.le_refl 0, List.forall_mem_nil _, nofun⟩
    (((Configuration.rehearse_reached _ _ _ _ _).follow _).settle _ _)
    (by decide +kernel : emptyServerRun.program.pending = some (.publish (.beginIdleStop ⟨1⟩)
      ((Transition.beginIdleStop ⟨1⟩).target readyWorld.lifecycle (seconds 600))))

end McServerNap
