import McServerNap.Conformance.Treatment

/-!
# The supervisor tends its child

From its launch on a child stays tended until a wait for it ends or its stop begins. Only
a child that was found ready is published as running, and a supervisor that owns no child
has none to fail it.
-/

namespace McServerNap

open Interaction SupervisorControl

variable {config : SupervisorConfig} {treatment : Treatment}

/-! ## Watching -/

section Watching

variable {state : RunningMonitorState}

/-- The branches that a supervisor waits on while it does not stop its child. -/
def Source.minds : Source → Bool
  | .rconStop | .consoleStop | .killTree | .kill => false
  | .sleepUntil timer _ => timer ≠ .graceful && timer ≠ .reap
  | _ => true

/-- What an event makes of a tended child. -/
def Minded (event : Event) (treatment : Treatment) : Prop :=
  match event with
  | .child status => ChildWaited status treatment
  | event => treatment.Tended ∧ (event = .connect true → treatment.ready = true)

/-- A wait beside a tended child offers only events that keep it tended or end the wait for it. -/
theorem treats_select_tended {sources : List Source} {post : Event → Treatment → Prop}
    (tended : treatment.Tended) (minds : sources.all Source.minds = true)
    (handled : ∀ event later, (∃ source ∈ sources, source.offers event = true) →
      Minded event later → post event later) :
    Safe (treating config) (select sources) post treatment := by
  obtain ⟨child, ready, progress, failed⟩ := treatment
  obtain ⟨rfl, rfl, rfl⟩ := tended
  have minded := List.all_eq_true.mp minds
  refine treats_select (fun source listed => ?_) fun event offered => handled _ _ offered ?_
  · have own := minded source listed
    cases source with
    | sleepUntil timer deadline => cases timer <;> trivial
    | rconStop | consoleStop | killTree | kill => cases own
    | _ => trivial
  · obtain ⟨source, listed, offered⟩ := offered
    have own := minded source listed
    cases event with
    | child status =>
      cases status with
      | exited => exact ⟨rfl, rfl, rfl⟩
      | failed => exact ⟨rfl, rfl, rfl⟩
    | connect ok => cases ok <;> exact ⟨⟨rfl, rfl, rfl⟩, by simp [Treatment.after]⟩
    | elapsed timer =>
      cases source with
      | sleepUntil other deadline =>
        obtain rfl : other = timer := of_decide_eq_true offered
        cases other <;> first | exact ⟨⟨rfl, rfl, rfl⟩, by simp⟩ | cases own
      | _ => cases offered
    | rconStop | consoleStop | killTree | kill =>
      cases source <;> first | (cases offered; done) | cases own
    | _ => exact ⟨⟨rfl, rfl, rfl⟩, by simp⟩

/-- Any event but the child's end leaves the child tended. -/
theorem Minded.tended {event : Event} (minded : Minded event treatment)
    (other : ∀ status, event ≠ .child status) : treatment.Tended := by
  cases event with
  | child status => exact absurd rfl (other status)
  | _ => exact minded.1

/-- A wait that does not poll the child keeps it tended. -/
theorem treats_select_unwatched {sources : List Source} {post : Event → Treatment → Prop}
    (tended : treatment.Tended) (minds : sources.all Source.minds = true)
    (unwatched : .child ∉ sources)
    (handled : ∀ event later, later.Tended → post event later) :
    Safe (treating config) (select sources) post treatment := by
  refine treats_select_tended tended minds fun event later offered minded => ?_
  refine handled event later (minded.tended ?_)
  rintro status rfl
  obtain ⟨source, listed, offered⟩ := offered
  cases source <;> first | exact unwatched listed | cases offered

/-- One query of a tended child: it has exited, the query failed, or the child is as it was. -/
theorem treats_tryWait {post : TryWaitResult → Treatment → Prop} (tended : treatment.Tended)
    (exited : ∀ later, ChildWaited .exited later → post .exited later)
    (failed : ∀ later, ChildWaited .failed later → post .failed later)
    (running : post .running treatment) :
    Safe (treating config) (access .tryWait) post treatment := by
  obtain ⟨child, ready, progress, broken⟩ := treatment
  obtain ⟨rfl, rfl, rfl⟩ := tended
  refine treats_access trivial fun outcome => ?_
  cases outcome with
  | exited => exact exited _ ⟨rfl, rfl, rfl⟩
  | failed => exact failed _ ⟨rfl, rfl, rfl⟩
  | running => exact running

/-- A publication that begins no stop leaves the child tended. -/
theorem Treatment.Tended.published (tended : treatment.Tended) {transition : Transition}
    (continues : transition.stops = false) : (treatment.published transition).Tended :=
  ⟨tended.live, if_neg (by simp [continues]), tended.sane⟩

/-- A tended child is not being stopped, so no reading of the clock matters to it. -/
theorem Treatment.Tended.timeless (tended : treatment.Tended) : treatment.timeless = true := by
  obtain ⟨child, ready, progress, failed⟩ := treatment
  obtain ⟨-, rfl, -⟩ := tended
  rfl

/-- At the end of the stability window the child is still tended, or the query has found its
end. -/
theorem treats_completeStabilityWindow {post : Option WaitResult → Treatment → Prop}
    (tended : treatment.Tended)
    (waited : ∀ status later, ChildWaited status later → post (some status) later)
    (completed : ∀ later, later.Tended → post none later) :
    Safe (treating config) completeStabilityWindow post treatment := by
  simp only [completeStabilityWindow, Program.bind_eq, safe_bind]
  refine treats_tryWait tended (waited .exited) (waited .failed) ?_
  simp only [resetFailureStreak, Program.bind_eq, safe_bind]
  refine treats_advance tended.timeless (by simp) (by simp [Transition.stops]) fun value => ?_
  exact completed _ (tended.published rfl)

/-- The branch for the stability window is among those of a tended child. -/
theorem stability_minds : state.stability.all Source.minds = true := by
  unfold RunningMonitorState.stability
  split <;> rfl

/-- How the wait for the exclusive gate leaves the child. -/
def ExclusiveTreated : IdleExclusiveOutcome → Treatment → Prop
  | .childWait status, treatment => ChildWaited status treatment
  | _, treatment => treatment.Tended

/-- The loop that waits for the gate keeps the child tended and ends at once when the child
does. -/
theorem treats_acquireIdleExclusive {expectedAnchor : Instant} (tended : treatment.Tended) :
    Safe (treating config) (acquireIdleExclusive config expectedAnchor state)
      (fun acquired later => ExclusiveTreated acquired.2 later) treatment := by
  refine safe_loop (fun _ later => later.Tended) tended fun state treatment tended => ?_
  simp only [Program.bind_eq, safe_bind]
  refine treats_access trivial fun closed => ?_
  cases closed with
  | true => exact tended
  | false =>
    simp only [Bool.false_eq_true, if_false, safe_bind]
    refine treats_access trivial fun activity => ?_
    split
    · exact tended
    · simp only [safe_bind]
      refine treats_select_tended tended (by simp [stability_minds, Source.minds]) ?_
      rintro event later - minded
      cases event with
      | wake request =>
        cases request with
        | none => exact minded.1
        | some request =>
          simp only [safe_bind]
          exact treats_access trivial fun _ => minded.1
      | child status => exact minded
      | elapsed timer =>
        simp only [safe_bind]
        exact treats_completeStabilityWindow minded.1 (fun status later waited => waited)
          fun later tended => tended
      | activity =>
        simp only [safe_bind]
        refine treats_access trivial fun activity => ?_
        split
        · exact minded.1
        · simp only [safe_bind]
          refine treats_now minded.1.timeless fun reading => ?_
          split <;> exact minded.1
      | _ => exact minded.1

/-- How the final check over RCON leaves the child. -/
def CheckTreated : FinalRconCheck → Treatment → Prop
  | .childWait status, treatment => ChildWaited status treatment
  | _, treatment => treatment.Tended

/-- The final check asks the server and does nothing to its child. Its waits have a branch for the
child, and an end that they report is passed on unchanged. -/
theorem treats_finalRconPlayerCheck (tended : treatment.Tended) :
    Safe (treating config) (finalRconPlayerCheck config state)
      (fun checked later => CheckTreated checked.2 later) treatment := by
  simp only [finalRconPlayerCheck, Program.bind_eq, safe_bind]
  refine treats_now tended.timeless fun reading => ?_
  refine safe_loop (fun _ later => later.Tended) tended fun state treatment tended => ?_
  simp only [safe_bind]
  refine treats_access trivial fun closed => ?_
  cases closed with
  | true => exact tended
  | false =>
    simp only [Bool.false_eq_true, if_false, safe_bind]
    refine treats_select_tended tended (by simp [stability_minds, Source.minds]) ?_
    rintro event later - minded
    cases event with
    | wake request =>
      cases request with
      | none => exact minded.1
      | some request =>
        simp only [safe_bind]
        exact treats_access trivial fun _ => minded.1
    | child status => exact minded
    | elapsed timer =>
      cases timer with
      | stability =>
        simp only [safe_bind]
        exact treats_completeStabilityWindow minded.1 (fun status later waited => waited)
          fun later tended => tended
      | _ => exact minded.1
    | rconList response =>
      cases response with
      | none => exact minded.1
      | some response =>
        dsimp only
        split <;> exact minded.1
    | _ => exact minded.1

/-- How the confirmation that no player is on leaves the child. -/
def PlayerCheckTreated : IdlePlayerCheck → Treatment → Prop
  | .childWait status, treatment => ChildWaited status treatment
  | _, treatment => treatment.Tended

/-- Confirming is the final check, or only a reading of the clock: without RCON there is nobody to
ask, and without a connected client the stop is vetoed until the next poll. -/
theorem treats_confirmIdlePlayerState (tended : treatment.Tended) :
    Safe (treating config) (confirmIdlePlayerState config state)
      (fun confirmed later => PlayerCheckTreated confirmed.2 later) treatment := by
  unfold confirmIdlePlayerState
  split
  · exact tended
  · simp only [Program.bind_eq, safe_bind]
    exact treats_now tended.timeless fun reading => tended
  · simp only [Program.bind_eq, safe_bind]
    refine (treats_finalRconPlayerCheck tended).mono fun checked later treated => ?_
    obtain ⟨state, check⟩ := checked
    cases check with
    | zero | shutdown | childWait => exact treated
    | veto client =>
      dsimp only
      split
      · exact ⟨trivial, fun reply => reply.elim⟩
      · simp only [safe_bind]
        exact treats_now (Treatment.Tended.timeless treated) fun reading => treated

/-- How the monitor leaves the child. A committed idle stop has begun. -/
def MonitorTreated : RunningMonitorOutcome → Treatment → Prop
  | .childWait status, treatment => ChildWaited status treatment
  | .committed, treatment => treatment = ⟨.live, false, .begun, false⟩
  | _, treatment => treatment.Tended

/-- An idle stop is committed for a child that was alive at a last query, which is why it may
begin. -/
theorem treats_commitIdleStop (tended : treatment.Tended) :
    Safe (treating config) (commitIdleStop state) MonitorTreated treatment := by
  simp only [commitIdleStop, Program.bind_eq, safe_bind]
  refine treats_access trivial fun current => ?_
  split
  · exact tended
  · simp only [safe_bind]
    refine treats_shutdownPending fun pending => ?_
    split
    · exact tended
    · simp only [safe_bind]
      refine treats_tryWait tended (fun _ waited => waited) (fun _ waited => waited) ?_
      simp only [beginIdleStop, Program.bind_eq, safe_bind]
      refine treats_now tended.timeless fun reading => ?_
      refine treats_advance tended.timeless (by simp) (fun _ => tended.live) fun value => ?_
      obtain ⟨child, ready, progress, failed⟩ := treatment
      obtain ⟨rfl, rfl, rfl⟩ := tended
      rfl

/-- Under the gate nothing is done to the child before the commitment. Each way out before it
leaves the child tended, or passes on that its wait has ended. -/
theorem treats_attemptUnderExclusive {anchor : Instant} (tended : treatment.Tended) :
    Safe (treating config) (attemptUnderExclusive config anchor state)
      (fun decided later => MonitorTreated decided.2 later) treatment := by
  simp only [attemptUnderExclusive, Program.bind_eq, safe_bind]
  refine treats_access trivial fun activity => ?_
  split
  · exact tended
  · simp only [safe_bind]
    refine treats_now tended.timeless fun reading => ?_
    split
    · exact tended
    · simp only [safe_bind]
      refine treats_access trivial fun current => ?_
      split
      · exact tended
      · simp only [safe_bind]
        refine treats_shutdownPending fun pending => ?_
        split
        · exact tended
        · simp only [safe_bind]
          refine treats_tryWait tended (fun _ waited => waited) (fun _ waited => waited) ?_
          simp only [safe_bind]
          refine (treats_confirmIdlePlayerState tended).mono fun confirmed later treated => ?_
          obtain ⟨state, check⟩ := confirmed
          cases check with
          | confirmed =>
            simp only [safe_bind]
            exact (treats_commitIdleStop treated).mono fun _ _ treated => treated
          | _ => exact treated

/-- Nor is anything on the way to the gate and back. The gate is given back on every way out,
which is nothing that concerns the child. -/
theorem treats_attemptExpiredIdleStop {anchor : Instant} (tended : treatment.Tended) :
    Safe (treating config) (attemptExpiredIdleStop config state anchor)
      (fun decided later => MonitorTreated decided.2 later) treatment := by
  simp only [attemptExpiredIdleStop, Program.bind_eq, safe_bind]
  refine (treats_acquireIdleExclusive tended).mono fun acquired later treated => ?_
  obtain ⟨state, exclusive⟩ := acquired
  cases exclusive with
  | acquired =>
    simp only [safe_bind]
    refine (treats_attemptUnderExclusive treated).mono fun decided later treated => ?_
    exact treats_access trivial fun _ => treated
  | _ => exact treated

/-- A poll over RCON does not touch the child, nor does any of its waits have a branch for it, so
the child is tended after the poll as it was before. -/
theorem treats_pollPlayerPresence {inspection : PlayerInspection} (tended : treatment.Tended) :
    Safe (treating config) (pollPlayerPresence config inspection)
      (fun _ later => later.Tended) treatment := by
  unfold pollPlayerPresence
  split
  · exact tended
  · simp only [Program.bind_eq, safe_bind]
    refine treats_assert fun _ => treats_now tended.timeless fun reading => ?_
    refine treats_select_unwatched tended rfl (by simp) fun event later tended => ?_
    split <;> (simp only [safe_bind]; exact treats_now tended.timeless fun reading => tended)
  · simp only [Program.bind_eq, safe_bind]
    refine treats_assert fun _ => treats_now tended.timeless fun reading => ?_
    refine treats_select_unwatched tended rfl (by simp) fun event later tended => ?_
    have read {post : Instant → Treatment → Prop} (reached : ∀ reading, post reading later) :
        Safe (treating config) now post later := treats_now tended.timeless reached
    split
    · split
      · split
        · simp only [Program.pure_eq, Program.done_bind, safe_bind]
          exact read fun _ => read fun _ => tended
        · simp only [safe_bind]
          exact read fun _ => read fun _ => read fun _ => tended
      · simp only [safe_bind]
        exact read fun _ => tended
    · simp only [safe_bind]
      exact read fun _ => tended

/-- All branches of the monitor's own wait are among those of a tended child. -/
theorem awaited_minds {anchor : Option Instant} :
    ([Source.shutdown, .wake, .child] ++ state.stability ++ [Source.activity] ++
      state.playerPoll ++ (match anchor with
        | some anchor => [Source.sleepUntil .idleDeadline (anchor + config.idleTimeout)]
        | none => [])).all Source.minds = true := by
  have polls : state.playerPoll.all Source.minds = true := by
    unfold RunningMonitorState.playerPoll
    split <;> rfl
  cases anchor <;> simp [stability_minds, polls, Source.minds]

/-- The monitor's own wait keeps the child tended or passes on its end. A request that arrives
meanwhile is refused, which is nothing that concerns the child. -/
theorem treats_awaitRunningMonitor {anchor : Option Instant} (tended : treatment.Tended) :
    Safe (treating config) (awaitRunningMonitor config state anchor)
      (fun decided later => MonitorTreated decided.2 later) treatment := by
  simp only [awaitRunningMonitor, Program.bind_eq, safe_bind]
  refine treats_select_tended tended awaited_minds ?_
  rintro event later - minded
  cases event with
  | wake request =>
    cases request with
    | none => exact minded.1
    | some request =>
      simp only [safe_bind]
      exact treats_access trivial fun _ => minded.1
  | child status => exact minded
  | elapsed timer =>
    cases timer with
    | stability =>
      simp only [safe_bind]
      exact treats_completeStabilityWindow minded.1 (fun status later waited => waited)
        fun later tended => tended
    | playerPoll =>
      simp only [safe_bind]
      exact (treats_pollPlayerPresence minded.1).mono fun _ _ tended => tended
    | _ => exact minded.1
  | _ => exact minded.1

/-- A turn of the monitor leaves the child as its outcome says: tended while the watch goes on,
and otherwise with the end that the cleanup is to be told. -/
theorem treats_advanceRunningMonitor (tended : treatment.Tended) :
    Safe (treating config) (advanceRunningMonitor config state)
      (fun decided later => MonitorTreated decided.2 later) treatment := by
  simp only [advanceRunningMonitor, Program.bind_eq, safe_bind]
  refine treats_access trivial fun activity => ?_
  split
  · simp only [safe_bind]
    refine treats_now tended.timeless fun reading => ?_
    split
    · exact treats_attemptExpiredIdleStop tended
    · exact treats_awaitRunningMonitor tended
  · exact treats_awaitRunningMonitor tended

/-- Monitoring keeps the child tended through all its turns, and the cycle then ends with the
child reaped or an error. -/
theorem treats_monitorRunningServer {inspection : PlayerInspection} {cycle : BackendCycle}
    (tended : treatment.Tended) :
    Safe (treating config) (monitorRunningServer config inspection cycle) CycleTreated
      treatment := by
  simp only [monitorRunningServer, RunningMonitorState.new, Program.bind_eq, safe_bind]
  refine treats_access trivial fun current => treats_assert fun _ => ?_
  refine safe_loop (fun _ later => later.Tended) tended fun state treatment tended => ?_
  simp only [safe_bind]
  refine (treats_advanceRunningMonitor tended).mono fun decided later treated => ?_
  obtain ⟨state, outcome⟩ := decided
  cases outcome with
  | continued => exact treated
  | committed =>
    obtain rfl : later = _ := treated
    simp only [safe_bind]
    exact treats_stopCommittedIdleServer
  | shutdown =>
    simp only [safe_bind]
    exact treats_stopForShutdown treated
  | childWait status =>
    simp only [safe_bind]
    exact treats_processWaitOutcome treated

end Watching

/-! ## Readiness -/

section Readiness

/-- How waiting for readiness leaves the child. -/
def ReadinessTreated : ReadinessOutcome → Treatment → Prop
  | .ready, treatment => treatment.Tended ∧ treatment.ready = true
  | .exited, treatment => ChildWaited .exited treatment
  | .processWaitFailed, treatment => ChildWaited .failed treatment
  | .startupTimedOut, treatment | .shutdown, treatment => treatment.Tended

/-- Between two attempts to connect the child is watched, and its end decides the outcome. A
request that arrives meanwhile is refused, and the attempts go on. -/
theorem treats_awaitReadinessRetry {retryAt : Instant}
    {post : Turn Unit ReadinessOutcome → Treatment → Prop} (tended : treatment.Tended)
    (again : ∀ later, later.Tended → post (.again ()) later)
    (left : ∀ outcome later, ReadinessTreated outcome later → post (.leave outcome) later) :
    Safe (treating config) (awaitReadinessRetry retryAt) post treatment := by
  simp only [awaitReadinessRetry, Program.bind_eq, safe_bind]
  refine treats_select_tended tended rfl ?_
  rintro event later - minded
  cases event with
  | wake request =>
    cases request with
    | none => exact left .shutdown _ minded.1
    | some request =>
      simp only [safe_bind]
      exact treats_access trivial fun _ => again _ minded.1
  | child status =>
    cases status with
    | exited => exact left .exited _ minded
    | failed => exact left .processWaitFailed _ minded
  | elapsed timer => exact again _ minded.1
  | _ => exact left .shutdown _ minded.1

/-- A server counts as ready only after a connection, with its child alive. A child that is found
to be gone at the deadline is reported as exited and not as late. -/
theorem treats_waitForReadiness (tended : treatment.Tended) :
    Safe (treating config) (waitForReadiness config) ReadinessTreated treatment := by
  simp only [waitForReadiness, Program.bind_eq, safe_bind]
  refine treats_now tended.timeless fun reading => ?_
  refine safe_loop (fun _ later => later.Tended) tended fun _ treatment tended => ?_
  have retried (retryAt : Instant) (later : Treatment) (tended : later.Tended) :
      Safe (treating config) (awaitReadinessRetry retryAt)
        (fun decision state => decision.elim (fun _ => state.Tended)
          fun value => ReadinessTreated value state) later :=
    treats_awaitReadinessRetry tended (fun _ tended => tended) fun _ _ treated => treated
  simp only [safe_bind]
  refine treats_now tended.timeless fun reading => ?_
  split
  · simp only [safe_bind]
    exact treats_tryWait tended (fun _ waited => waited) (fun _ waited => waited) tended
  · simp only [safe_bind]
    refine treats_now tended.timeless fun _ => treats_now tended.timeless fun _ => ?_
    refine treats_select_tended tended rfl ?_
    rintro event later - minded
    cases event with
    | wake request =>
      cases request with
      | none => exact minded.1
      | some request =>
        simp only [safe_bind]
        exact treats_access trivial fun _ => minded.1
    | child status => cases status <;> exact minded
    | connect ok =>
      cases ok with
      | true => exact ⟨minded.1, minded.2 rfl⟩
      | false =>
        simp only [safe_bind]
        exact treats_now minded.1.timeless fun _ => retried _ _ minded.1
    | elapsed timer =>
      simp only [safe_bind]
      exact treats_now minded.1.timeless fun _ => retried _ _ minded.1
    | _ => exact minded.1

/-- A child that was found ready is published as running. -/
theorem treats_publishRunning (tended : treatment.Tended) (ready : treatment.ready = true) :
    Safe (treating config) publishRunning (fun _ later => later.Tended) treatment := by
  simp only [publishRunning, publish, Program.bind_eq, safe_bind]
  refine treats_access trivial fun current => treats_assert fun _ => ?_
  refine treats_now tended.timeless fun reading => treats_access trivial fun _ => ?_
  refine treats_assert fun _ => treats_access ⟨fun _ => ⟨ready, tended.live⟩, ?_⟩ fun _ => ?_
  · simp [Transition.stops]
  · exact tended.published rfl

/-- From the launch on the child is tended, until a stop or its own end; either way the cycle ends
with it reaped or with an error. -/
theorem treats_runServerCycle (tended : treatment.Tended) :
    Safe (treating config) (runServerCycle config) CycleTreated treatment := by
  simp only [runServerCycle, Program.bind_eq, safe_bind]
  refine (treats_waitForReadiness tended).mono fun outcome later treated => ?_
  cases outcome with
  | startupTimedOut => exact treats_stopFailedServer treated
  | exited =>
    simp only [safe_bind]
    exact treats_reapedFailure treated fun _ _ treated => treated
  | processWaitFailed => exact treats_reapAfterWaitError treated
  | shutdown => exact treats_stopForShutdown treated
  | ready =>
    simp only [safe_bind]
    refine treats_shutdownPending fun pending => ?_
    split
    · exact treats_stopForShutdown treated.1
    · simp only [safe_bind]
      refine (treats_publishRunning treated.1 treated.2).mono fun cycle later tended => ?_
      unfold PlayerInspection.fromConfig
      split
      · simp only [Program.bind_eq, safe_bind]
        exact treats_now tended.timeless fun _ => treats_monitorRunningServer tended
      · exact treats_monitorRunningServer tended

end Readiness

/-! ## The run -/

section Run

/-- No child has failed the supervisor, and no stop is in progress. -/
def Treatment.Untroubled (treatment : Treatment) : Prop :=
  treatment.failed = false ∧ treatment.timeless = true

/-- The operations of a supervisor that owns no child, launches and its end apart. -/
def Op.idles : Op → Prop
  | .select sources => sources.all Source.minds = true ∧ .child ∉ sources
  | .publish transition _ => transition ≠ .publishRunning ∧ transition.stops = false
  | .launch | .tryWait | .exit _ => False
  | _ => True

/-- Without a child the supervisor does nothing to one: its waits have no branch for a child, and
what it publishes begins no stop. -/
theorem idles_of_parks (op : Op) (parks : op.parks) : op.idles := by
  cases op with
  | select sources =>
    obtain rfl | rfl | ⟨deadline, rfl⟩ := parks <;> exact ⟨rfl, by simp⟩
  | publish transition next =>
    obtain ⟨parked, -⟩ := parks
    cases transition with
    | setPhase phase =>
      obtain rfl : phase = .stopped := by simpa [Transition.parks] using parked
      exact ⟨by simp, rfl⟩
    | publishRunning | beginFailureCleanup | beginIdleStop => cases parked
    | _ => exact ⟨by simp, rfl⟩
  | launch | tryWait | exit => exact parks
  | _ => trivial

/-- Publishing the stopped phase stops nothing. -/
theorem idles_setPhase_stopped : Issues Op.idles (setPhase .stopped) :=
  parks_setPhase_stopped.mono idles_of_parks

/-- During a cooldown it does nothing to one either. -/
theorem idles_of_cools (op : Op) (cools : op.cools) : op.idles := by
  cases op with
  | select sources =>
    obtain ⟨retryAt, rfl⟩ := cools
    exact ⟨rfl, by simp⟩
  | publish transition next =>
    obtain rfl : transition = .setPhase .stopped := cools
    exact ⟨by simp, rfl⟩
  | launch | tryWait | exit => exact cools
  | _ => trivial

variable (config) in
/-- What a supervisor without a child waits for does not fail it. There is no branch for a child
among its sources, so no event that it can observe speaks of one. -/
theorem untroubled_observed {sources : List Source} (minds : sources.all Source.minds = true)
    (unwatched : .child ∉ sources) {event : Event}
    (offered : ∃ source ∈ sources, source.offers event = true)
    (untroubled : treatment.Untroubled) :
    (treatment.after config (.select sources) event).Untroubled := by
  obtain ⟨child, ready, progress, failed⟩ := treatment
  obtain ⟨rfl, timeless⟩ := untroubled
  obtain ⟨source, listed, offered⟩ := offered
  have own := List.all_eq_true.mp minds source listed
  cases event with
  | child status =>
    cases source with
    | child => exact absurd listed unwatched
    | _ => cases offered
  | elapsed timer =>
    cases source with
    | sleepUntil other deadline =>
      obtain rfl : other = timer := of_decide_eq_true offered
      cases other with
      | graceful | reap => cases own
      | command => cases progress <;> first | exact ⟨rfl, rfl⟩ | cases timeless
      | _ => exact ⟨rfl, timeless⟩
    | _ => cases offered
  | rconStop | consoleStop | killTree | kill =>
    cases source <;> first | (cases offered; done) | cases own
  | _ => exact ⟨rfl, timeless⟩

/-- A program that idles leaves an untroubled supervisor untroubled. The induction over the
program is that of `Issues.safe`; here each of its operations is looked at once. -/
theorem treats_idles {α : Type} {program : Supervised α} (idles : Issues Op.idles program)
    (untroubled : treatment.Untroubled) :
    Safe (treating config) program (fun _ later => later.Untroubled) treatment := by
  refine Issues.safe (fun treatment op untroubled admitted => ?_) idles untroubled
  cases op with
  | select sources =>
    obtain ⟨minds, unwatched⟩ := admitted
    refine ⟨fun source listed => ?_, fun event offered =>
      untroubled_observed config minds unwatched offered untroubled⟩
    have own := List.all_eq_true.mp minds source listed
    cases source with
    | sleepUntil timer deadline => cases timer <;> trivial
    | rconStop | consoleStop | killTree | kill => cases own
    | _ => trivial
  | publish transition next =>
    obtain ⟨other, continues⟩ := admitted
    refine ⟨⟨fun same => absurd same other, by simp [continues]⟩, fun _ _ => ⟨untroubled.1, ?_⟩⟩
    simp [Treatment.after, continues, Treatment.timeless]
  | now =>
    refine ⟨trivial, fun reading _ => ?_⟩
    dsimp only
    rw [Treatment.after_now untroubled.2]
    exact untroubled
  | launch | tryWait | exit => exact admitted.elim
  | _ => exact ⟨trivial, fun _ _ => untroubled⟩

/-- How a turn of the run ends: untroubled, or with the result that its failures call
for. -/
def TurnTreated (decision : Turn Bool (Except SupervisorError Unit)) (treatment : Treatment) :
    Prop :=
  decision.elim (fun _ => treatment.Untroubled)
    fun result => result = .ok () ↔ treatment.failed = false

/-- A cooldown is spent idling. -/
theorem treats_afterCooldown {retryAt : Instant} {retryPending : Bool}
    (untroubled : treatment.Untroubled) :
    Safe (treating config) (afterCooldown retryAt retryPending) TurnTreated treatment := by
  simp only [afterCooldown, Program.bind_eq, safe_bind]
  refine (treats_idles (parks_logCurrentFailureCooldown.mono idles_of_parks) untroubled).mono ?_
  intro _ treatment untroubled
  refine (treats_idles ((cools_waitForCooldown _ _).mono idles_of_cools) untroubled).mono fun outcome later kept => ?_
  cases outcome with
  | launch | stopped => exact kept
  | shutdown => exact ⟨fun _ => kept.1, fun _ => rfl⟩

/-- Only an untroubled supervisor launches, and after the cycle it is untroubled again or leaves
with the error. -/
theorem treats_launchServer (untroubled : treatment.Untroubled) :
    Safe (treating config) (launchServer config) TurnTreated treatment := by
  simp only [launchServer, Program.bind_eq, safe_bind]
  refine treats_access untroubled.1 fun success => ?_
  cases success with
  | true =>
    simp only [if_true, recordLaunchSuccess, Program.bind_eq, safe_bind]
    refine treats_advance untroubled.2 (by simp) (by simp [Transition.stops]) fun value => ?_
    refine (treats_runServerCycle ?_).mono fun result later treated => ?_
    · exact ⟨rfl, rfl, untroubled.1⟩
    · cases result with
      | error error => exact ⟨by simp, fun sane => absurd sane (by simp [show _ = _ from treated])⟩
      | ok outcome =>
        have kept : later.Untroubled := ⟨treated.2.1, treated.2.2⟩
        cases outcome with
        | failed retryAt retryPending => exact treats_afterCooldown kept
        | stopped | restart =>
          simp only [safe_bind]
          exact (treats_idles idles_setPhase_stopped kept).mono fun _ _ kept => kept
        | shutdown =>
          simp only [safe_bind]
          exact (treats_idles idles_setPhase_stopped kept).mono fun _ _ kept =>
            ⟨fun _ => kept.1, fun _ => rfl⟩
  | false =>
    simp only [Bool.false_eq_true, if_false, recordLaunchFailure, Program.bind_eq, safe_bind]
    refine treats_advance untroubled.2 (by simp) (by simp [Transition.stops]) fun value => ?_
    exact treats_afterCooldown ⟨untroubled.1, rfl⟩

/-- The probes before a launch do nothing to a child, and a launch that they prevent leaves the
supervisor as untroubled as before. -/
theorem treats_serveDemand (untroubled : treatment.Untroubled) :
    Safe (treating config) (serveDemand config) TurnTreated treatment := by
  simp only [serveDemand, Program.bind_eq, safe_bind]
  refine treats_shutdownPending fun pending => ?_
  split
  · exact ⟨fun _ => untroubled.1, fun _ => rfl⟩
  · simp only [safe_bind]
    refine (treats_idles ((parks_reconcileFinalGate config).mono idles_of_parks) untroubled).mono ?_
    intro outcome later kept
    cases outcome with
    | launch => exact treats_launchServer kept
    | blocked => exact kept
    | shutdown => exact ⟨fun _ => kept.1, fun _ => rfl⟩

/-- A turn without a launch idles throughout. One that was told of a demand serves it, which is
the only way to a child. -/
theorem treats_serveNext {launchPending : Bool} (untroubled : treatment.Untroubled) :
    Safe (treating config) (serveNext config launchPending) TurnTreated treatment := by
  unfold serveNext
  split
  · exact treats_serveDemand untroubled
  · simp only [Program.bind_eq, safe_bind]
    refine (treats_idles (parks_waitForReconciliationDemand.mono idles_of_parks) untroubled).mono ?_
    intro demanded later kept
    split
    · exact treats_serveDemand kept
    · simp only [safe_bind]
      refine treats_access trivial fun current => ?_
      split
      · simp only [safe_bind]
        exact (treats_idles idles_setPhase_stopped kept).mono fun _ _ kept =>
          ⟨fun _ => kept.1, fun _ => rfl⟩
      · exact ⟨fun _ => kept.1, fun _ => rfl⟩

/-- Each turn of the loop leaves the supervisor untroubled, or ends the run with the error that
troubled it. -/
theorem treats_superviseTurn {launchPending : Bool} (untroubled : treatment.Untroubled) :
    Safe (treating config) (superviseTurn config launchPending) TurnTreated treatment := by
  simp only [superviseTurn, Program.bind_eq, safe_bind]
  refine treats_access trivial fun current => ?_
  split
  · simp only [safe_bind]
    refine (treats_idles ((parks_monitorExternalServer config).mono idles_of_parks) untroubled).mono ?_
    intro outcome later kept
    cases outcome with
    | conflict => exact treats_serveNext kept
    | shutdown => exact ⟨fun _ => kept.1, fun _ => rfl⟩
  · exact treats_serveNext untroubled

/-- The whole run treats its children in order. A turn begins and ends untroubled, and the result
that a turn ends the run with tells whether a child has failed. -/
theorem treats_run : Safe (treating config) (run config) (fun _ _ => True) .initial := by
  have untroubled : Treatment.initial.Untroubled := ⟨rfl, rfl⟩
  have looped (launchPending : Bool) (treatment : Treatment) (untroubled : treatment.Untroubled) :
      Safe (treating config) (Program.loop (superviseTurn config) launchPending)
        (fun result later => result = .ok () ↔ later.failed = false) treatment :=
    safe_loop (fun _ later => later.Untroubled) untroubled
      fun _ treatment untroubled => treats_superviseTurn untroubled
  have supervised : Safe (treating config) (supervise config)
      (fun result later => result = .ok () ↔ later.failed = false) .initial := by
    simp only [supervise, Program.bind_eq, safe_bind]
    refine treats_access trivial fun current => treats_assert fun _ => ?_
    refine treats_access trivial fun current => treats_assert fun _ => ?_
    refine (treats_idles ((parks_reconcileStartup config).mono idles_of_parks) untroubled).mono ?_
    intro outcome later kept
    cases outcome with
    | launch | idle => exact looped _ _ kept
    | shutdown => exact ⟨fun _ => kept.1, fun _ => rfl⟩
  simp only [run, Program.bind_eq, safe_bind]
  exact supervised.mono fun result later called => treats_access called fun _ => trivial

end Run

end McServerNap
