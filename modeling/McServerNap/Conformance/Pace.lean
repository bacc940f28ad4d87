import McServerNap.Conformance.Kinds
import McServerNap.Pace

/-!
# The supervisor keeps its pace

Most of the supervisor races every wait with the shutdown channel and is free
throughout. A stop goes through its deadlines in order, whether it waits alone or
beside the channels, and what follows it publishes before it waits again.
-/

namespace McServerNap

open Interaction SupervisorControl

/-- The operations of a free supervisor that neither polls nor stops. -/
def Op.races : Op → Prop
  | .select sources => sources.head? = some .shutdown ∧ sources.any Source.polls = false
  | .publish transition _ => transition.stops = false
  | _ => True

/-- What is plain races: it neither waits nor publishes. -/
theorem races_of_plain (op : Op) (plain : op.plain) : op.races := by
  cases op <;> trivial

section Racing

/-- A supervisor that owns no child races every wait: each of its waits begins with the branch of
the shutdown, and none polls players. -/
theorem races_of_parks (op : Op) (parks : op.parks) : op.races := by
  cases op with
  | select sources =>
    obtain rfl | rfl | ⟨deadline, rfl⟩ := parks <;> exact ⟨rfl, rfl⟩
  | publish transition next =>
    obtain ⟨parked, -⟩ := parks
    cases transition with
    | setPhase phase =>
      obtain rfl : phase = .stopped := by simpa [Transition.parks] using parked
      rfl
    | beginFailureCleanup | beginIdleStop => cases parked
    | _ => rfl
  | _ => trivial

/-- Publishing the stopped phase begins no stop. -/
theorem races_setPhase_stopped : Issues Op.races (setPhase .stopped) :=
  parks_setPhase_stopped.mono races_of_parks

/-- Looking for a shutdown is plain. -/
theorem races_shutdownPending : Issues Op.races shutdownPending :=
  issues_shutdownPending races_of_plain

/-- Nothing polls the players where their timer is left out. -/
theorem any_polls_eq_false {sources : List Source}
    (unpolled : ∀ deadline, .sleepUntil .playerPoll deadline ∉ sources) :
    sources.any Source.polls = false := by
  refine List.any_eq_false.mpr fun source listed polls => ?_
  cases source with
  | sleepUntil timer deadline =>
    cases timer with
    | playerPoll => exact unpolled deadline listed
    | _ => cases polls
  | _ => cases polls

/-- So does one that looks after a child, but for the wait that polls the players. -/
theorem races_of_oversees (op : Op) (oversees : op.oversees) : op.races := by
  cases op with
  | select sources => exact ⟨oversees.1, any_polls_eq_false oversees.2⟩
  | publish transition next =>
    obtain rfl : transition = .resetFailureStreak := oversees
    rfl
  | _ => trivial

/-- And so does one that waits out a cooldown. -/
theorem races_of_cools (op : Op) (cools : op.cools) : op.races := by
  cases op with
  | select sources =>
    obtain ⟨retryAt, rfl⟩ := cools
    exact ⟨rfl, rfl⟩
  | publish transition next =>
    obtain rfl : transition = .setPhase .stopped := cools
    rfl
  | _ => trivial

/-- Nor does publishing the running phase begin one. -/
theorem races_publishRunning : Issues Op.races publishRunning :=
  .bind (.request trivial) fun _ => .bind (issues_assert races_of_plain _) fun _ =>
    .bind (.request trivial) fun _ => .bind (.request trivial) fun _ =>
      .bind (.bind (issues_assert races_of_plain _) fun _ => .request rfl) fun _ => trivial

end Racing

section Free

variable {config : SupervisorConfig} {pace : Pace} {α : Type}

/-- A free supervisor that only races stays free. -/
theorem paced_races {program : Supervised α} (races : Issues Op.races program) :
    Safe (tempo config) program (fun _ pace => pace = .free) .free := by
  refine Issues.safe (fun pace op free admitted => ?_) races rfl
  subst free
  cases op with
  | select sources => exact ⟨admitted.1, fun event _ => by simp [Pace.after, admitted.2]⟩
  | publish transition next =>
    exact ⟨trivial, fun _ _ => if_neg (Bool.eq_false_iff.mp admitted)⟩
  | _ => exact ⟨trivial, fun _ _ => rfl⟩

/-- What neither waits, publishes nor looks at the clock keeps any pace. -/
theorem paced_plain {program : Supervised α} (plain : Issues Op.plain program) :
    Safe (tempo config) program (fun _ later => later = pace) pace := by
  refine Issues.safe (fun current op same admitted => ?_) plain rfl
  subst same
  cases op <;> first | exact ⟨trivial, fun _ _ => rfl⟩ | cases admitted

/-- The pace has to permit the operation, and what follows has to hold for each of its replies. -/
theorem paced_access {op : Op} {post : Reply op → Pace → Prop}
    (permitted : pace.permits op) (handled : ∀ reply, post reply (pace.after config op reply)) :
    Safe (tempo config) (access op) post pace :=
  ⟨permitted, fun reply _ => handled reply⟩

/-- Reading the clock starts no deadline. -/
def Pace.steady : Pace → Bool
  | free | graceful _ | reaping _ => true
  | _ => false

/-- A publishing function begins a stop or ends one. It asserts, reads the clock and publishes;
only the transition tells which of the two it is. -/
theorem paced_advance {transition : Transition} (steady : pace.steady = true) :
    Safe (tempo config) (advance transition)
      (fun _ later => later = if transition.stops then .stopping else .free) pace := by
  have asserts : ∀ (condition : Bool) (post : Unit → Pace → Prop), post () pace →
      Safe (tempo config) (assert condition) post pace := fun condition post reached => by
    cases condition with
    | true => exact reached
    | false => exact ⟨trivial, nofun⟩
  simp only [advance, publish, Program.bind_eq, safe_bind]
  refine paced_access trivial fun current => asserts _ _ ?_
  refine paced_access trivial fun reading => ?_
  have kept : pace.after config .now reading = pace := by
    cases pace <;> first | rfl | cases steady
  rw [kept]
  refine asserts _ _ (paced_access ?_ fun _ => rfl)
  cases pace <;> trivial

/-- Setting a phase begins a stop exactly when it is the stopping phase. Where no deadline is
being computed the pace is free otherwise. -/
theorem paced_setPhase {phase : ServerPhase} (steady : pace.steady = true) :
    Safe (tempo config) (setPhase phase)
      (fun _ later => later = if phase = .stopping then .stopping else .free) pace := by
  simp only [setPhase, Program.bind_eq, safe_bind]
  refine (paced_advance steady).mono fun _ later same => ?_
  simpa [Transition.stops] using same

end Free

section Stop

variable {config : SupervisorConfig} {pace : Pace} {σ : Type} {await : Awaiting σ}

/-- A stop waits up to a deadline or for a process to be terminated. -/
def Pace.awaits : Pace → Bool
  | commanding _ | graceful _ | terminating | reaping _ => true
  | _ => false

/-- Polling the channels as well does not keep a stop from what it waits for. -/
theorem Pace.permits_append {channels sources : List Source}
    (unpolled : channels.any Source.polls = false) (awaits : pace.awaits = true)
    (permitted : pace.permits (.select sources)) :
    pace.permits (.select (channels ++ sources)) := by
  have spared : (channels ++ sources).any Source.polls = false := by
    rw [List.any_append, unpolled, Bool.false_or]
    cases pace with
    | free | pollDue | polling | stopping => cases awaits
    | _ => exact permitted.2
  cases pace with
  | free | pollDue | polling | stopping => cases awaits
  | terminating =>
    exact ⟨List.any_append.trans (Bool.or_eq_true_iff.mpr (.inr permitted.1)), spared⟩
  | _ => exact ⟨List.mem_append_right channels permitted.1, spared⟩

/-- A wait of a stop ends where it began, since only readings and publications move its
deadline. -/
theorem Pace.after_awaits {sources : List Source} (event : Event) (awaits : pace.awaits = true) :
    pace.after config (.select sources) event = pace := by
  cases pace <;> first | rfl | cases awaits

/-- The await of a stop keeps what the stop waits for. -/
def Waits (config : SupervisorConfig) (await : Awaiting σ) : Prop :=
  ∀ {held sources} {pace : Pace} {post : σ × Event → Pace → Prop}, pace.awaits = true →
    pace.permits (.select sources) → (∀ held event, post (held, event) pace) →
    Safe (tempo config) (await held sources) post pace

/-- Waiting alone waits for the stop's own branches, and the pace stays. -/
theorem waits_alone : Waits config alone := by
  intro held sources pace post awaits permitted reached
  simp only [alone, Program.bind_eq, safe_bind]
  refine paced_access permitted fun event => ?_
  rw [Pace.after_awaits event awaits]
  exact reached () event

/-- So does waiting beside the channels, as often as a wake or a shutdown arrives before the
stop's own event. -/
theorem waits_beside (latches : WakeRequest → LifecycleState → Bool) :
    Waits config (beside latches) := by
  intro latch sources pace post awaits permitted reached
  refine safe_loop (fun _ later => later = pace) rfl fun latch _ same => ?_
  subst same
  split
  · simp only [Program.bind_eq, safe_bind]
    refine paced_access permitted fun event => ?_
    rw [Pace.after_awaits event awaits]
    exact reached latch event
  · simp only [Program.bind_eq, safe_bind]
    refine paced_access (Pace.permits_append ?_ awaits permitted) fun event => ?_
    · cases latch.pending <;> rfl
    · rw [Pace.after_awaits event awaits]
      split
      · rfl
      · rfl
      · simp only [safe_bind]
        exact paced_access trivial fun _ => paced_access trivial fun _ => rfl
      · exact reached latch _

/-- The termination begins when the child is queried, and stays there whether the query or the
kill ends it: the deadline of the reaping is only taken afterwards. -/
theorem paced_terminate (waits : Waits config await) {held : σ}
    {post : σ × Except SupervisorError Unit → Pace → Prop}
    (begins : pace.after config .tryWait .running = .terminating)
    (reached : ∀ held result, post (held, result) .terminating) :
    Safe (tempo config) (terminate await held) post pace := by
  have queried (outcome : TryWaitResult) : pace.after config .tryWait outcome = .terminating := by
    cases pace <;> first | rfl | cases begins
  simp only [terminate, Program.bind_eq, safe_bind]
  refine paced_access trivial fun outcome => ?_
  rw [queried]
  split
  · exact reached _ _
  · exact reached _ _
  · simp only [safe_bind]
    refine waits rfl ⟨rfl, rfl⟩ fun held event => ?_
    split
    · exact reached _ _
    · exact reached _ _
    · simp only [terminateDirectAfterTreeFailure, Program.bind_eq, safe_bind]
      refine paced_access trivial fun outcome => ?_
      split
      · exact reached _ _
      · simp only [safe_bind]
        exact waits rfl ⟨rfl, rfl⟩ fun held event => reached _ _

/-- After a termination the child is given its time to be reaped, and no wait goes beyond it. -/
theorem paced_terminateAndReap (waits : Waits config await) {held : σ} {waitError : Bool}
    {post : σ × Except SupervisorError Unit → Pace → Prop}
    (begins : pace.after config .tryWait .running = .terminating)
    (reached : ∀ held result deadline, post (held, result) (.reaping deadline)) :
    Safe (tempo config) (terminateAndReap await held waitError) post pace := by
  simp only [terminateAndReap, Program.bind_eq, safe_bind]
  refine paced_terminate waits begins fun held termination => paced_access trivial fun reading => ?_
  refine waits rfl (by simp [Pace.permits, Pace.after, reapingTimeout, Source.polls]) fun held event => ?_
  split
  · split <;> exact reached _ _ _
  · exact reached _ _ _
  · exact reached _ _ _

/-- A stop command has one deadline from the beginning of the stop on, which a second attempt on
the console shares with the one by RCON. -/
theorem paced_sendGracefulStop (waits : Waits config await) {held : σ}
    {post : σ × Bool → Pace → Prop}
    (reached : ∀ held sent deadline, post (held, sent) (.commanding deadline)) :
    Safe (tempo config) (sendGracefulStop config await held) post .stopping := by
  have console : ∀ held deadline, Safe (tempo config) (sendConsoleStopBefore await held deadline)
      post (.commanding deadline) := fun held deadline => by
    simp only [sendConsoleStopBefore, Program.bind_eq, safe_bind]
    exact waits rfl (by simp [Pace.permits, Source.polls]) fun held event => reached _ _ _
  simp only [sendGracefulStop, Program.bind_eq, safe_bind]
  refine paced_access trivial fun reading => ?_
  split
  · simp only [safe_bind]
    refine waits rfl (by simp [Pace.permits, Pace.after, Source.polls]) fun held event => ?_
    split
    · exact reached _ _ _
    · exact console _ _
    · exact reached _ _ _
  · exact console _ _

/-- A stop ends with the child's last deadline, whatever its result. The deadlines follow one
another: that of the command, that of the grace and that of the reaping. -/
theorem paced_stopAndReap (waits : Waits config await) {held : σ}
    {post : σ × Except SupervisorError Unit → Pace → Prop}
    (reached : ∀ held result pace, pace.steady = true → post (held, result) pace) :
    Safe (tempo config) (stopAndReap config await held) post .stopping := by
  simp only [stopAndReap, Program.bind_eq, safe_bind]
  refine paced_sendGracefulStop waits fun held sent deadline => ?_
  split
  · simp only [safe_bind]
    refine paced_access trivial fun reading => ?_
    refine waits rfl (by simp [Pace.permits, Pace.after, Source.polls]) fun held event => ?_
    split
    · exact reached _ _ _ rfl
    · exact paced_terminateAndReap waits rfl fun _ _ _ => reached _ _ _ rfl
    · exact paced_terminateAndReap waits rfl fun _ _ _ => reached _ _ _ rfl
  · exact paced_terminateAndReap waits rfl fun _ _ _ => reached _ _ _ rfl

end Stop

section Cleanup

variable {config : SupervisorConfig} {pace : Pace}

/-- After a cycle the supervisor publishes before it waits again, unless the child's
failure was its last publication. -/
def CyclePaced : CycleResult → Pace → Prop
  | .ok (.failed _ _), pace => pace = .free
  | _, pace => pace.steady = true

/-- Reaping after a failed wait begins a stop and carries it through. -/
theorem paced_reapAfterWaitError :
    Safe (tempo config) (reapAfterWaitError config) CyclePaced .free := by
  simp only [reapAfterWaitError, Program.bind_eq, safe_bind]
  refine (paced_setPhase rfl).mono fun _ pace same => ?_
  subst same
  refine paced_stopAndReap waits_alone fun held cleanup pace steady => ?_
  cases cleanup with
  | error error => exact steady
  | ok =>
    simp only [safe_bind]
    exact (paced_setPhase steady).mono fun _ pace same => same ▸ rfl

/-- The stop for a shutdown begins when it is published and ends steady. -/
theorem paced_stopForShutdown :
    Safe (tempo config) (stopForShutdown config) CyclePaced .free := by
  simp only [stopForShutdown, Program.bind_eq, safe_bind]
  refine (paced_setPhase rfl).mono fun _ pace same => ?_
  subst same
  refine paced_stopAndReap waits_alone fun held cleanup pace steady => ?_
  cases cleanup <;> exact steady

/-- Recording the failure of a reaped child stops nothing. -/
theorem paced_reapedFailure {failure : FailureCategory} {post : CycleOutcome → Pace → Prop}
    (recorded : ∀ retryAt, post (.failed retryAt false) .free) :
    Safe (tempo config) (reapedFailure failure) post .free := by
  simp only [reapedFailure, recordReapedFailure, Program.bind_eq, safe_bind]
  refine (paced_advance rfl).mono fun value pace same => ?_
  subst same
  exact recorded _

/-- Whatever a wait for the child told, the cycle ends as its pace should. -/
theorem paced_processWaitOutcome {status : WaitResult} {failure : FailureCategory} :
    Safe (tempo config) (processWaitOutcome config status failure) CyclePaced .free := by
  cases status with
  | exited =>
    simp only [processWaitOutcome, Program.bind_eq, safe_bind]
    exact paced_reapedFailure fun _ => rfl
  | failed => exact paced_reapAfterWaitError

/-- Stopping a server that failed to start goes through the same deadlines as any stop, and what
it publishes afterwards takes no time of its own. -/
theorem paced_stopFailedServer {failure : FailureCategory} :
    Safe (tempo config) (stopFailedServer config failure) CyclePaced .free := by
  simp only [stopFailedServer, beginFailureCleanup, finishFailedCleanup, Program.bind_eq, safe_bind]
  refine (paced_advance rfl).mono fun value pace same => ?_
  subst same
  refine paced_stopAndReap (waits_beside _) fun latch cleanup pace steady => ?_
  cases cleanup with
  | error error => exact steady
  | ok =>
    dsimp only
    split
    · exact steady
    · simp only [safe_bind]
      refine (paced_plain (issues_shutdownPending fun _ plain => plain)).mono ?_
      rintro pending _ rfl
      split
      · exact steady
      · simp only [finishFailureCleanup, Program.bind_eq, safe_bind]
        exact (paced_advance steady).mono fun value pace same => same

/-- Draining the wakes of an idle stop does not wait, so the pace stays. -/
theorem paced_drainRestarts {restart : Bool} {post : CycleOutcome → Pace → Prop}
    (restarted : post .restart pace) (stopped : post .stopped pace)
    (shutdown : post .shutdown pace) :
    Safe (tempo config) (drainRestarts restart) post pace := by
  refine safe_loop (fun _ later => later = pace) rfl fun restart _ same => ?_
  subst same
  simp only [Program.bind_eq, safe_bind]
  refine paced_access trivial fun reply => ?_
  cases reply with
  | empty => cases restart <;> assumption
  | disconnected => exact shutdown
  | received request =>
    simp only [safe_bind]
    exact paced_access trivial fun _ => paced_access trivial fun _ => rfl

/-- A committed idle stop has already begun, and is carried through from there. A shutdown that
arrives meanwhile finds the stop with its deadlines already running. -/
theorem paced_stopCommittedIdleServer :
    Safe (tempo config) (stopCommittedIdleServer config) CyclePaced .stopping := by
  simp only [stopCommittedIdleServer, Program.bind_eq, safe_bind]
  refine paced_access trivial fun stopping => ?_
  refine (paced_plain (issues_assert (fun _ plain => plain) _)).mono ?_
  rintro - _ rfl
  refine paced_stopAndReap (waits_beside _) fun latch cleanup pace steady => ?_
  cases cleanup with
  | error error => exact steady
  | ok =>
    dsimp only
    split
    · exact steady
    · simp only [safe_bind]
      refine (paced_plain (issues_shutdownPending fun _ plain => plain)).mono ?_
      rintro pending _ rfl
      split
      · exact steady
      · simp only [safe_bind]
        exact paced_drainRestarts steady steady steady

end Cleanup

section Monitoring

variable {config : SupervisorConfig} {α : Type}

/-- A free supervisor that races stays free, and the rest goes on from there. -/
theorem paced_then {program : Supervised α} {post : α → Pace → Prop}
    (races : Issues Op.races program) (reached : ∀ value, post value .free) :
    Safe (tempo config) program post .free :=
  (paced_races races).mono fun value _ free => free ▸ reached value

variable {state : RunningMonitorState}

/-- A committed idle stop has begun; otherwise the supervisor is free. -/
def MonitorPaced (outcome : RunningMonitorOutcome) (pace : Pace) : Prop :=
  pace = if outcome = .committed then .stopping else .free

/-- Committing an idle stop begins it; giving up leaves the supervisor free. In between it only
reads, and what it reads takes no time. -/
theorem paced_commitIdleStop :
    Safe (tempo config) (commitIdleStop state) MonitorPaced .free := by
  simp only [commitIdleStop, Program.bind_eq, safe_bind]
  refine paced_access trivial fun lifecycle => ?_
  split
  · rfl
  · simp only [safe_bind]
    refine paced_then races_shutdownPending fun pending => ?_
    split
    · rfl
    · simp only [safe_bind]
      refine paced_access trivial fun outcome => ?_
      cases outcome with
      | exited | failed => rfl
      | running =>
        simp only [beginIdleStop, Program.bind_eq, safe_bind]
        refine paced_access trivial fun now => (paced_advance rfl).mono fun _ pace same => ?_
        exact same

/-- Under the gate every wait is raced with a shutdown, the last check's included. That is where
this check differs from the poll of the players, which is raced with nothing. -/
theorem paced_attemptUnderExclusive {anchor : Instant} :
    Safe (tempo config) (attemptUnderExclusive config anchor state)
      (fun decided pace => MonitorPaced decided.2 pace) .free := by
  simp only [attemptUnderExclusive, Program.bind_eq, safe_bind]
  refine paced_access trivial fun activity => ?_
  split
  · rfl
  · simp only [safe_bind]
    refine paced_access trivial fun now => ?_
    split
    · rfl
    · simp only [safe_bind]
      refine paced_access trivial fun lifecycle => ?_
      split
      · rfl
      · simp only [safe_bind]
        refine paced_then races_shutdownPending fun pending => ?_
        split
        · rfl
        · simp only [safe_bind]
          refine paced_access trivial fun outcome => ?_
          cases outcome with
          | exited | failed => rfl
          | running =>
            simp only [safe_bind]
            refine paced_then ((oversees_confirmIdlePlayerState config _).mono races_of_oversees) fun (state, check) => ?_
            cases check with
            | confirmed =>
              simp only [safe_bind]
              exact paced_commitIdleStop.mono fun _ _ paced => paced
            | _ => rfl

/-- An attempt races with a shutdown from the wait for the gate on. -/
theorem paced_attemptExpiredIdleStop {anchor : Instant} :
    Safe (tempo config) (attemptExpiredIdleStop config state anchor)
      (fun decided pace => MonitorPaced decided.2 pace) .free := by
  simp only [attemptExpiredIdleStop, Program.bind_eq, safe_bind]
  refine paced_then ((oversees_acquireIdleExclusive config _ _).mono races_of_oversees) fun (state, exclusive) => ?_
  cases exclusive with
  | acquired =>
    simp only [safe_bind]
    exact paced_attemptUnderExclusive.mono fun _ _ decided => paced_access trivial fun _ => decided
  | _ => rfl

/-- A poll waits for its own deadline only, and for no shutdown. It is the one wait of the
supervisor that delays the stop, by as much as the command timeout. -/
theorem paced_pollPlayerPresence {inspection : PlayerInspection}
    {post : PlayerInspection → Pace → Prop} (rcon : inspection ≠ .proxyOnly)
    (reached : ∀ inspection, post inspection .free) :
    Safe (tempo config) (pollPlayerPresence config inspection) post .pollDue := by
  unfold pollPlayerPresence
  split
  · exact absurd rfl rcon
  · simp only [Program.bind_eq, safe_bind]
    refine (paced_plain (issues_assert (fun _ plain => plain) _)).mono ?_
    rintro - _ rfl
    refine paced_access trivial fun reading => ?_
    refine paced_access (by simp [Pace.permits, Pace.after, Source.polls]) fun event => ?_
    split <;> (simp only [safe_bind]; exact paced_access trivial fun _ => reached _)
  · simp only [Program.bind_eq, safe_bind]
    refine (paced_plain (issues_assert (fun _ plain => plain) _)).mono ?_
    rintro - _ rfl
    refine paced_access trivial fun reading => ?_
    refine paced_access (by simp [Pace.permits, Pace.after, Source.polls]) fun event => ?_
    split
    · split
      · split
        · simp only [safe_bind, Program.pure_eq, safe_done]
          exact paced_access trivial fun _ => paced_access trivial fun _ => reached _
        · simp only [safe_bind]
          exact paced_access trivial fun _ => paced_access trivial fun _ =>
            paced_access trivial fun _ => reached _
      · simp only [safe_bind]
        exact paced_access trivial fun _ => reached _
    · simp only [safe_bind]
      exact paced_access trivial fun _ => reached _

/-- Only the end of a poll's delay makes a poll due. -/
theorem paced_after_free {program : Supervised α} {post : α → Pace → Prop}
    {sources : List Source} {event : Event} (other : event ≠ .elapsed .playerPoll)
    (safe : Safe (tempo config) program post .free) :
    Safe (tempo config) program post (Pace.after config .free (.select sources) event) := by
  have free : Pace.after config .free (.select sources) event = .free := by
    simp [Pace.after, other]
  rw [free]
  exact safe

/-- The branch for the next poll is listed where RCON is configured. -/
theorem polls_branches (state : RunningMonitorState) {front back : List Source}
    (unpolled : front.any Source.polls = false ∧ back.any Source.polls = false) :
    (front ++ state.playerPoll ++ back).any Source.polls =
      decide (state.playerInspection ≠ .proxyOnly) := by
  simp only [List.any_append, unpolled, RunningMonitorState.playerPoll]
  cases state.playerInspection <;> rfl

/-- The monitor's own wait may find a poll due, which is the one thing done without racing it with
a shutdown. -/
theorem paced_awaitRunningMonitor {anchor : Option Instant} :
    Safe (tempo config) (awaitRunningMonitor config state anchor)
      (fun decided pace => MonitorPaced decided.2 pace) .free := by
  have front : ([Source.shutdown, .wake, .child] ++ state.stability ++ [Source.activity]).any
      Source.polls = false :=
    any_polls_eq_false fun deadline => by simp [stability_unpolled]
  simp only [awaitRunningMonitor, Program.bind_eq, safe_bind]
  refine paced_access rfl fun event => ?_
  · split
    · refine paced_after_free (by simp) ?_
      simp only [safe_bind]
      exact paced_access trivial fun _ => rfl
    · exact paced_after_free (by simp) rfl
    · refine paced_after_free (by simp) ?_
      simp only [safe_bind]
      refine paced_then (oversees_completeStabilityWindow.mono races_of_oversees) fun ended => ?_
      split <;> exact rfl
    · exact paced_after_free (by simp) rfl
    · simp only [safe_bind]
      cases inspection : state.playerInspection with
      | proxyOnly =>
        simp only [Pace.after]
        rw [polls_branches state ⟨front, by cases anchor <;> rfl⟩, inspection]
        rfl
      | configuredRcon client nextPoll zeroAnchor =>
        simp only [Pace.after]
        rw [polls_branches state ⟨front, by cases anchor <;> rfl⟩, inspection]
        exact paced_pollPlayerPresence (by simp) fun inspection => rfl
    · exact paced_after_free (by simp_all) rfl
    · exact paced_after_free (by simp_all) rfl

/-- After a turn of the monitor the supervisor is free again, unless an idle stop was
committed. -/
theorem paced_advanceRunningMonitor :
    Safe (tempo config) (advanceRunningMonitor config state)
      (fun decided pace => MonitorPaced decided.2 pace) .free := by
  simp only [advanceRunningMonitor, Program.bind_eq, safe_bind]
  refine paced_access trivial fun activity => ?_
  split
  · simp only [safe_bind]
    refine paced_access trivial fun now => ?_
    split
    · exact paced_attemptExpiredIdleStop
    · exact paced_awaitRunningMonitor
  · exact paced_awaitRunningMonitor

/-- Monitoring ends in a stop or with the child's end, and either is carried through at its
pace. -/
theorem paced_monitorRunningServer {inspection : PlayerInspection} {cycle : BackendCycle} :
    Safe (tempo config) (monitorRunningServer config inspection cycle) CyclePaced .free := by
  simp only [monitorRunningServer, RunningMonitorState.new, Program.bind_eq, safe_bind]
  refine paced_access trivial fun lifecycle => ?_
  refine paced_then (issues_assert races_of_plain _) fun _ => ?_
  refine safe_loop (fun _ pace => pace = .free) rfl ?_
  rintro state _ rfl
  simp only [safe_bind]
  refine paced_advanceRunningMonitor.mono ?_
  rintro ⟨state, outcome⟩ pace paced
  cases outcome with
  | continued => exact paced
  | committed =>
    obtain rfl : pace = .stopping := paced
    simp only [safe_bind]
    exact paced_stopCommittedIdleServer
  | shutdown =>
    obtain rfl : pace = .free := paced
    simp only [safe_bind]
    exact paced_stopForShutdown
  | childWait status =>
    obtain rfl : pace = .free := paced
    simp only [safe_bind]
    exact paced_processWaitOutcome

end Monitoring

section Run

variable {config : SupervisorConfig}

/-- A cycle is free while it waits for readiness, and ends as its monitor does. Each other outcome
of that wait is handed to the stop that belongs to it. -/
theorem paced_runServerCycle : Safe (tempo config) (runServerCycle config) CyclePaced .free := by
  simp only [runServerCycle, Program.bind_eq, safe_bind]
  refine paced_then ((oversees_waitForReadiness config).mono races_of_oversees) fun outcome => ?_
  cases outcome with
  | startupTimedOut => exact paced_stopFailedServer
  | exited =>
    simp only [safe_bind]
    exact paced_reapedFailure fun _ => rfl
  | processWaitFailed => exact paced_reapAfterWaitError
  | shutdown => exact paced_stopForShutdown
  | ready =>
    simp only [safe_bind]
    refine paced_then races_shutdownPending fun pending => ?_
    split
    · exact paced_stopForShutdown
    · simp only [safe_bind]
      refine paced_then races_publishRunning fun cycle => ?_
      unfold PlayerInspection.fromConfig
      split
      · simp only [Program.bind_eq, safe_bind]
        exact paced_access trivial fun now => paced_monitorRunningServer
      · exact paced_monitorRunningServer

/-- Between two turns of its loop, and after the last, the supervisor has published
whatever it had to stop. -/
def TurnPaced : Turn Bool (Except SupervisorError Unit) → Pace → Prop
  | .again _, pace => pace = .free
  | .leave _, _ => True

/-- A cooldown races with a shutdown. -/
theorem paced_afterCooldown {retryAt : Instant} {retryPending : Bool} :
    Safe (tempo config) (afterCooldown retryAt retryPending) TurnPaced .free :=
  paced_then ((cools_afterCooldown retryAt retryPending).mono races_of_cools) fun decision => by
    cases decision <;> trivial

/-- After its cycle a launch publishes whatever is left of a stop, and only then may it cool down.
A launch that failed has nothing to stop. -/
theorem paced_launchServer : Safe (tempo config) (launchServer config) TurnPaced .free := by
  simp only [launchServer, Program.bind_eq, safe_bind]
  refine paced_access trivial fun launched => ?_
  cases launched with
  | false =>
    simp only [Bool.false_eq_true, if_false, recordLaunchFailure, Program.bind_eq, safe_bind]
    refine (paced_advance rfl).mono fun value _ same => ?_
    subst same
    exact paced_afterCooldown
  | true =>
    simp only [if_true, recordLaunchSuccess, Program.bind_eq, safe_bind]
    refine (paced_advance rfl).mono fun value _ same => ?_
    subst same
    refine paced_runServerCycle.mono fun result pace leaves => ?_
    cases result with
    | error => trivial
    | ok outcome =>
      cases outcome with
      | failed retryAt retryPending =>
        obtain rfl : pace = .free := leaves
        exact paced_afterCooldown
      | stopped | restart =>
        simp only [safe_bind]
        exact (paced_setPhase leaves).mono fun _ _ same => same
      | shutdown =>
        simp only [safe_bind]
        exact (paced_setPhase leaves).mono fun _ _ _ => trivial

/-- Serving a demand races with a shutdown up to the launch, and an idle turn does throughout. -/
theorem paced_serveNext {launchPending : Bool} :
    Safe (tempo config) (serveNext config launchPending) TurnPaced .free := by
  have served : Safe (tempo config) (serveDemand config) TurnPaced .free := by
    simp only [serveDemand, Program.bind_eq, safe_bind]
    refine paced_then races_shutdownPending fun pending => ?_
    split
    · trivial
    · simp only [safe_bind]
      refine paced_then ((parks_reconcileFinalGate config).mono races_of_parks) fun gate => ?_
      cases gate with
      | launch => exact paced_launchServer
      | blocked => rfl
      | shutdown => trivial
  unfold serveNext
  split
  · exact served
  · simp only [Program.bind_eq, safe_bind]
    refine paced_then (parks_waitForReconciliationDemand.mono races_of_parks) fun demanded => ?_
    split
    · exact served
    · simp only [safe_bind]
      refine paced_access trivial fun lifecycle => ?_
      split
      · simp only [safe_bind]
        exact paced_then races_setPhase_stopped fun _ => trivial
      · trivial

/-- Each turn of the loop begins and ends free. -/
theorem paced_superviseTurn {launchPending : Bool} :
    Safe (tempo config) (superviseTurn config launchPending) TurnPaced .free := by
  simp only [superviseTurn, Program.bind_eq, safe_bind]
  refine paced_access trivial fun lifecycle => ?_
  split
  · simp only [safe_bind]
    refine paced_then ((parks_monitorExternalServer config).mono races_of_parks) fun outcome => ?_
    cases outcome with
    | conflict => exact paced_serveNext
    | shutdown => trivial
  · exact paced_serveNext

/-- A run keeps its pace from the start: between two turns it is free, so that a signal that comes
there finds no deadline that has already begun. -/
theorem paced_run : Safe (tempo config) (run config) (fun _ _ => True) .free := by
  have exits : ∀ {result : Except SupervisorError Unit} {pace : Pace},
      Safe (tempo config) (access (.exit result)) (fun _ _ => True) pace :=
    paced_access trivial fun _ => trivial
  have looped : ∀ launchPending, Safe (tempo config)
      (Program.loop (superviseTurn config) launchPending)
      (fun result pace => Safe (tempo config) (access (.exit result)) (fun _ _ => True) pace)
      .free := fun launchPending =>
    safe_loop (fun _ pace => pace = .free) rfl fun launchPending pace free => by
      subst free
      refine paced_superviseTurn.mono fun decision pace leaves => ?_
      cases decision with
      | again => exact leaves
      | leave => exact exits
  simp only [run, supervise, Program.bind_eq, safe_bind]
  refine paced_access trivial fun _ => paced_then (issues_assert races_of_plain _) fun _ => ?_
  refine paced_access trivial fun _ => paced_then (issues_assert races_of_plain _) fun _ => ?_
  refine paced_then ((parks_reconcileStartup config).mono races_of_parks) fun outcome => ?_
  cases outcome with
  | launch => exact looped true
  | idle => exact looped false
  | shutdown => exact exits

end Run

end McServerNap
