import McServerNap.Conformance.Cleanup

/-!
# Watching a running server follows the conduct

Each function of the monitor keeps the server watched or says how the watch
ended. What the idle decision depends on is not part of the conduct, so the
anchors and polls do not appear in these specifications.
-/

namespace McServerNap

open Interaction SupervisorControl

variable {rcon : Bool}

section Monitoring

variable {config : SupervisorConfig} {held : Bool} {stance : Stance}

/-- The server runs and is watched. -/
def Watching (held : Bool) (stance : Stance) : Prop :=
  ∃ lifecycle child, stance = ⟨.owned, lifecycle, child, held, none, false⟩ ∧
    lifecycle.phase = .running ∧ stance.Sound

/-- A shutdown was observed while the server was watched. -/
def Dismissed (held : Bool) (stance : Stance) : Prop :=
  ∃ lifecycle child, stance = ⟨.owned, lifecycle, child, held, none, true⟩ ∧ stance.Sound

/-- A wait for the child ended while the server was watched. -/
def Waited (held : Bool) (status : WaitResult) (stance : Stance) : Prop :=
  ∃ lifecycle child, stance = ⟨.owned, lifecycle, child, held, none, false⟩ ∧
    (status = .exited → child = .reaped) ∧ stance.Sound

/-- A sound stance of a running server without a request or a shutdown is one in which the server
is watched. -/
theorem Watching.running {lifecycle : LifecycleState} {child : ChildState}
    (sound : Stance.Sound ⟨.owned, lifecycle, child, held, none, false⟩)
    (running : lifecycle.phase = .running) :
    Watching held ⟨.owned, lifecycle, child, held, none, false⟩ :=
  ⟨lifecycle, child, rfl, running, sound⟩

/-- A wait that failed tells nothing about the child, so the stance is the watched one. -/
theorem Waited.failed (watching : Watching held stance) : Waited held .failed stance := by
  obtain ⟨lifecycle, child, rfl, -, sound⟩ := watching
  exact ⟨lifecycle, child, rfl, nofun, sound⟩

/-- One query of the child while the server is watched: it finds the exit, fails, or leaves the
watch as it was. -/
theorem safe_tryWait_watching {post : TryWaitResult → Stance → Prop}
    (watching : Watching held stance)
    (exited : ∀ later, Waited held .exited later → post .exited later)
    (failed : ∀ later, Waited held .failed later → post .failed later)
    (running : post .running stance) :
    Safe (conduct rcon) (access .tryWait) post stance := by
  obtain ⟨lifecycle, child, rfl, phase, sound⟩ := id watching
  refine safe_tryWait (fun sound => exited _ ⟨_, _, rfl, fun _ => rfl, sound⟩) fun result other => ?_
  cases result with
  | exited => exact absurd rfl other
  | running => exact running
  | failed => exact failed _ (.failed watching)

/-- The window completes with the child still watched, or finds that it has ended. -/
theorem safe_completeStabilityWindow {post : Option WaitResult → Stance → Prop}
    (watching : Watching held stance)
    (waited : ∀ status later, Waited held status later → post (some status) later)
    (completed : ∀ later, Watching held later → post none later) :
    Safe (conduct rcon) completeStabilityWindow post stance := by
  simp only [completeStabilityWindow, Program.bind_eq, safe_bind]
  refine safe_tryWait_watching watching (waited .exited) (waited .failed) ?_
  obtain ⟨lifecycle, child, rfl, running, sound⟩ := watching
  simp only [resetFailureStreak, Program.bind_eq, safe_bind]
  refine safe_advance .owned rfl ?_ (fun _ => rfl) fun now next built sound => ?_
  · simpa [Transition.admits, running] using sound.owned_evidence.2
  · subst built
    exact completed _ (.running sound running)

/-- A request was received while the server was watched, and is not yet answered. -/
def Asked (held : Bool) (request : WakeRequest) (stance : Stance) : Prop :=
  ∃ lifecycle child, stance = ⟨.owned, lifecycle, child, held, some request, false⟩ ∧
    Watching held ⟨.owned, lifecycle, child, held, none, false⟩

/-- A running server needs no launch, so requests are refused. -/
theorem safe_refuse {request : WakeRequest} {post : Unit → Stance → Prop}
    (asked : Asked held request stance)
    (refused : ∀ later, Watching held later → post () later) :
    Safe (conduct rcon) (answer request false) post stance := by
  obtain ⟨lifecycle, child, rfl, watching⟩ := asked
  exact safe_answer_refused rfl (refused _ watching)

/-- What an event tells about a watched server. -/
def Seen (held : Bool) : Event → Stance → Prop
  | .shutdown | .wake none => Dismissed held
  | .wake (some request) => Asked held request
  | .child status => Waited held status
  | .exclusive => Watching true
  | _ => Watching held

/-- The branches that belong to watching a running server. -/
def Source.watches : Source → Bool
  | .shutdown | .wake | .child | .activity | .exclusive | .rconConnect | .rconList
  | .sleepUntil _ _ => true
  | _ => false

/-- While the server runs and nothing is offered, all branches that watch it are allowed. -/
theorem watches_allowed {source : Source} (watched : source.watches = true)
    {lifecycle : LifecycleState} {child : ChildState} (running : lifecycle.phase = .running) :
    Stance.allows ⟨.owned, lifecycle, child, held, none, false⟩ source = true := by
  cases source <;> simp_all [Source.watches, Stance.allows, Stage.suspends]

/-- One wait while watching: each event tells what `Seen` says of it, and the caller continues
from there. -/
theorem safe_select_watching {sources : List Source} {post : Event → Stance → Prop}
    (watching : Watching held stance) (watches : ∀ source ∈ sources, source.watches = true)
    (internal : ∃ source ∈ sources, source.channel = false)
    (handled : ∀ event source, source ∈ sources → source.offers event = true →
      ∀ later, Seen held event later → post event later) :
    Safe (conduct rcon) (select sources) post stance := by
  obtain ⟨lifecycle, child, rfl, running, sound⟩ := id watching
  refine safe_access ⟨rfl, rfl, .inl internal, fun source listed =>
    watches_allowed (watches source listed) running, .inl rfl⟩ ?_
  · rintro event ⟨sound, source, listed, offered⟩
    refine handled event source listed offered _ ?_
    have watched := watches source listed
    cases event with
    | shutdown => exact ⟨lifecycle, child, rfl, sound⟩
    | wake request =>
      cases request with
      | none => exact ⟨lifecycle, child, rfl, sound⟩
      | some request => exact ⟨lifecycle, child, rfl, watching⟩
    | child status =>
      cases status with
      | exited => exact ⟨lifecycle, .reaped, rfl, fun _ => rfl, sound⟩
      | failed => exact .failed watching
    | exclusive => exact ⟨lifecycle, child, rfl, running, sound⟩
    | activity | elapsed | rconConnect | rconList => exact watching
    | _ =>
      revert offered watched
      cases source <;> simp [Source.watches, Source.offers]

/-- The monitor's branch for the stability window is a timer. -/
theorem stability_watches {state : RunningMonitorState} {source : Source}
    (listed : source ∈ state.stability) : ∃ deadline, source = .sleepUntil .stability deadline := by
  unfold RunningMonitorState.stability at listed
  split at listed
  · exact ⟨_, List.mem_singleton.mp listed⟩
  · exact nomatch listed

/-- Besides a `select!`'s fixed branches only the stability branch may be listed. -/
theorem mem_branches {state : RunningMonitorState} {front back : List Source} {source : Source}
    (listed : source ∈ front ++ state.stability ++ back) :
    source ∈ front ++ back ∨ ∃ deadline, source = .sleepUntil .stability deadline := by
  rcases List.mem_append.mp listed with first | last
  · rcases List.mem_append.mp first with fixed | stable
    · exact .inl (List.mem_append_left back fixed)
    · exact .inr (stability_watches stable)
  · exact .inl (List.mem_append_right front last)

/-- Its branch for the next poll of the players is a timer as well. -/
theorem playerPoll_watches {state : RunningMonitorState} {source : Source}
    (listed : source ∈ state.playerPoll) : ∃ deadline, source = .sleepUntil .playerPoll deadline := by
  unfold RunningMonitorState.playerPoll at listed
  split at listed
  · exact nomatch listed
  · exact ⟨_, List.mem_singleton.mp listed⟩

/-- The wait for the gate ends with it held, or not held after a change of activity, a shutdown or
the child's end. The loop's invariant is that the server is watched without the gate. -/
theorem safe_acquireIdleExclusive {expectedAnchor : Instant} {state : RunningMonitorState}
    {inspection : PlayerInspection} {post : RunningMonitorState × IdleExclusiveOutcome → Stance → Prop}
    (watching : Watching false stance) (same : state.playerInspection = inspection)
    (acquired : ∀ state later, state.playerInspection = inspection → Watching true later → post (state, .acquired) later)
    (changed : ∀ state later, state.playerInspection = inspection → Watching false later →
      post (state, .activityChanged) later)
    (shutdown : ∀ state later, state.playerInspection = inspection → Dismissed false later →
      post (state, .shutdown) later)
    (childWait : ∀ state status later, state.playerInspection = inspection →
      Waited false status later →
      post (state, .childWait status) later) :
    Safe (conduct rcon) (acquireIdleExclusive config expectedAnchor state) post stance := by
  refine safe_loop (fun state stance => state.playerInspection = inspection ∧
    Watching false stance) ⟨same, watching⟩ ?_
  rintro state stance ⟨same, watching⟩
  obtain ⟨lifecycle, child, rfl, running, sound⟩ := id watching
  simp only [Program.bind_eq, safe_bind]
  refine safe_wakesClosed (fun sound => shutdown _ _ same ⟨_, _, rfl, sound⟩) fun _ => ?_
  simp only [Bool.false_eq_true, if_false, safe_bind]
  refine safe_activitySnapshot fun activity => ?_
  split
  · exact changed _ _ same watching
  · simp only [safe_bind]
    refine safe_select_watching watching (fun source listed => ?_) ⟨.child, by simp, rfl⟩ ?_
    · rcases mem_branches listed with named | ⟨deadline, rfl⟩
      · exact List.all_eq_true.mp rfl source named
      · rfl
    · intro event source listed offered later seen
      cases event with
      | shutdown => exact shutdown _ _ same seen
      | wake request =>
        cases request with
        | none => exact shutdown _ _ same seen
        | some request =>
          simp only [safe_bind]
          exact safe_refuse seen fun later watching => ⟨same, watching⟩
      | child status => exact childWait _ _ _ same seen
      | elapsed timer =>
        simp only [safe_bind]
        exact safe_completeStabilityWindow seen (fun status later => childWait _ status later same)
          fun later watching => ⟨same, watching⟩
      | activity =>
        simp only [safe_bind]
        refine safe_activitySnapshot fun activity => ?_
        split
        · exact changed _ _ same seen
        · simp only [safe_bind]
          refine safe_now fun now => ?_
          split
          · exact changed _ _ same seen
          · exact ⟨same, seen⟩
      | exclusive => exact acquired _ _ same seen
      | _ =>
        rcases mem_branches listed with named | ⟨deadline, rfl⟩
        · simp only [List.cons_append, List.nil_append, List.mem_cons, List.not_mem_nil,
            or_false] at named
          rcases named with rfl | rfl | rfl | rfl | rfl <;> cases offered
        · cases offered

/-- The final check ends with a verdict while the server is still watched, or with the end of the
watch. The inspection stays the one it began with. -/
theorem safe_finalRconPlayerCheck {state : RunningMonitorState} {inspection : PlayerInspection}
    {post : RunningMonitorState × FinalRconCheck → Stance → Prop}
    (watching : Watching held stance) (same : state.playerInspection = inspection)
    (zero : ∀ state later, state.playerInspection = inspection → Watching held later →
      post (state, .zero) later)
    (veto : ∀ state client later, state.playerInspection = inspection → Watching held later →
      post (state, .veto client) later)
    (shutdown : ∀ state later, state.playerInspection = inspection → Dismissed held later →
      post (state, .shutdown) later)
    (childWait : ∀ state status later, state.playerInspection = inspection → Waited held status later →
      post (state, .childWait status) later) :
    Safe (conduct rcon) (finalRconPlayerCheck config state) post stance := by
  simp only [finalRconPlayerCheck, Program.bind_eq, safe_bind]
  refine safe_now fun now => safe_loop (fun state stance =>
    state.playerInspection = inspection ∧ Watching held stance) ⟨same, watching⟩ ?_
  rintro state stance ⟨same, watching⟩
  obtain ⟨lifecycle, child, rfl, running, sound⟩ := id watching
  simp only [safe_bind]
  refine safe_wakesClosed (fun sound => shutdown _ _ same ⟨_, _, rfl, sound⟩) fun _ => ?_
  simp only [Bool.false_eq_true, if_false, safe_bind]
  refine safe_select_watching watching (fun source listed => ?_) ⟨.child, by simp, rfl⟩ ?_
  · rcases mem_branches listed with named | ⟨deadline, rfl⟩
    · exact List.all_eq_true.mp rfl source named
    · rfl
  · intro event source listed offered later seen
    cases event with
    | shutdown => exact shutdown _ _ same seen
    | wake request =>
      cases request with
      | none => exact shutdown _ _ same seen
      | some request =>
        simp only [safe_bind]
        exact safe_refuse seen fun later watching => ⟨same, watching⟩
    | child status => exact childWait _ _ _ same seen
    | elapsed timer =>
      cases timer with
      | stability =>
        simp only [safe_bind]
        exact safe_completeStabilityWindow seen (fun status later => childWait _ status later same)
          fun later watching => ⟨same, watching⟩
      | _ => exact veto _ _ _ same seen
    | rconList response =>
      cases response with
      | none => exact veto _ _ _ same seen
      | some response =>
        by_cases empty : observedPlayerCount response = some 0
        · simpa [empty] using zero _ _ same seen
        · simpa [empty] using veto _ _ _ same seen
    | _ =>
      rcases mem_branches listed with named | ⟨deadline, rfl⟩
      · simp only [List.cons_append, List.nil_append, List.mem_cons, List.not_mem_nil,
          or_false] at named
        rcases named with rfl | rfl | rfl | rfl | rfl <;> cases offered
      · cases offered

/-- Players are inspected over RCON only where it is configured. -/
def RconConfigured (config : SupervisorConfig) (state : RunningMonitorState) : Prop :=
  state.playerInspection ≠ .proxyOnly → config.rcon = true

/-- Whether RCON is configured depends on the inspection only. -/
theorem RconConfigured.of_same {state later : RunningMonitorState}
    (inspected : RconConfigured config state) (same : later.playerInspection = state.playerInspection) :
    RconConfigured config later := by
  rw [RconConfigured, same]
  exact inspected

/-- The final check leaves the inspection as it is, so that a veto finds it configured. -/
theorem safe_confirmIdlePlayerState {state : RunningMonitorState}
    {post : RunningMonitorState × IdlePlayerCheck → Stance → Prop}
    (watching : Watching held stance) (inspected : RconConfigured config state)
    (confirmed : ∀ state later, RconConfigured config state → Watching held later →
      post (state, .confirmed) later)
    (veto : ∀ state later, RconConfigured config state → Watching held later →
      post (state, .veto) later)
    (shutdown : ∀ state later, RconConfigured config state → Dismissed held later →
      post (state, .shutdown) later)
    (childWait : ∀ state status later, RconConfigured config state → Waited held status later →
      post (state, .childWait status) later) :
    Safe (conduct rcon) (confirmIdlePlayerState config state) post stance := by
  unfold confirmIdlePlayerState
  split
  · exact confirmed _ _ inspected watching
  · rename_i inspection
    have configured : config.rcon = true := inspected (by simp [inspection])
    simp only [Program.bind_eq, safe_bind]
    exact safe_now fun now => veto _ _ (fun _ => configured) watching
  · rename_i inspection
    have configured : config.rcon = true := inspected (by simp [inspection])
    simp only [Program.bind_eq, safe_bind]
    refine safe_finalRconPlayerCheck watching rfl
      (fun state later _ => confirmed state later fun _ => configured) ?_
      (fun state later _ => shutdown state later fun _ => configured)
      (fun state status later _ => childWait state status later fun _ => configured)
    intro state client later same watching
    simp only [same, safe_bind]
    exact safe_now fun now => veto _ _ (fun _ => configured) watching

/-- How watching a server continues or ends. A committed idle stop finds the gate
held. -/
def MonitorLeaves (held : Bool) : RunningMonitorOutcome → Stance → Prop
  | .continued, stance => Watching held stance
  | .committed, stance => ∃ lifecycle child,
      stance = ⟨.stopping .idle false, lifecycle, child, held, none, false⟩ ∧ stance.Sound
  | .shutdown, stance => Dismissed held stance
  | .childWait status, stance => Waited held status stance

/-- A shutdown observed while watching dismisses the server, whatever phase it is in. -/
theorem Dismissed.of_watching {lifecycle : LifecycleState} {child : ChildState}
    (sound : Stance.Sound ⟨.owned, lifecycle, child, held, none, true⟩) :
    Dismissed held ⟨.owned, lifecycle, child, held, none, true⟩ :=
  ⟨lifecycle, child, rfl, sound⟩

/-- The idle stop is published with the gate held, for the cycle that runs. -/
theorem safe_commitIdleStop {state : RunningMonitorState} (watching : Watching true stance) :
    Safe (conduct rcon) (commitIdleStop state) (MonitorLeaves true) stance := by
  obtain ⟨lifecycle, child, rfl, running, sound⟩ := id watching
  simp only [commitIdleStop, Program.bind_eq, safe_bind]
  refine safe_currentLifecycle ?_
  split
  · exact watching
  · rename_i current
    simp only [safe_bind]
    refine safe_shutdownPending_steady ⟨rfl, rfl⟩ (fun sound => .of_watching sound) ?_
    simp only [Bool.false_eq_true, if_false, safe_bind]
    refine safe_tryWait_watching watching (fun _ waited => waited) (fun _ waited => waited) ?_
    simp only [beginIdleStop, Program.bind_eq, safe_bind]
    refine safe_now fun now => safe_advance (.stopping .idle false) rfl ?_ (fun _ => rfl)
      fun now next _ sound => ⟨next, child, rfl, sound⟩
    simpa [Transition.admits] using current

/-- Under the gate an attempt leaves the monitor with the gate still held, and a commitment finds
it so. -/
theorem safe_attemptUnderExclusive {anchor : Instant} {state : RunningMonitorState}
    {post : RunningMonitorState × RunningMonitorOutcome → Stance → Prop}
    (watching : Watching true stance) (inspected : RconConfigured config state)
    (left : ∀ state outcome later, RconConfigured config state → MonitorLeaves true outcome later →
      post (state, outcome) later) :
    Safe (conduct rcon) (attemptUnderExclusive config anchor state) post stance := by
  obtain ⟨lifecycle, child, rfl, running, sound⟩ := id watching
  simp only [attemptUnderExclusive, Program.bind_eq, safe_bind]
  refine safe_activitySnapshot fun activity => ?_
  split
  · exact left _ _ _ inspected watching
  · simp only [safe_bind]
    refine safe_now fun now => ?_
    split
    · exact left _ _ _ inspected watching
    · simp only [safe_bind]
      refine safe_currentLifecycle ?_
      split
      · exact left _ _ _ inspected watching
      · simp only [safe_bind]
        refine safe_shutdownPending_steady ⟨rfl, rfl⟩
          (fun sound => left _ _ _ inspected (.of_watching sound)) ?_
        simp only [Bool.false_eq_true, if_false, safe_bind]
        refine safe_tryWait_watching watching (fun _ waited => left _ _ _ inspected waited)
          (fun _ waited => left _ _ _ inspected waited) ?_
        simp only [safe_bind]
        refine safe_confirmIdlePlayerState watching inspected
          (fun state later inspected watching => ?_) (fun _ _ => left _ .continued _)
          (fun _ _ => left _ .shutdown _) (fun _ status _ => left _ (.childWait status) _)
        simp only [safe_bind]
        exact (safe_commitIdleStop watching).mono fun outcome later =>
          left _ outcome later inspected

/-- The gate is released on every way out. Nothing else of the stance mentions the gate, so each
outcome leaves as it left under it. -/
theorem MonitorLeaves.released {outcome : RunningMonitorOutcome}
    (leaves : MonitorLeaves true outcome stance) :
    MonitorLeaves false outcome { stance with held := false } := by
  cases outcome with
  | continued =>
    obtain ⟨lifecycle, child, rfl, running, sound⟩ := leaves
    exact ⟨lifecycle, child, rfl, running, sound.wellFormed, sound.situated⟩
  | committed | shutdown =>
    obtain ⟨lifecycle, child, rfl, sound⟩ := leaves
    exact ⟨lifecycle, child, rfl, sound.wellFormed, sound.situated⟩
  | childWait status =>
    obtain ⟨lifecycle, child, rfl, exited, sound⟩ := leaves
    exact ⟨lifecycle, child, rfl, exited, sound.wellFormed, sound.situated⟩

/-- An attempt that took the gate gives it back before the monitor goes on, so that the watch
continues without it. -/
theorem safe_attemptExpiredIdleStop {anchor : Instant} {state : RunningMonitorState}
    {post : RunningMonitorState × RunningMonitorOutcome → Stance → Prop}
    (watching : Watching false stance) (inspected : RconConfigured config state)
    (left : ∀ state outcome later, RconConfigured config state → MonitorLeaves false outcome later →
      post (state, outcome) later) :
    Safe (conduct rcon) (attemptExpiredIdleStop config state anchor) post stance := by
  simp only [attemptExpiredIdleStop, Program.bind_eq, safe_bind]
  refine safe_acquireIdleExclusive watching rfl ?_
    (fun _ _ same => left _ .continued _ (inspected.of_same same))
    (fun _ _ same => left _ .shutdown _ (inspected.of_same same))
    (fun _ status _ same => left _ (.childWait status) _ (inspected.of_same same))
  intro state later same watching
  simp only [safe_bind]
  refine safe_attemptUnderExclusive watching (inspected.of_same same)
    fun state outcome later inspected leaves => ?_
  exact safe_access trivial fun _ _ => left _ _ _ inspected leaves.released

/-- Polling the players over RCON keeps the server watched, and configured exactly where it was.
None of the waits of a poll has a branch for the child or the shutdown. -/
theorem safe_pollPlayerPresence {inspection : PlayerInspection}
    {post : PlayerInspection → Stance → Prop} (watching : Watching held stance)
    (configured : inspection ≠ .proxyOnly → config.rcon = true)
    (polled : ∀ inspection later, (inspection ≠ .proxyOnly → config.rcon = true) →
      Watching held later → post inspection later) :
    Safe (conduct rcon) (pollPlayerPresence config inspection) post stance := by
  unfold pollPlayerPresence
  split
  · exact polled _ _ configured watching
  · simp only [Program.bind_eq, safe_bind]
    refine safe_assert (configured (by simp)) ?_
    refine safe_now fun now => safe_select_watching watching ?_ ⟨.rconConnect, by simp, rfl⟩ ?_
    · simp [Source.watches]
    · intro event source listed offered later seen
      have watching : Watching held later := by
        simp only [List.mem_cons, List.not_mem_nil, or_false] at listed
        rcases listed with rfl | rfl <;> cases event <;> first | exact seen | cases offered
      split <;> simp only [safe_bind] <;> exact safe_now fun now => polled _ _ (fun _ => configured (by simp)) watching
  · simp only [Program.bind_eq, safe_bind]
    refine safe_assert (configured (by simp)) ?_
    refine safe_now fun now => safe_select_watching watching ?_ ⟨.rconList, by simp, rfl⟩ ?_
    · simp [Source.watches]
    · intro event source listed offered later seen
      have watching : Watching held later := by
        simp only [List.mem_cons, List.not_mem_nil, or_false] at listed
        rcases listed with rfl | rfl <;> cases event <;> first | exact seen | cases offered
      split
      · split
        · split
          · simp only [Program.pure_eq, Program.done_bind, safe_bind]
            exact safe_now fun _ => safe_now fun now => polled _ _ (fun _ => configured (by simp)) watching
          · simp only [safe_bind]
            exact safe_now fun started => safe_now fun _ => safe_now fun now =>
              polled _ _ (fun _ => configured (by simp)) watching
        · simp only [safe_bind]
          exact safe_now fun now => polled _ _ (fun _ => configured (by simp)) watching
      · simp only [safe_bind]
        exact safe_now fun now => polled _ _ (fun _ => configured (by simp)) watching

/-- The branches of the monitor's own `select!`: the four that are always there, and timers. Later
proofs use this instead of the list, whose timers depend on the state. -/
theorem mem_awaitRunningMonitor {state : RunningMonitorState} {anchor : Option Instant}
    {source : Source}
    (listed : source ∈ [Source.shutdown, .wake, .child] ++ state.stability ++ [.activity] ++
      state.playerPoll ++ (match anchor with
        | some anchor => [Source.sleepUntil .idleDeadline (anchor + config.idleTimeout)]
        | none => [])) :
    source ∈ [Source.shutdown, .wake, .child, .activity] ∨
      ∃ timer deadline, source = .sleepUntil timer deadline := by
  rcases List.mem_append.mp listed with front | idle
  · rcases List.mem_append.mp front with fixed | poll
    · rcases mem_branches fixed with named | ⟨deadline, rfl⟩
      · exact .inl named
      · exact .inr ⟨_, _, rfl⟩
    · obtain ⟨deadline, rfl⟩ := playerPoll_watches poll
      exact .inr ⟨_, _, rfl⟩
  · cases anchor with
    | none => exact nomatch idle
    | some anchor => exact .inr ⟨_, _, List.mem_singleton.mp idle⟩

/-- The monitor's own wait refuses the wakes it receives and passes on what ends the watch. -/
theorem safe_awaitRunningMonitor {state : RunningMonitorState} {anchor : Option Instant}
    {post : RunningMonitorState × RunningMonitorOutcome → Stance → Prop}
    (watching : Watching false stance) (inspected : RconConfigured config state)
    (left : ∀ state outcome later, RconConfigured config state → MonitorLeaves false outcome later →
      post (state, outcome) later) :
    Safe (conduct rcon) (awaitRunningMonitor config state anchor) post stance := by
  simp only [awaitRunningMonitor, Program.bind_eq, safe_bind]
  refine safe_select_watching watching (fun source listed => ?_) ⟨.child, by simp, rfl⟩ ?_
  · rcases mem_awaitRunningMonitor listed with named | ⟨timer, deadline, rfl⟩
    · exact List.all_eq_true.mp rfl source named
    · rfl
  · intro event source listed offered later seen
    cases event with
    | shutdown => exact left _ .shutdown _ inspected seen
    | wake request =>
      cases request with
      | none => exact left _ .shutdown _ inspected seen
      | some request =>
        simp only [safe_bind]
        exact safe_refuse seen fun later watching => left _ .continued _ inspected watching
    | child status => exact left _ (.childWait status) _ inspected seen
    | elapsed timer =>
      cases timer with
      | stability =>
        simp only [safe_bind]
        exact safe_completeStabilityWindow seen
          (fun status later => left _ (.childWait status) later inspected)
          fun later watching => left _ .continued _ inspected watching
      | playerPoll =>
        simp only [safe_bind]
        exact safe_pollPlayerPresence seen inspected fun inspection later configured watching =>
          left _ .continued _ configured watching
      | _ => exact left _ .continued _ inspected seen
    | activity => exact left _ .continued _ inspected seen
    | _ =>
      rcases mem_awaitRunningMonitor listed with named | ⟨timer, deadline, rfl⟩
      · simp only [List.mem_cons, List.not_mem_nil, or_false] at named
        rcases named with rfl | rfl | rfl | rfl <;> cases offered
      · cases offered

/-- One turn of the monitor leaves as its outcome says: an idle period that has expired is tried,
and otherwise the monitor waits for one event. -/
theorem safe_advanceRunningMonitor {state : RunningMonitorState}
    {post : RunningMonitorState × RunningMonitorOutcome → Stance → Prop}
    (watching : Watching false stance) (inspected : RconConfigured config state)
    (left : ∀ state outcome later, RconConfigured config state → MonitorLeaves false outcome later →
      post (state, outcome) later) :
    Safe (conduct rcon) (advanceRunningMonitor config state) post stance := by
  simp only [advanceRunningMonitor, Program.bind_eq, safe_bind]
  refine safe_activitySnapshot fun activity => ?_
  split
  · simp only [safe_bind]
    refine safe_now fun now => ?_
    split
    · exact safe_attemptExpiredIdleStop watching inspected left
    · exact safe_awaitRunningMonitor watching inspected left
  · exact safe_awaitRunningMonitor watching inspected left

/-- The monitor hands each way out to the cleanup that belongs to it. The loop keeps that the
child is watched and that RCON is inspected only where it is configured. -/
theorem safe_monitorRunningServer {inspection : PlayerInspection} {cycle : BackendCycle}
    {lifecycle : LifecycleState} {child : ChildState}
    (watching : Watching false (.calm .owned lifecycle child))
    (configured : inspection ≠ .proxyOnly → config.rcon = true)
    (current : cycle = ⟨lifecycle.launchGeneration⟩) :
    Safe (conduct rcon) (monitorRunningServer config inspection cycle) CycleLeaves
      (.calm .owned lifecycle child) := by
  obtain ⟨_, _, same, running, sound⟩ := id watching
  obtain ⟨-, rfl, rfl, -⟩ := Stance.mk.inj same
  simp only [monitorRunningServer, RunningMonitorState.new, Program.bind_eq, safe_bind]
  refine safe_currentLifecycle (safe_assert ?_ ?_)
  · simp [LifecycleState.ownedRunningCycle, running, current]
  · refine safe_loop (fun state stance => RconConfigured config state ∧ Watching false stance)
      ⟨configured, watching⟩ ?_
    rintro state stance ⟨inspected, watching⟩
    simp only [safe_bind]
    refine safe_advanceRunningMonitor watching inspected fun state outcome later inspected leaves => ?_
    cases outcome with
    | continued => exact ⟨inspected, leaves⟩
    | committed =>
      obtain ⟨lifecycle, child, rfl, sound⟩ := leaves
      simp only [safe_bind]
      exact safe_stopCommittedIdleServer sound
    | shutdown =>
      obtain ⟨lifecycle, child, rfl, sound⟩ := leaves
      simp only [safe_bind]
      exact safe_stopForShutdown sound
    | childWait status =>
      obtain ⟨lifecycle, child, rfl, exited, sound⟩ := leaves
      simp only [safe_bind]
      exact safe_processWaitOutcome sound exited

end Monitoring

end McServerNap
