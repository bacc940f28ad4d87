import McServerNap.Conformance.Monitoring

/-!
# The supervisor follows its conduct

The specifications of the reconciliations, of the readiness wait and of the loop
of `run`, up to the safety of `run` from a freshly published state. A probe's
classification enters the conduct here, so the conduct is the one of the
supervisor's own configuration.
-/

namespace McServerNap

open Interaction SupervisorControl

variable {rcon : Bool}

section Reconciliation

variable {config : SupervisorConfig} {lifecycle : LifecycleState} {child : ChildState}

/-- The wait for a probe is used in three stages. `stageOf` is the stage by the
latched startup demand. -/
theorem safe_waitForReconciliation {latch : Bool} (stageOf : Bool → Stage)
    {post : ReconciliationWaitOutcome → Stance → Prop}
    (suspends : ∀ latched, (stageOf latched).suspends = true ∧ (stageOf latched).opened = stageOf latched)
    (allows : ∀ latched, ∀ source ∈ [Source.shutdown, .probe, .wake],
      Stance.allows (.calm (stageOf latched) lifecycle child) source = true)
    (accepts : ∀ latched request, (stageOf latched).accepts lifecycle request =
      (latch && !latched && request.observed = lifecycle))
    (latches : ∀ latched, latch = true → (stageOf latched).latch = stageOf true)
    (sound : (Stance.calm (stageOf false) lifecycle child).Sound)
    (completed : ∀ latched result,
      (Stance.calm ((stageOf latched).probed result.classification) lifecycle child).Sound →
      post (.completed result latched)
        (.calm ((stageOf latched).probed result.classification) lifecycle child))
    (shutdown : ∀ latched, (Stance.ended (stageOf latched) lifecycle child).Sound →
      post .shutdown (.ended (stageOf latched) lifecycle child)) :
    Safe (conduct config.rcon) (waitForReconciliation config latch) post
      (.calm (stageOf false) lifecycle child) := by
  refine safe_loop (fun latched stance => stance = .calm (stageOf latched) lifecycle child ∧
    stance.Sound) ⟨rfl, sound⟩ ?_
  rintro latched _ ⟨rfl, sound⟩
  simp only [Program.bind_eq, safe_bind]
  refine safe_wakesClosed (shutdown latched) fun _ => ?_
  simp only [Bool.false_eq_true, if_false, safe_bind, (suspends latched).2]
  refine safe_select ⟨rfl, (suspends latched).1, .inl ⟨.probe, by simp, rfl⟩, allows latched,
      .inr rfl⟩
    (fun ended _ => shutdown latched ended) (fun ended _ => shutdown latched ended) ?_ ?_
  · intro _ request
    simp only [safe_bind]
    refine safe_currentLifecycle (safe_answer (accepts latched request).symm fun answered => ?_)
    cases accepted : (latch && !latched && decide (request.observed = lifecycle)) with
    | true =>
      simp only [accepted, if_true, Bool.or_true] at answered ⊢
      have latching : latch = true := by
        revert accepted
        cases latch <;> simp
      rw [latches latched latching] at answered ⊢
      exact ⟨rfl, answered⟩
    | false =>
      simp only [Bool.or_false, Bool.false_eq_true, if_false]
      exact ⟨rfl, sound⟩
  · rintro event ⟨source, listed, internal, offered⟩ answered
    obtain rfl : source = .probe := by
      simp only [List.mem_cons, List.not_mem_nil, or_false] at listed
      rcases listed with rfl | rfl | rfl <;> first | rfl | cases internal
    cases event <;> try cases offered
    exact completed latched _ answered

/-- The supervisor may return without an error. -/
def Finished (stance : Stance) : Prop :=
  stance.offer = none ∧ stance.ending = true ∧ stance.child ≠ .live

/-- At a stage that owns no server no child is alive, so the supervisor may end there. -/
theorem Stance.Sound.unowned {stance : Stance} (sound : stance.Sound)
    (unowned : match stance.stage with
      | .launched | .owned | .stopping _ _ => False
      | _ => True) : stance.child ≠ .live := by
  have situation := sound.situated
  obtain ⟨stage, lifecycle, child, held, offer, ending⟩ := stance
  cases stage <;> simp_all [Stance.situated]

/-- The reconciliation at startup leads to a demand, to a parked supervisor or to its end, each in
a sound stance. -/
theorem safe_reconcileStartup {post : StartupReconciliationOutcome → Stance → Prop}
    (sound : (Stance.calm (.startup false) lifecycle child).Sound)
    (launch : ∀ next, (Stance.calm .demanded next child).Sound →
      post .launch (.calm .demanded next child))
    (idle : ∀ next, (Stance.calm .parked next child).Sound →
      post .idle (.calm .parked next child))
    (shutdown : ∀ stance, Finished stance → post .shutdown stance) :
    Safe (conduct config.rcon) (reconcileStartup config) post
      (.calm (.startup false) lifecycle child) := by
  have reconciling : lifecycle.phase = .reconciling := sound.situated.1
  simp only [reconcileStartup, Program.bind_eq, safe_bind]
  refine safe_waitForReconciliation .startup (fun _ => ⟨rfl, rfl⟩) (fun _ => List.all_eq_true.mp rfl)
    (fun _ _ => rfl) (fun _ _ => rfl) sound (fun latched result sound => ?_)
    fun latched sound => shutdown _ ⟨rfl, rfl, sound.unowned trivial⟩
  simp only [safe_bind]
  refine safe_shutdownPending_steady ⟨rfl, rfl⟩
    (fun sound => shutdown _ ⟨rfl, rfl, sound.unowned trivial⟩) ?_
  simp only [Bool.false_eq_true, if_false]
  cases classification : result.classification with
  | clean =>
    simp only [publishStoppedAfterCleanReconciliation, Program.bind_eq, safe_bind]
    refine safe_advance (if latched then .demanded else .parked) rfl
      (by simpa [Transition.admits] using reconciling) (fun _ => rfl) fun now next _ sound => ?_
    cases latched with
    | true => exact launch next sound
    | false => exact idle next sound
  | fullyReady =>
    simp only [publishExternalBackend, publishExternal, Program.bind_eq, safe_bind]
    refine safe_advance .parked ?_ ?_ (fun _ => rfl) fun now next _ => idle next
    · simp [Stance.legal, Stage.probed]
    · simpa [Transition.admits] using .inl reconciling
  | positive | inconclusive =>
    simp only [publishConflictObservation, publishConflict, Program.bind_eq, safe_bind]
    refine safe_advance .parked ?_ ?_ (fun _ => rfl) fun now next _ => idle next
    · simp [Stance.legal, Stage.probed]
    · simpa [Transition.admits] using .inl reconciling

/-- A gate's decision to launch is taken on a clean probe without remembered
positive evidence, with both shutdown checks behind it. -/
theorem safe_reconcileFinalGate {stage : Stage} {post : FinalGateOutcome → Stance → Prop}
    (sound : (Stance.calm stage lifecycle child).Sound)
    (demand : stage = .demanded ∨ stage = .cooling true)
    (launch : ∀ next, next.reconciliationEvidence ≠ .positive →
      (Stance.calm (.gateCleared .clean) next child).Sound →
      post .launch (.calm (.gateCleared .clean) next child))
    (blocked : ∀ next, (Stance.calm .parked next child).Sound →
      post .blocked (.calm .parked next child))
    (shutdown : ∀ stance, Finished stance → post .shutdown stance) :
    Safe (conduct config.rcon) (reconcileFinalGate config) post
      (.calm stage lifecycle child) := by
  have admitted : Transition.beginReconciliation.admits lifecycle = true := by
    have situation := sound.situated
    rcases demand with rfl | rfl
    · rcases situation.1 with stopped | conflict <;> simp_all [Transition.admits]
    · simp_all [Stance.situated, Transition.admits]
  simp only [reconcileFinalGate, beginReconciliation, Program.bind_eq, safe_bind]
  refine safe_advance .gate ?_ admitted (fun _ => rfl) fun now prior _ sound => ?_
  · rcases demand with rfl | rfl <;> rfl
  have reconciling : prior.phase = .reconciling := sound.situated.1
  refine safe_waitForReconciliation (fun _ => .gate) (fun _ => ⟨rfl, rfl⟩) (fun _ => List.all_eq_true.mp rfl)
    (fun _ _ => by simp [Stage.accepts]) (by simp) sound (fun latched result sound => ?_)
    fun latched sound => shutdown _ ⟨rfl, rfl, sound.unowned trivial⟩
  simp only [safe_bind]
  refine safe_shutdownPending (fun current same sound => ?_) fun cleared => ?_
  · refine shutdown _ ⟨rfl, rfl, sound.unowned ?_⟩
    rcases same with rfl | rfl <;> trivial
  simp only [Bool.false_eq_true, if_false]
  split
  · rename_i positive
    split
    · rename_i ready
      simp only [publishExternalBackend, publishExternal, Program.bind_eq, safe_bind]
      refine safe_advance .parked ?_ ?_ (fun _ => rfl) fun now next _ => blocked next
      · simp [Stance.legal, Stage.probed, Stage.opened, Stage.cleared, ready]
      · simpa [Transition.admits] using .inl reconciling
    · rename_i unready
      simp only [publishConflictObservation, publishConflict, Program.bind_eq, safe_bind]
      refine safe_advance .parked ?_ ?_ (fun _ => rfl) fun now next _ => blocked next
      · simp [Stance.legal, Stage.probed, Stage.opened, Stage.cleared, positive, unready]
      · simpa [Transition.admits] using .inl reconciling
  · rename_i unknown
    cases classification : result.classification with
    | clean =>
      rw [classification] at cleared
      exact launch prior unknown cleared
    | fullyReady =>
      simp only [publishExternalBackend, publishExternal, Program.bind_eq, safe_bind]
      refine safe_advance .parked ?_ ?_ (fun _ => rfl) fun now next _ => blocked next
      · simp [Stance.legal, Stage.probed, Stage.opened, Stage.cleared]
      · simpa [Transition.admits] using .inl reconciling
    | positive | inconclusive =>
      simp only [publishConflictObservation, publishConflict, Program.bind_eq, safe_bind]
      refine safe_advance .parked ?_ ?_ (fun _ => rfl) fun now next _ => blocked next
      · simp [Stance.legal, Stage.probed, Stage.opened, Stage.cleared, unknown]
      · simpa [Transition.admits] using .inl reconciling

/-- While an external backend is used no request is accepted, and only a probe
that is not fully ready ends the use. -/
theorem safe_monitorExternalServer {post : ExternalMonitorOutcome → Stance → Prop}
    (sound : (Stance.calm .parked lifecycle child).Sound)
    (external : lifecycle.phase = .external)
    (conflict : ∀ next, (Stance.calm .parked next child).Sound →
      post .conflict (.calm .parked next child))
    (shutdown : ∀ stance, Finished stance → post .shutdown stance) :
    Safe (conduct config.rcon) (monitorExternalServer config) post
      (.calm .parked lifecycle child) := by
  have refused : ∀ request, Stage.parked.accepts lifecycle request = false := by
    simp [Stage.accepts, WakeRequest.canStart, WakeRequest.requestsConflictReconciliation,
      external]
  have ended : ∀ {result}, result = .shutdown →
      (Stance.ended .parked lifecycle child).Sound → post result (.ended .parked lifecycle child) :=
    fun same sound => same ▸ shutdown _ ⟨rfl, rfl, sound.unowned trivial⟩
  simp only [monitorExternalServer, Program.bind_eq, safe_bind]
  refine safe_now fun now => safe_loop (fun _ stance =>
    stance = .calm .parked lifecycle child) rfl ?_
  rintro nextPoll _ rfl
  simp only [safe_bind]
  refine safe_wakesClosed (ended rfl) fun _ => ?_
  simp only [Bool.false_eq_true, if_false, safe_bind]
  refine safe_select ⟨rfl, rfl, .inr ⟨rfl, by simp⟩, fun source listed => ?_, .inr rfl⟩
    (fun sound _ => ended rfl sound) (fun sound _ => ended rfl sound) (fun _ request => ?_) ?_
  · simp only [List.mem_cons, List.not_mem_nil, or_false] at listed
    rcases listed with rfl | rfl | rfl <;>
      simp [Stance.allows, Stage.opened, Stage.suspends, external]
  · simp only [safe_bind]
    exact safe_answer_refused (refused request) rfl
  · rintro event ⟨source, listed, internal, offered⟩ _
    obtain rfl : source = .sleepUntil .externalPoll nextPoll := by
      simp only [List.mem_cons, List.not_mem_nil, or_false] at listed
      rcases listed with rfl | rfl | rfl <;> first | rfl | cases internal
    cases event <;> try cases offered
    simp only [safe_bind]
    refine safe_waitForReconciliation (fun _ => .parked) (fun _ => ⟨rfl, rfl⟩) ?_
      (fun _ request => by simp [refused]) (by simp) sound (fun latched result sound => ?_)
      fun latched sound => ended rfl sound
    · intro _ source listed
      simp only [List.mem_cons, List.not_mem_nil, or_false] at listed
      rcases listed with rfl | rfl | rfl <;> simp [Stance.allows, Stage.suspends, external]
    · simp only [safe_bind]
      refine safe_shutdownPending_steady ⟨rfl, rfl⟩ (ended rfl) ?_
      simp only [Bool.false_eq_true, if_false]
      split
      · simp only [safe_bind]
        exact safe_now fun _ => rfl
      · simp only [publishConflictObservation, publishConflict, Program.bind_eq, safe_bind]
        refine safe_advance .parked ?_ ?_ (fun _ => rfl) fun now next _ => conflict next
        · simp [Stance.legal, Stage.probed, external]
        · simp [Transition.admits, external]

end Reconciliation

section Cycle

variable {config : SupervisorConfig} {lifecycle : LifecycleState} {child : ChildState}

/-- Before readiness a request is refused, and both awaits watch the child. The four outcomes are
the four hypotheses, so that the loop around it can say what each leads to. -/
theorem safe_awaitReadinessRetry {retryAt : Instant}
    {post : Turn Unit ReadinessOutcome → Stance → Prop}
    (again : post (.again ()) (.calm .owned lifecycle child))
    (exited : (Stance.calm .owned lifecycle .reaped).Sound →
      post (.leave .exited) (.calm .owned lifecycle .reaped))
    (processWaitFailed : post (.leave .processWaitFailed) (.calm .owned lifecycle child))
    (shutdown : (Stance.ended .owned lifecycle child).Sound →
      post (.leave .shutdown) (.ended .owned lifecycle child)) :
    Safe (conduct rcon) (awaitReadinessRetry retryAt) post (.calm .owned lifecycle child) := by
  simp only [awaitReadinessRetry, Program.bind_eq, safe_bind]
  refine safe_select ⟨rfl, rfl, .inl ⟨.child, by simp, rfl⟩, fun source listed => ?_, .inl rfl⟩
    (fun sound _ => shutdown sound) (fun sound _ => shutdown sound) (fun _ request => ?_) ?_
  · simp only [List.mem_cons, List.not_mem_nil, or_false] at listed
    rcases listed with rfl | rfl | rfl | rfl <;> rfl
  · simp only [safe_bind]
    exact safe_answer_refused rfl again
  · rintro event ⟨source, listed, internal, offered⟩ sound
    simp only [List.mem_cons, List.not_mem_nil, or_false] at listed
    rcases listed with rfl | rfl | rfl | rfl
    · cases internal
    · cases internal
    · cases event <;> try cases offered
      rename_i result
      cases result with
      | exited => exact exited sound
      | failed => exact processWaitFailed
    · cases event <;> try cases offered
      exact again

/-- A starting server becomes ready, is left as it is, or was seen to exit. The child is queried
at the deadline, so that a timeout is reported of a living child only. -/
theorem safe_waitForReadiness {post : ReadinessOutcome → Stance → Prop}
    (starting : lifecycle.phase = .starting)
    (ready : post .ready (.calm .owned lifecycle child))
    (startupTimedOut : post .startupTimedOut (.calm .owned lifecycle child))
    (exited : (Stance.calm .owned lifecycle .reaped).Sound →
      post .exited (.calm .owned lifecycle .reaped))
    (processWaitFailed : post .processWaitFailed (.calm .owned lifecycle child))
    (shutdown : (Stance.ended .owned lifecycle child).Sound →
      post .shutdown (.ended .owned lifecycle child)) :
    Safe (conduct rcon) (waitForReadiness config) post (.calm .owned lifecycle child) := by
  simp only [waitForReadiness, Program.bind_eq, safe_bind]
  refine safe_now fun now => safe_loop (fun _ stance =>
    stance = .calm .owned lifecycle child) rfl ?_
  rintro _ _ rfl
  simp only [safe_bind]
  refine safe_now fun now => ?_
  split
  · simp only [safe_bind]
    refine safe_tryWait exited fun result other => ?_
    cases result with
    | exited => exact absurd rfl other
    | running => exact startupTimedOut
    | failed => exact processWaitFailed
  · simp only [safe_bind]
    refine safe_now fun _ => safe_now fun _ => safe_select ⟨rfl, rfl,
      .inl ⟨.child, by simp, rfl⟩, fun source listed => ?_, .inl rfl⟩
      (fun sound _ => shutdown sound) (fun sound _ => shutdown sound) (fun _ request => ?_) ?_
    · simp only [List.mem_cons, List.not_mem_nil, or_false] at listed
      rcases listed with rfl | rfl | rfl | rfl | rfl <;>
        simp [Stance.allows, Stage.suspends, starting]
    · simp only [safe_bind]
      exact safe_answer_refused rfl rfl
    · rintro event ⟨source, listed, internal, offered⟩ sound
      simp only [List.mem_cons, List.not_mem_nil, or_false] at listed
      rcases listed with rfl | rfl | rfl | rfl | rfl
      · cases internal
      · cases internal
      · cases event <;> try cases offered
        rename_i result
        cases result with
        | exited => exact exited sound
        | failed => exact processWaitFailed
      · cases event <;> try cases offered
        rename_i ok
        cases ok with
        | true => exact ready
        | false =>
          simp only [safe_bind]
          exact safe_now fun _ => safe_awaitReadinessRetry rfl exited processWaitFailed shutdown
      · cases event <;> try cases offered
        simp only [safe_bind]
        exact safe_now fun _ => safe_awaitReadinessRetry rfl exited processWaitFailed shutdown

/-- The activity record is installed while the phase is still Starting, so that no client can find
the running phase without the record of its cycle. -/
theorem safe_publishRunning {post : BackendCycle → Stance → Prop}
    (starting : lifecycle.phase = .starting)
    (sound : (Stance.calm .owned lifecycle child).Sound)
    (running : ∀ next, next.phase = .running → (Stance.calm .owned next child).Sound →
      post ⟨next.launchGeneration⟩ (.calm .owned next child)) :
    Safe (conduct rcon) publishRunning post (.calm .owned lifecycle child) := by
  have admitted : Transition.publishRunning.admits lifecycle = true := by
    simpa [Transition.admits, starting] using sound.owned_evidence.2
  simp only [publishRunning, Program.bind_eq, safe_bind]
  refine safe_currentLifecycle (safe_assert admitted (safe_now fun now => ?_))
  refine safe_access ⟨rfl, starting, rfl⟩ fun _ _ => ?_
  exact safe_publish .owned ⟨rfl, rfl, admitted, now, rfl⟩ rfl fun sound => running _ rfl sound

/-- A cycle goes from a starting server to one of the ends that `CycleLeaves` lists. It is
assembled from the specifications of its parts. -/
theorem safe_runServerCycle (starting : lifecycle.phase = .starting)
    (sound : (Stance.calm .owned lifecycle child).Sound) :
    Safe (conduct rcon) (runServerCycle config) CycleLeaves (.calm .owned lifecycle child) := by
  simp only [runServerCycle, Program.bind_eq, safe_bind]
  refine safe_waitForReadiness starting ?_ (safe_stopFailedServer sound starting) ?_
    (safe_reapAfterWaitError sound) fun sound => safe_stopForShutdown sound
  · simp only [safe_bind]
    refine safe_shutdownPending_steady ⟨rfl, rfl⟩ (fun sound => safe_stopForShutdown sound) ?_
    simp only [Bool.false_eq_true, if_false, safe_bind]
    refine safe_publishRunning starting sound fun next running sound => ?_
    have monitored : ∀ inspection : PlayerInspection,
        (inspection ≠ .proxyOnly → config.rcon = true) → Safe (conduct rcon)
          (monitorRunningServer config inspection ⟨next.launchGeneration⟩) CycleLeaves
          (.calm .owned next child) :=
      fun inspection configured =>
        safe_monitorRunningServer (.running sound running) configured rfl
    unfold PlayerInspection.fromConfig
    split
    · rename_i configured
      simp only [Program.bind_eq, safe_bind]
      exact safe_now fun now => monitored _ fun _ => configured
    · exact monitored _ fun other => absurd rfl other
  · intro sound
    simp only [safe_bind]
    exact safe_reapedFailure sound fun _ next => ⟨next, _, rfl⟩

end Cycle

section Run

variable {config : SupervisorConfig} {lifecycle : LifecycleState} {child : ChildState}

/-- Between two turns of `run`'s loop a pending launch is a demand that was
accepted and not yet decided. -/
def Pending (launchPending : Bool) (stance : Stance) : Prop :=
  stance.Sound ∧ if launchPending then
    ∃ stage lifecycle child, stance = .calm stage lifecycle child ∧
      (stage = .demanded ∨ stage = .cooling true)
  else ∃ lifecycle child, stance = .calm .parked lifecycle child

/-- What may be done at the end of a run. -/
def Exits (result : Except SupervisorError Unit) (stance : Stance) : Prop :=
  stance.offer = none ∧ (result = .ok () → stance.ending = true ∧ stance.child ≠ .live)

/-- A turn leads to the next one or to the end of the run. -/
def TurnLeaves (decision : Turn Bool (Except SupervisorError Unit)) (stance : Stance) : Prop :=
  decision.elim (fun launchPending => Pending launchPending stance)
    (fun result => Exits result stance)

/-- A supervisor that has finished may return without an error. -/
theorem Finished.exits {stance : Stance} (finished : Finished stance) : Exits (.ok ()) stance :=
  ⟨finished.1, fun _ => finished.2⟩

/-- An accepted demand makes the launch of the next turn pending. -/
theorem Pending.demanded (sound : (Stance.calm .demanded lifecycle child).Sound) :
    Pending true (.calm .demanded lifecycle child) :=
  ⟨sound, _, _, _, rfl, .inl rfl⟩

/-- So does one that was latched during a cooldown. -/
theorem Pending.cooling (sound : (Stance.calm (.cooling true) lifecycle child).Sound) :
    Pending true (.calm (.cooling true) lifecycle child) :=
  ⟨sound, _, _, _, rfl, .inr rfl⟩

/-- A parked supervisor has no launch pending. -/
theorem Pending.parked (sound : (Stance.calm .parked lifecycle child).Sound) :
    Pending false (.calm .parked lifecycle child) :=
  ⟨sound, _, _, rfl⟩

/-- After a cooldown the supervisor is parked, or takes up the demand that it latched
meanwhile. -/
theorem safe_afterCooldown {retryAt : Instant} {retryPending : Bool}
    (sound : (Stance.calm (.cooling retryPending) lifecycle child).Sound) :
    Safe (conduct rcon) (afterCooldown retryAt retryPending) TurnLeaves
      (.calm (.cooling retryPending) lifecycle child) := by
  obtain ⟨failed, deadline⟩ := sound.wellFormed.cooldown sound.situated.1
  have retained : lifecycle.retryAt.isSome = true := deadline ▸ rfl
  simp only [afterCooldown, logCurrentFailureCooldown, Program.bind_eq, safe_bind]
  refine safe_currentLifecycle (safe_assert failed (safe_assert retained ?_))
  exact safe_waitForCooldown sound .cooling (fun _ => .parked)
    fun next sound => ⟨rfl, fun _ => ⟨rfl, sound.unowned trivial⟩⟩

/-- A launch follows a clean gate. One that fails leads to the cooldown of its failure, and one
that succeeds to a cycle and to what that leaves. -/
theorem safe_launchServer (clean : lifecycle.reconciliationEvidence ≠ .positive)
    (sound : (Stance.calm (.gateCleared .clean) lifecycle child).Sound) :
    Safe (conduct rcon) (launchServer config) TurnLeaves
      (.calm (.gateCleared .clean) lifecycle child) := by
  have reconciling : lifecycle.phase = .reconciling := sound.situated.1
  simp only [launchServer, Program.bind_eq, safe_bind]
  refine safe_access ⟨rfl, rfl, clean, rfl⟩ fun success answered => ?_
  cases success with
  | false =>
    simp only [Bool.false_eq_true, if_false, recordLaunchFailure, Program.bind_eq, safe_bind]
    refine safe_advance (.cooling false) rfl ?_ (fun _ => rfl) fun now next _ sound =>
      safe_afterCooldown sound
    simp [Transition.admits, reconciling, clean, saturatingSucc_pos]
  | true =>
    simp only [if_true, recordLaunchSuccess, Program.bind_eq, safe_bind]
    refine safe_advance .owned rfl (by simp [Transition.admits, reconciling, clean])
      (fun _ => rfl) fun now next built sound => ?_
    have starting : next.phase = .starting := by simp [built, Transition.target]
    refine (safe_sound (safe_runServerCycle starting sound) sound).mono fun result stance leaves => ?_
    obtain ⟨sound, leaves⟩ := leaves
    have stops : ∀ {cause latched ending} {lifecycle : LifecycleState},
        Stance.Sound ⟨.stopping cause latched, lifecycle, .reaped, false, none, ending⟩ →
        (Transition.setPhase .stopped).admits lifecycle = true := fun sound =>
      sound.admits_setPhase .stopped (.inl rfl) (by simp [sound.phase_stopping])
    cases result with
    | error error => exact ⟨leaves, by simp⟩
    | ok outcome =>
      cases outcome with
      | stopped =>
        obtain ⟨lifecycle, rfl⟩ := leaves
        simp only [safe_bind]
        exact safe_setPhase .stopped .parked rfl (stops sound) (fun _ => rfl)
          fun next sound => .parked sound
      | restart =>
        obtain ⟨lifecycle, rfl⟩ := leaves
        simp only [safe_bind]
        exact safe_setPhase .stopped .demanded rfl (stops sound) (fun _ => rfl)
          fun next sound => .demanded sound
      | failed retryAt retryPending =>
        obtain ⟨lifecycle, child, rfl⟩ := leaves
        exact safe_afterCooldown sound
      | shutdown =>
        obtain ⟨cause, latched, lifecycle, rfl⟩ := leaves
        simp only [safe_bind]
        refine safe_setPhase .stopped .closing ?_ (stops sound) (fun _ => ?_)
          fun next sound => ⟨rfl, fun _ => ⟨rfl, by simp⟩⟩
        · cases cause <;> rfl
        · cases cause <;> rfl

/-- A demand is served by a reconciliation, whose clean end clears the gate for the launch. -/
theorem safe_serveDemand {stage : Stage} (demand : stage = .demanded ∨ stage = .cooling true)
    (sound : (Stance.calm stage lifecycle child).Sound) :
    Safe (conduct config.rcon) (serveDemand config) TurnLeaves
      (.calm stage lifecycle child) := by
  have steady : stage.opened = stage ∧ stage.cleared = stage := by
    rcases demand with rfl | rfl <;> exact ⟨rfl, rfl⟩
  simp only [serveDemand, Program.bind_eq, safe_bind]
  refine safe_shutdownPending_steady steady (fun sound => ?_) ?_
  · refine ⟨rfl, fun _ => ⟨rfl, sound.unowned ?_⟩⟩
    rcases demand with rfl | rfl <;> trivial
  · simp only [Bool.false_eq_true, if_false, safe_bind]
    exact safe_reconcileFinalGate sound demand (fun next clean sound => safe_launchServer clean sound)
      (fun next sound => .parked sound) fun stance finished => finished.exits

/-- A turn serves the pending launch, or waits for a demand, polls an external server or
reconciles. -/
theorem safe_serveNext {launchPending : Bool} {stance : Stance}
    (pending : Pending launchPending stance) :
    Safe (conduct config.rcon) (serveNext config launchPending) TurnLeaves stance := by
  obtain ⟨sound, situation⟩ := pending
  unfold serveNext
  cases launchPending with
  | true =>
    obtain ⟨stage, lifecycle, child, rfl, demand⟩ := situation
    exact safe_serveDemand demand sound
  | false =>
    obtain ⟨lifecycle, child, rfl⟩ := situation
    simp only [Bool.false_eq_true, if_false, Program.bind_eq, safe_bind]
    refine safe_waitForReconciliationDemand (fun sound => safe_serveDemand (.inl rfl) sound)
      fun sound => ?_
    simp only [Bool.false_eq_true, if_false, safe_bind]
    have unowned := sound.unowned trivial
    refine safe_currentLifecycle ?_
    split
    · rename_i stopped
      simp only [safe_bind]
      refine safe_setPhase .stopped .closing ?_ (sound.admits_setPhase .stopped (.inl rfl) ?_)
        (fun _ => rfl) fun next _ => ⟨rfl, fun _ => ⟨rfl, unowned⟩⟩
      · simp [Stance.legal, stopped]
      · simp [stopped]
    · exact ⟨rfl, fun _ => ⟨rfl, unowned⟩⟩

/-- A pending launch excludes an external backend, whose use ends before the next
demand is awaited. -/
theorem safe_superviseTurn {launchPending : Bool} {stance : Stance}
    (pending : Pending launchPending stance) :
    Safe (conduct config.rcon) (superviseTurn config launchPending) TurnLeaves stance := by
  obtain ⟨sound, situation⟩ := id pending
  simp only [superviseTurn, Program.bind_eq, safe_bind]
  cases launchPending with
  | true =>
    obtain ⟨stage, lifecycle, child, rfl, demand⟩ := situation
    have owned : lifecycle.phase ≠ .external := by
      have situation := sound.situated
      rcases demand with rfl | rfl
      · rcases situation.1 with stopped | conflict <;> simp_all
      · simp_all [Stance.situated]
    refine safe_currentLifecycle ?_
    simp only [if_neg owned]
    exact safe_serveNext pending
  | false =>
    obtain ⟨lifecycle, child, rfl⟩ := situation
    refine safe_currentLifecycle ?_
    split
    · rename_i external
      simp only [safe_bind]
      exact safe_monitorExternalServer sound external
        (fun next sound => safe_serveNext (.parked sound)) fun stance finished => finished.exits
    · exact safe_serveNext pending

/-- A run from a freshly published state follows the conduct. The supervisor is one loop whose
turns hand over what is pending, and each of its exits is permitted there. -/
theorem safe_run (sound : (Stance.initial lifecycle).Sound) :
    Safe (conduct config.rcon) (run config) (fun _ _ => True) (.initial lifecycle) := by
  have reconciling : lifecycle.phase = .reconciling := sound.situated.1
  have exits : ∀ {result : Except SupervisorError Unit} {stance : Stance}, Exits result stance →
      Safe (conduct config.rcon) (access (.exit result)) (fun _ _ => True) stance :=
    fun leaves => safe_access leaves fun _ _ => trivial
  have looped : ∀ {launchPending : Bool} {stance : Stance}, Pending launchPending stance →
      Safe (conduct config.rcon) (Program.loop (superviseTurn config) launchPending)
        (fun result stance => Safe (conduct config.rcon) (access (.exit result))
          (fun _ _ => True) stance) stance :=
    fun pending => safe_loop Pending pending fun _ _ pending =>
      (safe_superviseTurn pending).mono fun decision stance leaves =>
        match decision with
        | .again _ => leaves
        | .leave _ => exits leaves
  simp only [run, supervise, Program.bind_eq, safe_bind]
  refine safe_currentLifecycle (safe_assert (by simpa using reconciling)
    (safe_currentLifecycle (safe_assert sound.wellFormed.evidence ?_)))
  exact safe_reconcileStartup sound (fun next sound => looped (.demanded sound))
    (fun next sound => looped (.parked sound)) fun stance finished => exits finished.exits

end Run

end McServerNap
