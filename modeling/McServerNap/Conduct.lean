import McServerNap.Supervisor
import McServerNap.Interaction.Monitor

/-!
# The conduct of a supervisor

A stance says where a supervisor stands between two of its operations: which
stage of its work it is in, what it has published, what became of its child, and
whether it has learned of a shutdown. The stages and what may be done in each are
stated here on their own, without the supervisor's text. A program follows this
conduct when it is safe for the monitor `conduct`.

The stance is a function of the operations and their replies. Demand that was
accepted and is not yet decided is visible in it, as is everything a supervisor
must have checked before it may launch.
-/

namespace McServerNap

open Interaction

/-- Why the owned child is being stopped. A failed startup carries the delay
that its cooldown will last. -/
inductive StopCause where
  | quit
  | failed (retryDelay : Duration)
  | idle
  deriving DecidableEq, Repr

/-- Where a supervisor stands. A gate becomes open when the wake channel is known
to have senders, and cleared when no shutdown has been found either. -/
inductive Stage where
  | startup (latched : Bool)
  | startupProbed (latched : Bool) (classification : ReconciliationClassification)
  | parked
  | demanded
  | gate
  | gateProbed (classification : ReconciliationClassification)
  | gateOpen (classification : ReconciliationClassification)
  | gateCleared (classification : ReconciliationClassification)
  | launched
  | launchFailed
  | owned
  | stopping (cause : StopCause) (latched : Bool)
  | cooling (latched : Bool)
  | closing
  deriving DecidableEq, Repr

namespace Stage

/-- Whether a request received in this stage is accepted. -/
def accepts (stage : Stage) (current : LifecycleState) (request : WakeRequest) : Bool :=
  match stage with
  | startup latched => !latched && request.observed = current
  | parked => request.canStart current || request.requestsConflictReconciliation current
  | stopping (.failed _) _ => request.requestsRetry current
  | stopping .idle _ => request.requestsRestart current
  | cooling latched => request.requestsRetry current && !latched
  | _ => false

/-- The stage after a request has been accepted. -/
def latch : Stage → Stage
  | startup _ => startup true
  | parked => demanded
  | stopping cause _ => stopping cause true
  | cooling _ => cooling true
  | stage => stage

/-- An accepted demand waits here for its decision. -/
def demanding : Stage → Bool
  | startup latched | startupProbed latched _ | stopping _ latched | cooling latched => latched
  | demanded | gate | gateProbed _ | gateOpen _ | gateCleared _ => true
  | parked | launched | launchFailed | owned | closing => false

/-- The stages in which a supervisor may be suspended. -/
def suspends : Stage → Bool
  | startup _ | parked | gate | owned | stopping _ _ | cooling _ => true
  | _ => false

/-- The stage after a completed probe of this classification. -/
def probed (classification : ReconciliationClassification) : Stage → Stage
  | startup latched => startupProbed latched classification
  | gate => gateProbed classification
  | stage => stage

/-- The stage after the wake channel was found open. -/
def opened : Stage → Stage
  | gateProbed classification => gateOpen classification
  | stage => stage

/-- The stage after no shutdown was found. -/
def cleared : Stage → Stage
  | gateOpen classification => gateCleared classification
  | stage => stage

/-- The stage after a launch. -/
def attempted (success : Bool) : Stage := if success then launched else launchFailed

end Stage

/-- The branches that do not belong to the work of any stage. -/
def Source.channel : Source → Bool
  | .shutdown | .wake => true
  | _ => false

/-- What a supervisor has done and learned so far, as far as its further conduct
depends on it. `offer` is a received request that is not yet answered. -/
structure Stance where
  stage : Stage
  lifecycle : LifecycleState
  child : ChildState
  held : Bool
  offer : Option WakeRequest
  ending : Bool
  deriving DecidableEq, Repr

namespace Stance

/-- Where a supervisor starts. -/
def initial (lifecycle : LifecycleState) : Stance where
  stage := .startup false
  lifecycle := lifecycle
  child := .absent
  held := false
  offer := none
  ending := false

/-- Nothing to answer and no shutdown observed. -/
abbrev calm (stage : Stage) (lifecycle : LifecycleState) (child : ChildState) : Stance :=
  ⟨stage, lifecycle, child, false, none, false⟩

/-- Nothing to answer, and a shutdown observed. -/
abbrev ended (stage : Stage) (lifecycle : LifecycleState) (child : ChildState) : Stance :=
  ⟨stage, lifecycle, child, false, none, true⟩

/-- Which publications a stage calls for. -/
def legal (stance : Stance) : Transition → Bool
  | .publishStoppedAfterCleanReconciliation =>
    match stance.stage with
    | .startupProbed _ .clean => true
    | _ => false
  | .publishExternal consumeDemand =>
    match stance.stage with
    | .startupProbed latched .fullyReady => consumeDemand = latched
    | .gateCleared .fullyReady => consumeDemand
    | _ => false
  | .publishConflict evidence consumeDemand =>
    match stance.stage with
    | .startupProbed latched .positive => evidence = .positive && consumeDemand = latched
    | .startupProbed latched .inconclusive => evidence = .inconclusive && consumeDemand = latched
    | .parked => stance.lifecycle.phase = .external && evidence = .positive && !consumeDemand
    | .gateCleared classification =>
      consumeDemand &&
        if stance.lifecycle.reconciliationEvidence = .positive then
          classification ≠ .fullyReady && evidence = .positive
        else (classification = .positive && evidence = .positive) ||
          (classification = .inconclusive && evidence = .inconclusive)
    | _ => false
  | .beginReconciliation => (stance.stage = .demanded || stance.stage = .cooling true) &&
      !stance.ending
  | .recordLaunchSuccess => stance.stage = .launched
  | .recordLaunchFailure => stance.stage = .launchFailed
  | .publishRunning | .resetFailureStreak | .beginFailureCleanup _ => stance.stage = .owned
  | .beginIdleStop _ => stance.stage = .owned && stance.held
  | .recordReapedFailure _ => stance.stage = .owned && stance.child = .reaped
  | .finishFailureCleanup retryDelay =>
    match stance.stage with
    | .stopping (.failed promised) _ =>
      retryDelay = promised && stance.child ≠ .live && !stance.ending
    | _ => false
  | .setPhase phase =>
    match stance.stage with
    | .owned => phase = .stopping
    | .stopping (.failed _) _ => phase = .stopped && stance.child ≠ .live && stance.ending
    | .stopping _ _ => phase = .stopped && stance.child ≠ .live
    | .cooling latched => phase = .stopped && (stance.ending || !latched)
    | .parked => phase = .stopped && stance.lifecycle.phase = .stopped && stance.ending
    | _ => false

/-- The stage a publication leads to. -/
def published (stance : Stance) (next : LifecycleState) : Transition → Stage
  | .publishStoppedAfterCleanReconciliation =>
    if stance.stage.demanding then .demanded else .parked
  | .publishExternal _ | .publishConflict _ _ => .parked
  | .beginReconciliation => .gate
  | .recordLaunchSuccess | .publishRunning | .resetFailureStreak => .owned
  | .recordLaunchFailure | .recordReapedFailure _ => .cooling false
  | .beginFailureCleanup _ => .stopping (.failed (failureBackoff next.failureStreak)) false
  | .beginIdleStop _ => .stopping .idle false
  | .finishFailureCleanup _ => .cooling stance.stage.demanding
  | .setPhase _ =>
    match stance.stage with
    | .owned => .stopping .quit false
    | .stopping .idle latched =>
      if stance.ending then .closing else if latched then .demanded else .parked
    | .cooling _ => if stance.ending then .closing else .parked
    | _ => .closing

/-- The branches a stage may wait on. After a shutdown was observed only a stop
sequence waits, and on nothing but its own branches. -/
def allows (stance : Stance) : Source → Bool
  | .shutdown =>
    !stance.ending && stance.stage.suspends &&
      match stance.stage with
      | .stopping .quit _ => false
      | _ => true
  | .wake =>
    !stance.ending && stance.stage.suspends &&
      match stance.stage with
      | .stopping .quit _ => false
      | .stopping _ latched => !latched
      | _ => true
  | .probe =>
    !stance.ending &&
      match stance.stage with
      | .startup _ | .gate => true
      | .parked => stance.lifecycle.phase = .external
      | _ => false
  | .connect => !stance.ending && stance.stage = .owned && stance.lifecycle.phase = .starting
  | .activity | .exclusive | .rconConnect | .rconList =>
    !stance.ending && stance.stage = .owned && stance.lifecycle.phase = .running
  | .child =>
    match stance.stage with
    | .owned => !stance.ending
    | .stopping _ _ => true
    | _ => false
  | .rconStop | .consoleStop | .killTree | .kill =>
    match stance.stage with
    | .stopping _ _ => true
    | _ => false
  | .sleepUntil _ _ =>
    match stance.stage with
    | .parked => !stance.ending && stance.lifecycle.phase = .external
    | .owned | .cooling _ => !stance.ending
    | .stopping _ _ => true
    | _ => false

/-- Where a wait may leave the shutdown channel out: after a shutdown was observed,
while the child is stopped for good, and for some calls to a running server. -/
def deaf (stance : Stance) : Bool :=
  stance.ending ||
    match stance.stage with
    | .owned | .stopping .quit _ => true
    | _ => false

/-- What may be done in a stance. -/
def permits (stance : Stance) : Op → Prop
  | .panic => False
  | .publish transition next =>
    stance.offer = none ∧ stance.legal transition = true ∧
      transition.admits stance.lifecycle = true ∧
      ∃ now, next = transition.target stance.lifecycle now
  | .answer request accepted =>
    stance.offer = some request ∧ accepted = stance.stage.accepts stance.lifecycle request
  | .launch =>
    stance.offer = none ∧ stance.stage = .gateCleared .clean ∧
      stance.lifecycle.reconciliationEvidence ≠ .positive ∧ stance.ending = false
  | .tryRecvWake => stance.offer = none ∧ (∃ latched, stance.stage = .stopping .idle latched) ∧
      stance.child ≠ .live
  | .beginCycle cycle _ =>
    stance.stage = .owned ∧ stance.lifecycle.phase = .starting ∧
      cycle = ⟨stance.lifecycle.launchGeneration⟩
  | .select sources =>
    stance.offer = none ∧ stance.stage.suspends = true ∧
      ((∃ source ∈ sources, source.channel = false) ∨
        stance.stage = .parked ∧ .wake ∈ sources) ∧
      (∀ source ∈ sources, stance.allows source = true) ∧
      (stance.deaf = true ∨ sources.head? = some .shutdown)
  | .exit result =>
    stance.offer = none ∧ (result = .ok () → stance.ending = true ∧ stance.child ≠ .live)
  | .now | .currentLifecycle | .wakesClosed | .tryRecvShutdown | .tryWait | .activitySnapshot
  | .releaseExclusive => True

/-- The stance after an event of a `select`. A probe's classification depends on
whether RCON is configured. -/
def observed (rconConfigured : Bool) (stance : Stance) : Event → Stance
  | .probe observation =>
    { stance with
      stage := stance.stage.probed
        (reconciliationProbe rconConfigured observation).classification }
  | .shutdown | .wake none => { stance with ending := true }
  | .wake (some request) => { stance with offer := some request }
  | .exclusive => { stance with held := true }
  | .child .exited | .kill true => { stance with child := .reaped }
  | _ => stance

/-- A stance is a function of the operations issued and their replies. -/
def after (rconConfigured : Bool) (stance : Stance) : (op : Op) → Reply op → Stance
  | .publish transition next, _ =>
    { stance with stage := stance.published next transition, lifecycle := next }
  | .answer _ accepted, _ =>
    { stance with
      stage := if accepted then stance.stage.latch else stance.stage
      offer := none }
  | .wakesClosed, closed =>
    if closed then { stance with ending := true }
    else { stance with stage := stance.stage.opened }
  | .tryRecvShutdown, outcome =>
    if outcome = TryRecvShutdown.empty then { stance with stage := stance.stage.cleared }
    else { stance with ending := true }
  | .tryRecvWake, .received request => { stance with offer := some request }
  | .tryRecvWake, .disconnected => { stance with ending := true }
  | .launch, success =>
    { stance with
      stage := .attempted success
      child := if success then .live else stance.child }
  | .tryWait, .exited => { stance with child := .reaped }
  | .releaseExclusive, _ => { stance with held := false }
  | .select _, event => stance.observed rconConfigured event
  | _, _ => stance

/-- How the stage moves on anything but a publication: it stays, latches a demand, is opened or
cleared, takes the classification of a probe, or follows a launch. Later proofs cite this and do
not look into the step itself. -/
theorem after_stage (rconConfigured : Bool) (stance : Stance) (op : Op) (reply : Reply op)
    (unpublished : ∀ transition next, op ≠ .publish transition next) :
    (stance.after rconConfigured op reply).stage = stance.stage ∨
    (stance.after rconConfigured op reply).stage = stance.stage.latch ∨
    (stance.after rconConfigured op reply).stage = stance.stage.opened ∨
    (stance.after rconConfigured op reply).stage = stance.stage.cleared ∨
    (∃ classification,
      (stance.after rconConfigured op reply).stage = stance.stage.probed classification) ∨
    op = .launch ∧ ∃ success, (stance.after rconConfigured op reply).stage = .attempted success := by
  cases op with
  | publish transition next => exact absurd rfl (unpublished transition next)
  | answer request accepted =>
    cases accepted with
    | true => exact .inr (.inl rfl)
    | false => exact .inl rfl
  | wakesClosed =>
    cases reply with
    | true => exact .inl rfl
    | false => exact .inr (.inr (.inl rfl))
  | tryRecvShutdown =>
    cases reply with
    | empty => exact .inr (.inr (.inr (.inl rfl)))
    | received | closed => exact .inl rfl
  | launch => exact .inr (.inr (.inr (.inr (.inr ⟨rfl, reply, rfl⟩))))
  | select sources =>
    cases reply with
    | probe observation => exact .inr (.inr (.inr (.inr (.inl ⟨_, rfl⟩))))
    | wake request => cases request <;> exact .inl rfl
    | child result => cases result <;> exact .inl rfl
    | kill ok => cases ok <;> exact .inl rfl
    | _ => exact .inl rfl
  | tryRecvWake | tryWait => cases reply <;> exact .inl rfl
  | panic => cases reply
  | _ => exact .inl rfl

end Stance

/-- The relations between a published state's own fields. -/
structure LifecycleState.WellFormed (state : LifecycleState) : Prop where
  evidence : state.invariantHolds = true
  streak : state.failure.isSome ↔ 0 < state.failureStreak
  cooldown : state.phase = .cooldown → state.failure.isSome ∧
    state.retryAt = some (state.phaseStartedAt + failureBackoff state.failureStreak)
  deadline : state.retryAt.isSome → state.phase = .cooldown ∨ state.phase = .reconciling

namespace Stance

/-- What a stage says about the published state and the child. -/
def situated (stance : Stance) : Prop :=
  match stance.stage with
  | .startup _ | .startupProbed _ _ =>
    stance.lifecycle.phase = .reconciling ∧ stance.lifecycle.reconciliationEvidence = .none ∧
      stance.lifecycle.retryAt = none ∧ stance.child ≠ .live
  | .parked =>
    (stance.lifecycle.phase = .stopped ∨ stance.lifecycle.phase = .external ∨
      stance.lifecycle.phase = .conflict) ∧ stance.child ≠ .live
  | .demanded =>
    (stance.lifecycle.phase = .stopped ∨ stance.lifecycle.phase = .conflict) ∧
      stance.child ≠ .live
  | .gate | .gateProbed _ | .gateOpen _ | .gateCleared _ =>
    stance.lifecycle.phase = .reconciling ∧ stance.child ≠ .live
  | .launched =>
    stance.lifecycle.phase = .reconciling ∧ stance.lifecycle.reconciliationEvidence ≠ .positive
  | .launchFailed =>
    stance.lifecycle.phase = .reconciling ∧ stance.lifecycle.reconciliationEvidence ≠ .positive ∧
      stance.child ≠ .live
  | .owned => stance.lifecycle.phase = .starting ∨ stance.lifecycle.phase = .running
  | .stopping .quit latched => stance.lifecycle.phase = .stopping ∧ latched = false
  | .stopping (.failed retryDelay) _ =>
    stance.lifecycle.phase = .stopping ∧ stance.lifecycle.failure.isSome ∧
      retryDelay = failureBackoff stance.lifecycle.failureStreak
  | .stopping .idle _ => stance.lifecycle.phase = .stopping ∧ stance.lifecycle.failure = none
  | .cooling _ => stance.lifecycle.phase = .cooldown ∧ stance.child ≠ .live
  | .closing => stance.lifecycle.phase = .stopped ∧ stance.child ≠ .live

/-- The invariant of a supervisor's stances. -/
structure Sound (stance : Stance) : Prop where
  wellFormed : stance.lifecycle.WellFormed
  situated : stance.situated

/-- The replies that make sense in a stance. Soundness of the resulting stance is
among them: it is established once, and programs may then rely on it. -/
def answers (rconConfigured : Bool) (stance : Stance) (op : Op) (reply : Reply op) : Prop :=
  (stance.after rconConfigured op reply).Sound ∧
    match op, reply with
    | .currentLifecycle, reply => reply = stance.lifecycle
    | .select sources, event => ∃ source ∈ sources, source.offers event = true
    | _, _ => True

end Stance

/-- Every published state keeps its fields in agreement. The retry delay of a
finished cleanup and the phase of `set_phase` are arguments, so that agreement
needs what their callers pass. -/
theorem Transition.target_wellFormed (transition : Transition) (current : LifecycleState)
    (now : Instant) (admitted : transition.admits current = true) (sound : current.WellFormed)
    (delayed : ∀ retryDelay, transition = .finishFailureCleanup retryDelay →
      current.failure.isSome ∧ retryDelay = failureBackoff current.failureStreak)
    (settled : transition ≠ .setPhase .cooldown) :
    (transition.target current now).WellFormed := by
  have counted := saturatingSucc_pos current.failureStreak
  refine ⟨target_invariant transition current now admitted, ?_, ?_, ?_⟩
  · cases transition <;> simp_all [target, sound.streak]
  · cases transition with
    | finishFailureCleanup retryDelay =>
      obtain ⟨failed, rfl⟩ := delayed retryDelay rfl
      simp [target, failed]
    | resetFailureStreak => simp_all [target, admits]
    | setPhase phase => simp_all [target]
    | _ => simp [target]
  · cases transition <;> simp_all [target]

namespace Stance

/-- A legal publication finds the situation that its assertions require, so that the state it
publishes is well formed again. The two assertions are those of a failure's cleanup. -/
theorem Sound.target_wellFormed {stance : Stance} (sound : stance.Sound)
    {transition : Transition} (legal : stance.legal transition = true)
    (admitted : transition.admits stance.lifecycle = true) (now : Instant) :
    (transition.target stance.lifecycle now).WellFormed := by
  refine transition.target_wellFormed stance.lifecycle now admitted sound.wellFormed ?_ ?_
  · rintro retryDelay rfl
    have situation := sound.situated
    obtain ⟨stage, lifecycle, child, held, offer, ending⟩ := stance
    cases stage with
    | stopping cause latched =>
      cases cause <;> simp_all [Stance.legal, Stance.situated]
    | _ => simp [Stance.legal] at legal
  · rintro rfl
    obtain ⟨stage, lifecycle, child, held, offer, ending⟩ := stance
    cases stage with
    | stopping cause latched => cases cause <;> simp [Stance.legal] at legal
    | _ => simp [Stance.legal] at legal

/-- A legal publication leads to a stage that describes the published state. The transitions are
grouped by the stage they lead to, and the old situation rules out the ones that the stage does
not allow. -/
theorem Sound.situated_published {stance : Stance} (sound : stance.Sound)
    {transition : Transition} (legal : stance.legal transition = true)
    (admitted : transition.admits stance.lifecycle = true) (now : Instant) :
    Stance.situated { stance with
      stage := stance.published (transition.target stance.lifecycle now) transition
      lifecycle := transition.target stance.lifecycle now } := by
  have situation := sound.situated
  obtain ⟨stage, lifecycle, child, held, offer, ending⟩ := stance
  cases transition with
  | recordLaunchSuccess | recordLaunchFailure | recordReapedFailure | beginFailureCleanup
  | publishRunning | beginIdleStop =>
    simp_all [Stance.legal, Stance.published, Stance.situated, Transition.target,
      Transition.admits, saturatingSucc_pos]
  | resetFailureStreak =>
    simp_all [Stance.legal, Stance.published, Stance.situated, Transition.target,
      Transition.admits]
  | beginReconciliation =>
    simp only [Stance.legal, Bool.and_eq_true, Bool.or_eq_true, decide_eq_true_eq] at legal
    obtain ⟨rfl | rfl, _⟩ := legal <;>
      simp_all [Stance.published, Stance.situated, Transition.target]
  | publishStoppedAfterCleanReconciliation =>
    cases stage with
    | startupProbed latched classification =>
      cases classification <;> cases latched <;>
        simp_all [Stance.legal, Stance.published, Stance.situated, Transition.target,
          Stage.demanding]
    | _ => simp [Stance.legal] at legal
  | publishExternal consumeDemand =>
    cases stage <;> simp_all [Stance.legal, Stance.published, Stance.situated, Transition.target]
  | publishConflict evidence consumeDemand =>
    cases stage <;> simp_all [Stance.legal, Stance.published, Stance.situated, Transition.target]
  | finishFailureCleanup retryDelay =>
    cases stage with
    | stopping cause latched =>
      cases cause <;> simp_all [Stance.legal, Stance.published, Stance.situated,
        Transition.target]
    | _ => simp [Stance.legal] at legal
  | setPhase phase =>
    cases stage with
    | stopping cause latched =>
      cases cause <;> cases ending <;> cases latched <;>
        simp_all [Stance.legal, Stance.published, Stance.situated, Transition.target]
    | cooling latched =>
      cases ending <;> simp_all [Stance.legal, Stance.published, Stance.situated,
        Transition.target]
    | owned | parked =>
      simp_all [Stance.legal, Stance.published, Stance.situated, Transition.target]
    | _ => simp [Stance.legal] at legal

/-- A child that is found reaped contradicts no situation. -/
theorem Sound.reaped {stance : Stance} (sound : stance.Sound) :
    Sound { stance with child := .reaped } := by
  refine ⟨sound.wellFormed, ?_⟩
  have situation := sound.situated
  obtain ⟨stage, lifecycle, child, held, offer, ending⟩ := stance
  cases stage with
  | stopping cause latched => cases cause <;> simp_all [Stance.situated]
  | _ => simp_all [Stance.situated]

/-- Accepting a request moves to a stage that still describes the situation. Only stages that
accept are concerned, and each has a latched form for the same phases. -/
theorem Sound.latch {stance : Stance} (sound : stance.Sound) {request : WakeRequest}
    (accepted : stance.stage.accepts stance.lifecycle request = true) :
    Sound { stance with stage := stance.stage.latch, offer := none } := by
  refine ⟨sound.wellFormed, ?_⟩
  have situation := sound.situated
  obtain ⟨stage, lifecycle, child, held, offer, ending⟩ := stance
  cases stage with
  | stopping cause latched =>
    cases cause <;> simp_all [Stance.situated, Stage.accepts, Stage.latch]
  | parked =>
    simp only [Stage.accepts, WakeRequest.canStart, WakeRequest.requestsConflictReconciliation,
      Bool.or_eq_true, Bool.and_eq_true, decide_eq_true_eq] at accepted
    rcases accepted with start | conflict <;> simp_all [Stance.situated, Stage.latch]
  | _ => simp_all [Stance.situated, Stage.accepts, Stage.latch]

/-- Probing, opening and clearing keep the situation: a gate stays a gate. -/
theorem Sound.advanced {stance : Stance} (sound : stance.Sound) (stage : Stage)
    (advanced : stage = stance.stage.opened ∨ stage = stance.stage.cleared ∨
      ∃ classification, stage = stance.stage.probed classification) :
    Sound { stance with stage := stage } := by
  refine ⟨sound.wellFormed, ?_⟩
  have situation := sound.situated
  obtain ⟨current, lifecycle, child, held, offer, ending⟩ := stance
  obtain rfl | rfl | ⟨classification, rfl⟩ := advanced <;> cases current <;>
    simp_all [Stance.situated, Stage.opened, Stage.cleared, Stage.probed]

/-- An event of a `select` keeps the invariant. -/
theorem Sound.observed {stance : Stance} (sound : stance.Sound) (rconConfigured : Bool)
    (event : Event) : (stance.observed rconConfigured event).Sound := by
  cases event with
  | probe observation => exact sound.advanced _ (.inr (.inr ⟨_, rfl⟩))
  | child result => cases result <;> first | exact sound.reaped | exact sound
  | kill ok => cases ok <;> first | exact sound.reaped | exact sound
  | wake request => cases request <;> exact ⟨sound.wellFormed, sound.situated⟩
  | shutdown | exclusive => exact ⟨sound.wellFormed, sound.situated⟩
  | _ => exact sound

/-- Every permitted operation keeps the invariant, whatever its reply. The reply belongs to the
surroundings, so nothing may be assumed of it beyond that the operation was permitted. -/
theorem Sound.after {stance : Stance} (sound : stance.Sound) (rconConfigured : Bool) {op : Op}
    (permitted : stance.permits op) (reply : Reply op) :
    (stance.after rconConfigured op reply).Sound := by
  cases op with
  | publish transition next =>
    obtain ⟨-, legal, admitted, now, rfl⟩ := permitted
    exact ⟨sound.target_wellFormed legal admitted now,
      sound.situated_published legal admitted now⟩
  | answer request accepted =>
    obtain ⟨-, rfl⟩ := permitted
    by_cases accepted : stance.stage.accepts stance.lifecycle request = true
    · simpa [Stance.after, accepted] using sound.latch accepted
    · simpa [Stance.after, accepted] using (⟨sound.wellFormed, sound.situated⟩ :
        Sound { stance with offer := none })
  | launch =>
    obtain ⟨-, gate, clean, -⟩ := permitted
    obtain ⟨reconciling, unowned⟩ : stance.lifecycle.phase = .reconciling ∧
        stance.child ≠ .live := by
      simpa [Stance.situated, gate] using sound.situated
    refine ⟨sound.wellFormed, ?_⟩
    cases reply <;>
      simp [Stance.after, Stage.attempted, Stance.situated, reconciling, clean, unowned]
  | wakesClosed =>
    cases reply with
    | true => exact ⟨sound.wellFormed, sound.situated⟩
    | false => exact sound.advanced _ (.inl rfl)
  | tryRecvShutdown =>
    cases reply with
    | empty => exact sound.advanced _ (.inr (.inl rfl))
    | received | closed => exact ⟨sound.wellFormed, sound.situated⟩
  | tryRecvWake => cases reply <;> exact ⟨sound.wellFormed, sound.situated⟩
  | tryWait => cases reply <;> first | exact sound.reaped | exact sound
  | select sources => exact sound.observed rconConfigured reply
  | releaseExclusive => exact ⟨sound.wellFormed, sound.situated⟩
  | panic => cases reply
  | now | currentLifecycle | beginCycle | activitySnapshot | exit => exact sound

end Stance

/-- The monitor of a supervisor's conduct. -/
abbrev conduct (rconConfigured : Bool) : Monitor Op Reply where
  State := Stance
  permits := Stance.permits
  answers := Stance.answers rconConfigured
  after := Stance.after rconConfigured

end McServerNap
