import McServerNap.Generations

/-!
# What requests have observed

Requests come from clients alone: each carries a state that was published before
its client sampled it, in a phase that calls for a wake. While the counter has not
gone round, the stage restricts which published states can be of its generation,
and with them what a request of that generation can have observed.
-/

namespace McServerNap

open Interaction

/-- The state a client has sampled and is to put into a wake request. -/
def ClientTask.observed : ClientTask → Option LifecycleState
  | .sleeping observed | .waking observed => some observed
  | _ => none

/-- A client takes its sample from the published state, wakes only for some phases,
and only its wake enters the slot. -/
theorem World.clientStep_observed {world after : World} {task later : ClientTask}
    {step : ClientStep} (stepped : world.clientStep task step = some (later, after)) :
    (∀ state, later.observed = some state →
      task.observed = some state ∨ state = world.lifecycle) ∧
    (∀ state, later = .waking state → World.wakes state.phase = true) ∧
    (after.slot = world.slot ∨ ∃ state, task = .waking state ∧ after.slot = some ⟨state⟩) := by
  revert stepped
  fun_cases World.clientStep world task step
  all_goals
    intro stepped
    cases stepped
  all_goals try split
  all_goals simp_all [ClientTask.observed]

/-- Every request in the world carries a published state. -/
structure Sampled (origin : LifecycleState) (history : List Happening) (stance : Stance)
    (world : World) : Prop where
  newest : stance.lifecycle ∈ publications origin history
  clients : ∀ task ∈ world.clients, ∀ state, task.observed = some state →
    state ∈ publications origin history
  waking : ∀ state, ClientTask.waking state ∈ world.clients → World.wakes state.phase = true
  slot : ∀ request, world.slot = some request →
    request.observed ∈ publications origin history ∧
      World.wakes request.observed.phase = true
  offer : ∀ request, stance.offer = some request →
    request.observed ∈ publications origin history ∧
      World.wakes request.observed.phase = true

/-- A request is received out of the slot, by the branch of a wait or by the look that does not
wait; there is no other place where one could come from. -/
theorem World.delivered_slot {world after : World} {op : Op} {reply : Reply op}
    {request : WakeRequest} (performed : world.perform op reply = some after)
    (delivered : Happening.delivers (.issued op reply) = some request) :
    world.slot = some request := by
  cases op with
  | select sources =>
    cases reply with
    | wake received =>
      have same : received = some request := delivered
      subst same
      simp only [World.perform] at performed
      split at performed
      · obtain ⟨source, -, completes⟩ := World.selects_completes (by assumption)
        cases source with
        | wake => simpa [World.completes] using completes
        | _ => simp [World.completes] at completes
      · cases performed
    | _ => cases delivered
  | tryRecvWake =>
    cases reply with
    | received taken =>
      obtain rfl : taken = request := Option.some.inj delivered
      simp only [World.perform] at performed
      split at performed <;> simp_all
    | _ => cases delivered
  | _ => cases delivered

/-- At first there is no request, and what is published is the origin. -/
theorem Sampled.start (start : Instant) :
    Sampled (.reconciling start) [] (.initial (.reconciling start)) (.initial start) where
  newest := List.mem_singleton.mpr rfl
  clients := nofun
  waking := nofun
  slot := nofun
  offer := nofun

/-- The supervisor's operations make no request. A publication adds the state that later samples
may carry. -/
theorem Sampled.issued {origin : LifecycleState} {history : List Happening} {stance : Stance}
    {world after : World} {rcon : Bool} {op : Op} {reply : Reply op}
    (sampled : Sampled origin history stance world)
    (performed : world.perform op reply = some after) :
    Sampled origin (.issued op reply :: history) (stance.after rcon op reply) after := by
  have framed := World.framed performed
  have kept : ∀ state ∈ publications origin history,
      state ∈ publications origin (.issued op reply :: history) := by
    intro state listed
    rw [publications_issued]
    cases op with
    | publish => exact List.mem_cons_of_mem _ listed
    | _ => exact listed
  constructor
  · rw [publications_issued, Stance.after_lifecycle]
    cases op with
    | publish => exact List.mem_cons_self
    | _ => exact sampled.newest
  · rw [framed.clients]
    exact fun task listed state observed => kept state (sampled.clients task listed state observed)
  · rw [framed.clients]
    exact sampled.waking
  · intro request queued
    rcases framed.slot with same | empty
    · rw [same] at queued
      exact (sampled.slot request queued).imp_left (kept _)
    · cases empty.symm.trans queued
  · intro request offered
    rcases Stance.after_offer offered with delivered | before
    · exact (sampled.slot request (World.delivered_slot performed delivered)).imp_left (kept _)
    · exact (sampled.offer request before).imp_left (kept _)

/-- A client that samples carries what is published, and the others carry what they carried. What
a client offers to the slot is what it carries. -/
theorem Sampled.moved {origin : LifecycleState} {history : List Happening} {stance : Stance}
    {world after : World} {waiting : Option Op} {move : Move}
    (sampled : Sampled origin history stance world) (agrees : stance.agrees world)
    (moved : world.move move = some after) :
    Sampled origin (.moved waiting move :: history) stance after := by
  obtain ⟨newest, clients, waking, slot, offer⟩ := sampled
  cases move with
  | client index step =>
    obtain ⟨task, later, stepped, listed, step, rfl⟩ := World.move_client moved
    obtain ⟨observed, wakes, queued⟩ := World.clientStep_observed step
    have present := List.mem_of_getElem? listed
    refine ⟨newest, fun other member state holds => ?_, fun state member => ?_,
      fun request occupied => ?_, offer⟩
    · rcases List.mem_or_eq_of_mem_set member with before | rfl
      · exact clients other before state holds
      · rcases observed state holds with before | rfl
        · exact clients task present state before
        · exact agrees.1 ▸ newest
    · rcases List.mem_or_eq_of_mem_set member with before | same
      · exact waking state before
      · exact wakes state same.symm
    · rcases queued with same | ⟨state, rfl, filled⟩
      · exact slot request (same ▸ occupied)
      · obtain rfl : ⟨state⟩ = request := Option.some.inj (filled.symm.trans occupied)
        exact ⟨clients _ present state rfl, waking state present⟩
  | accept =>
    cases moved
    refine ⟨newest, fun task member state holds => ?_, fun state member => ?_, slot, offer⟩
    · rcases List.mem_append.mp member with before | fresh
      · exact clients task before state holds
      · rw [List.mem_singleton.mp fresh] at holds
        cases holds
    · rcases List.mem_append.mp member with before | fresh
      · exact waking state before
      · cases List.mem_singleton.mp fresh
  | sendShutdown | dropShutdown =>
    simp only [World.move] at moved
    split at moved <;> cases moved
    exact ⟨newest, clients, waking, slot, offer⟩
  | tick | closeWakes =>
    cases moved
    exact ⟨newest, clients, waking, slot, offer⟩

/-- What the stage says about a published state of the current generation in a
phase that calls for a wake. -/
def Stage.characterizes (current state : LifecycleState) : Stage → Prop
  | .startup _ | .startupProbed _ _ | .stopping _ _ => state = current
  | .parked => current.phase = .stopped → state.phase ≠ .conflict
  | .owned => False
  | .cooling _ => (state.phase = .stopping ∨ state.phase = .cooldown) ∧
      state.failure = current.failure ∧ state.failureStreak = current.failureStreak
  | _ => True

/-- The published states of the current generation are what the stage says, and no
generation is ahead of it. -/
structure Characterized (origin : LifecycleState) (history : List Happening) (stance : Stance) :
    Prop where
  bounded : ∀ state ∈ publications origin history,
    state.launchGeneration ≤ stance.lifecycle.launchGeneration
  eligible : ∀ state ∈ publications origin history,
    state.launchGeneration = stance.lifecycle.launchGeneration →
      World.wakes state.phase = true → stance.stage.characterizes stance.lifecycle state

/-- A publication within a generation keeps what is known of its earlier states. What can be said
of them depends on the stage, so the cases are the transitions and, within them, the stages. -/
theorem Stance.Sound.characterizes_earlier {stance : Stance} (sound : stance.Sound)
    {transition : Transition} (legal : stance.legal transition = true) (now : Instant)
    (same : (transition.records || transition.consumes) = false) {state : LifecycleState}
    (characterized : stance.stage.characterizes stance.lifecycle state) :
    (stance.published (transition.target stance.lifecycle now) transition).characterizes
      (transition.target stance.lifecycle now) state := by
  have situation := sound.situated
  obtain ⟨stage, lifecycle, child, held, offer, ending⟩ := stance
  cases transition with
  | publishStoppedAfterCleanReconciliation =>
    cases stage with
    | startupProbed latched classification =>
      obtain rfl : state = lifecycle := characterized
      cases latched
      · simp_all [Stance.published, Stage.demanding, Stage.characterizes, Stance.situated]
      · trivial
    | _ => cases legal
  | publishExternal | publishConflict => simp [Stance.published, Stage.characterizes,
      Transition.target]
  | beginReconciliation => trivial
  | recordLaunchSuccess | recordLaunchFailure => cases same
  | finishFailureCleanup retryDelay =>
    cases stage with
    | stopping cause latched =>
      obtain rfl : state = lifecycle := characterized
      exact ⟨.inl sound.phase_stopping, rfl, rfl⟩
    | _ => cases legal
  | setPhase phase =>
    cases stage with
    | owned => cases characterized
    | stopping cause latched =>
      obtain rfl : state = lifecycle := characterized
      have stopping := sound.phase_stopping
      cases cause <;> cases ending <;> cases latched <;>
        simp_all [Stance.published, Stage.characterizes]
    | cooling latched =>
      cases ending <;> simp_all [Stance.published, Stage.characterizes]
      rcases characterized.1 with phase | phase <;> simp [phase]
    | parked => trivial
    | _ => cases legal
  | publishRunning | resetFailureStreak | beginFailureCleanup | recordReapedFailure
  | beginIdleStop =>
    simp_all [Stance.legal, Stage.characterizes]

/-- A publication satisfies what its own stage says, since the stage describes the very state that
is published. -/
theorem Stance.Sound.characterizes_own {stance : Stance} (sound : stance.Sound)
    {transition : Transition} (legal : stance.legal transition = true)
    (admitted : transition.admits stance.lifecycle = true) (now : Instant)
    (wakes : World.wakes (transition.target stance.lifecycle now).phase = true) :
    (stance.published (transition.target stance.lifecycle now) transition).characterizes
      (transition.target stance.lifecycle now) (transition.target stance.lifecycle now) := by
  have situated := sound.situated_published legal admitted now
  generalize transition.target stance.lifecycle now = next at wakes situated ⊢
  generalize stance.published next transition = stage at situated ⊢
  cases stage with
  | startup | startupProbed | stopping => rfl
  | parked => simp +contextual [Stage.characterizes]
  | owned =>
    obtain phase | phase : next.phase = .starting ∨ next.phase = .running := situated <;>
      simp [phase, World.wakes] at wakes
  | cooling => exact ⟨.inr situated.1, rfl, rfl⟩
  | _ => trivial

/-- What a stage says lasts until the next publication: what is latched, opened or probed in
between changes the stage only in ways that it says nothing about. -/
theorem Stage.characterizes.lasts {stance : Stance} {state : LifecycleState} (rcon : Bool)
    {op : Op} (reply : Reply op)
    (characterized : stance.stage.characterizes stance.lifecycle state)
    (unpublished : ∀ transition next, op ≠ .publish transition next) :
    (stance.after rcon op reply).stage.characterizes stance.lifecycle state := by
  obtain ⟨stage, lifecycle, child, held, offer, ending⟩ := stance
  rcases Stance.after_stage rcon _ op reply unpublished with
    same | latched | opened | cleared | ⟨classification, probed⟩ | ⟨-, success, attempted⟩
  · rwa [same]
  · rw [latched]
    cases stage <;> first | exact characterized | trivial
  · rw [opened]
    cases stage <;> exact characterized
  · rw [cleared]
    cases stage <;> exact characterized
  · rw [probed]
    cases stage <;> exact characterized
  · rw [attempted]
    cases success <;> trivial

/-- At first only the origin is published, whose generation is zero. -/
theorem Characterized.start (start : Instant) :
    Characterized (.reconciling start) [] (.initial (.reconciling start)) where
  bounded := List.forall_mem_singleton.mpr (Nat.le_refl _)
  eligible := List.forall_mem_singleton.mpr fun _ _ => rfl

/-- A publication is of the present generation or begins the next one, so with the counter not
gone round no state of the present generation is older than its beginning. -/
theorem Characterized.issued {origin : LifecycleState} {history : List Happening}
    {stance : Stance} {rcon : Bool} {op : Op} (reply : Reply op)
    (characterized : Characterized origin history stance) (counted : Counted history stance)
    (sound : stance.Sound) (permitted : stance.permits op)
    (small : attempts (.issued op reply :: history) + blocks (.issued op reply :: history) < 2 ^ 64) :
    Characterized origin (.issued op reply :: history) (stance.after rcon op reply) := by
  obtain ⟨bounded, eligible⟩ := characterized
  cases op with
  | publish transition next =>
    obtain ⟨-, legal, admitted, now, rfl⟩ := permitted
    have advances := counted.advances legal now small
    constructor
    · rw [publications_issued]
      refine List.forall_mem_cons.mpr ⟨Nat.le_refl _, fun state listed => ?_⟩
      have before := bounded state listed
      simp only [Stance.after]
      omega
    · rw [publications_issued]
      refine List.forall_mem_cons.mpr ⟨fun _ wakes =>
        sound.characterizes_own legal admitted now wakes, fun state listed current wakes => ?_⟩
      have before := bounded state listed
      simp only [Stance.after] at current
      cases advancing : transition.records || transition.consumes with
      | false =>
        rw [advances, advancing] at current
        exact sound.characterizes_earlier legal now advancing (eligible state listed current wakes)
      | true =>
        rw [advancing, Bool.toNat_true] at advances
        omega
  | _ =>
    constructor
    · rw [publications_issued, Stance.after_lifecycle]
      exact bounded
    · rw [publications_issued, Stance.after_lifecycle]
      exact fun state listed current wakes =>
        (eligible state listed current wakes).lasts rcon reply (by simp)

end McServerNap
