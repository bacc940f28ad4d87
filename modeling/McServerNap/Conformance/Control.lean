import McServerNap.Conduct

/-!
# The supervisor's operations and waits follow its conduct

One specification for each function of the supervisor: from which stances it may
be called, and in which stances its outcomes leave it. Each is proved from the
function's own text and from the specifications of the functions it calls. A
specification takes the postcondition as a parameter and asks for it in every
stance the function can end in, where soundness of that stance may be used.
-/

namespace McServerNap

open Interaction SupervisorControl

variable {rcon : Bool}

section Operations

variable {stage : Stage} {lifecycle : LifecycleState} {child : ChildState} {held ending : Bool}
  {offer : Option WakeRequest}

/-- An operation is safe when it is permitted and each sensible reply leads where
the postcondition asks. -/
theorem safe_access {stance : Stance} {op : Op} {post : Reply op → Stance → Prop}
    (permitted : stance.permits op)
    (replied : ∀ reply, stance.answers rcon op reply → post reply (stance.after rcon op reply)) :
    Safe (conduct rcon) (access op) post stance :=
  ⟨permitted, replied⟩

/-- Reading the clock changes no stance, and any instant may be read. -/
theorem safe_now {stance : Stance} {post : Instant → Stance → Prop}
    (replied : ∀ now, post now stance) : Safe (conduct rcon) now post stance :=
  safe_access trivial fun reply _ => replied reply

/-- Reading the lifecycle yields the one that the stance knows, since only the supervisor
publishes. -/
theorem safe_currentLifecycle {post : LifecycleState → Stance → Prop}
    (replied : post lifecycle ⟨stage, lifecycle, child, held, offer, ending⟩) :
    Safe (conduct rcon) currentLifecycle post ⟨stage, lifecycle, child, held, offer, ending⟩ :=
  safe_access trivial fun _ answered => answered.2 ▸ replied

/-- The activity record changes no stance, and any record may be read. -/
theorem safe_activitySnapshot {stance : Stance} {post : Option CurrentCycleActivity → Stance → Prop}
    (replied : ∀ activity, post activity stance) :
    Safe (conduct rcon) (access .activitySnapshot) post stance :=
  safe_access trivial fun reply _ => replied reply

/-- An assertion that holds is passed; nothing needs to be known of a panic. -/
theorem safe_assert {stance : Stance} {condition : Bool} {post : Unit → Stance → Prop}
    (holds : condition = true) (reached : post () stance) :
    Safe (conduct rcon) (assert condition) post stance := by
  rw [assert, if_pos holds]
  exact reached

/-- A closed wake channel ends the supervisor; an open one opens a probed gate. -/
theorem safe_wakesClosed {post : Bool → Stance → Prop}
    (closed : Stance.Sound ⟨stage, lifecycle, child, held, offer, true⟩ →
      post true ⟨stage, lifecycle, child, held, offer, true⟩)
    (opened : Stance.Sound ⟨stage.opened, lifecycle, child, held, offer, ending⟩ →
      post false ⟨stage.opened, lifecycle, child, held, offer, ending⟩) :
    Safe (conduct rcon) wakesClosed post ⟨stage, lifecycle, child, held, offer, ending⟩ :=
  safe_access trivial fun reply answered =>
    match reply with
    | true => closed answered.1
    | false => opened answered.1

/-- A query of the child either reaps it, and the stance knows that it did, or leaves the stance
as it was. -/
theorem safe_tryWait {post : TryWaitResult → Stance → Prop}
    (exited : Stance.Sound ⟨stage, lifecycle, .reaped, held, offer, ending⟩ →
      post .exited ⟨stage, lifecycle, .reaped, held, offer, ending⟩)
    (other : ∀ result, result ≠ .exited →
      post result ⟨stage, lifecycle, child, held, offer, ending⟩) :
    Safe (conduct rcon) (access .tryWait) post
      ⟨stage, lifecycle, child, held, offer, ending⟩ :=
  safe_access trivial fun reply answered =>
    match reply with
    | .exited => exited answered.1
    | .running => other .running nofun
    | .failed => other .failed nofun

/-- The events of the two channels are told apart from those of the stage's own
branches. -/
theorem safe_select {sources : List Source} {post : Event → Stance → Prop}
    (permitted : Stance.permits ⟨stage, lifecycle, child, held, none, ending⟩ (.select sources))
    (shutdown : Stance.Sound ⟨stage, lifecycle, child, held, none, true⟩ →
      .shutdown ∈ sources → post .shutdown ⟨stage, lifecycle, child, held, none, true⟩)
    (closed : Stance.Sound ⟨stage, lifecycle, child, held, none, true⟩ →
      .wake ∈ sources → post (.wake none) ⟨stage, lifecycle, child, held, none, true⟩)
    (received : .wake ∈ sources → ∀ request,
      post (.wake (some request)) ⟨stage, lifecycle, child, held, some request, ending⟩)
    (worked : ∀ event, (∃ source ∈ sources, source.channel = false ∧
        source.offers event = true) →
      (Stance.observed rcon ⟨stage, lifecycle, child, held, none, ending⟩ event).Sound →
      post event (Stance.observed rcon ⟨stage, lifecycle, child, held, none, ending⟩ event)) :
    Safe (conduct rcon) (select sources) post
      ⟨stage, lifecycle, child, held, none, ending⟩ := by
  refine safe_access permitted fun event answered => ?_
  obtain ⟨sound, source, listed, offered⟩ := answered
  cases source with
  | shutdown => cases event <;> first | exact shutdown sound listed | cases offered
  | wake =>
    cases event with
    | wake request =>
      cases request with
      | none => exact closed sound listed
      | some request => exact received listed request
    | _ => cases offered
  | _ => exact worked event ⟨_, listed, rfl, offered⟩ sound

/-- A request is answered as the stage decides: accepting it latches the demand, and refusing it
changes nothing but that no request is offered any more. -/
theorem safe_answer {request : WakeRequest} {accepted : Bool} {post : Unit → Stance → Prop}
    (decided : accepted = stage.accepts lifecycle request)
    (answered : Stance.Sound
        ⟨if accepted then stage.latch else stage, lifecycle, child, held, none, ending⟩ →
      post () ⟨if accepted then stage.latch else stage, lifecycle, child, held, none, ending⟩) :
    Safe (conduct rcon) (answer request accepted) post
      ⟨stage, lifecycle, child, held, some request, ending⟩ :=
  safe_access ⟨rfl, decided⟩ fun _ sensible => answered sensible.1

/-- A stage that accepts nothing answers every request with a refusal. -/
theorem safe_answer_refused {request : WakeRequest} {post : Unit → Stance → Prop}
    (refused : stage.accepts lifecycle request = false)
    (answered : post () ⟨stage, lifecycle, child, held, none, ending⟩) :
    Safe (conduct rcon) (answer request false) post
      ⟨stage, lifecycle, child, held, some request, ending⟩ :=
  safe_answer refused.symm fun _ => answered

/-- A publication that the conduct permits goes to the stage its transition leads to, with the
published state as the lifecycle known. -/
theorem safe_publish (later : Stage) {transition : Transition} {next : LifecycleState}
    {post : Unit → Stance → Prop}
    (permitted : Stance.permits ⟨stage, lifecycle, child, held, none, ending⟩
      (.publish transition next))
    (leads : Stance.published ⟨stage, lifecycle, child, held, none, ending⟩ next transition = later)
    (published : Stance.Sound ⟨later, next, child, held, none, ending⟩ →
      post () ⟨later, next, child, held, none, ending⟩) :
    Safe (conduct rcon) (publish transition next) post
      ⟨stage, lifecycle, child, held, none, ending⟩ := by
  obtain ⟨-, -, admitted, now, built⟩ := id permitted
  have valid : next.invariantHolds = true := by
    rw [built]
    exact transition.target_invariant lifecycle now admitted
  subst leads
  simp only [publish, Program.bind_eq, safe_bind]
  exact safe_assert valid (safe_access permitted fun _ answered => published answered.1)

/-- A publishing function leads to a stage that does not depend on the instant. -/
theorem safe_advance (later : Stage) {transition : Transition}
    {post : LifecycleState × Instant → Stance → Prop}
    (legal : Stance.legal ⟨stage, lifecycle, child, held, none, ending⟩ transition = true)
    (admitted : transition.admits lifecycle = true)
    (leads : ∀ now, Stance.published ⟨stage, lifecycle, child, held, none, ending⟩
      (transition.target lifecycle now) transition = later)
    (published : ∀ now next, next = transition.target lifecycle now →
      Stance.Sound ⟨later, next, child, held, none, ending⟩ →
      post (next, now) ⟨later, next, child, held, none, ending⟩) :
    Safe (conduct rcon) (advance transition) post
      ⟨stage, lifecycle, child, held, none, ending⟩ := by
  simp only [advance, Program.bind_eq, safe_bind]
  refine safe_currentLifecycle (safe_assert admitted (safe_now fun now => ?_))
  exact safe_publish later ⟨rfl, legal, admitted, now, rfl⟩ (leads now)
    fun sound => published now _ rfl sound

/-- A gate that was probed may have been opened before a shutdown is found; no
other stage changes. -/
theorem safe_shutdownPending {post : Bool → Stance → Prop}
    (ended : ∀ current, current = stage ∨ current = stage.opened →
      Stance.Sound ⟨current, lifecycle, child, held, offer, true⟩ →
      post true ⟨current, lifecycle, child, held, offer, true⟩)
    (clear : Stance.Sound ⟨stage.opened.cleared, lifecycle, child, held, offer, ending⟩ →
      post false ⟨stage.opened.cleared, lifecycle, child, held, offer, ending⟩) :
    Safe (conduct rcon) shutdownPending post
      ⟨stage, lifecycle, child, held, offer, ending⟩ := by
  simp only [shutdownPending, Program.bind_eq, safe_bind]
  refine safe_wakesClosed (fun sound => ended _ (.inl rfl) sound) fun _ => ?_
  simp only [Bool.false_eq_true, if_false, safe_bind]
  refine safe_access trivial fun outcome answered => ?_
  cases outcome with
  | empty => exact clear answered.1
  | received | closed => exact ended _ (.inr rfl) answered.1

/-- Outside a gate only the knowledge of a shutdown changes. Looking for one opens or clears a
stage of the final gate, and leaves every other stage. -/
theorem safe_shutdownPending_steady {post : Bool → Stance → Prop}
    (steady : stage.opened = stage ∧ stage.cleared = stage)
    (ended : Stance.Sound ⟨stage, lifecycle, child, held, offer, true⟩ →
      post true ⟨stage, lifecycle, child, held, offer, true⟩)
    (clear : post false ⟨stage, lifecycle, child, held, offer, ending⟩) :
    Safe (conduct rcon) shutdownPending post
      ⟨stage, lifecycle, child, held, offer, ending⟩ := by
  refine safe_shutdownPending ?_ fun _ => ?_
  · rw [steady.1]
    rintro current (rfl | rfl) sound <;> exact ended sound
  · rw [steady.1, steady.2]
    exact clear

end Operations

section Control

/-- Soundness of the stance is available wherever a program stops. -/
theorem safe_sound {α : Type} {program : Supervised α} {post : α → Stance → Prop}
    {stance : Stance} (safe : Safe (conduct rcon) program post stance) (sound : stance.Sound) :
    Safe (conduct rcon) program (fun value later => later.Sound ∧ post value later) stance :=
  have kept : ∀ stance op reply, Stance.answers rcon stance op reply →
      (stance.after rcon op reply).Sound := fun _ _ _ answered => answered.1
  Safe.strengthen kept safe sound

variable {lifecycle : LifecycleState} {child : ChildState}

/-- A parked supervisor either accepts a demand or learns that it is to end. What arrives in
between and is refused changes nothing, so the loop keeps the parked stance. -/
theorem safe_waitForReconciliationDemand {post : Bool → Stance → Prop}
    (demanded : (Stance.calm .demanded lifecycle child).Sound →
      post true (.calm .demanded lifecycle child))
    (ended : (Stance.ended .parked lifecycle child).Sound →
      post false (.ended .parked lifecycle child)) :
    Safe (conduct rcon) waitForReconciliationDemand post (.calm .parked lifecycle child) := by
  refine safe_loop (fun _ stance => stance = .calm .parked lifecycle child) rfl ?_
  rintro _ _ rfl
  simp only [Program.bind_eq, safe_bind]
  refine safe_wakesClosed ended fun _ => ?_
  simp only [Bool.false_eq_true, if_false, safe_bind]
  refine safe_select ?_ (fun sound _ => ended sound) (fun sound _ => ended sound) ?_ ?_
  · simp [Stance.permits, Stage.opened, Stage.suspends, Stance.allows]
  · intro _ request
    simp only [safe_bind]
    refine safe_currentLifecycle (safe_answer rfl fun sound => ?_)
    by_cases accepted : (request.canStart lifecycle ||
        request.requestsConflictReconciliation lifecycle) = true
    · simp only [accepted, if_true] at sound ⊢
      exact demanded sound
    · simp only [accepted]
      rfl
  · rintro event ⟨source, listed, internal, _⟩
    simp only [List.mem_cons, List.not_mem_nil, or_false] at listed
    rcases listed with rfl | rfl <;> cases internal

/-- `set_phase` needs a state without evidence, and a stage that calls for that phase. What is
published is known by its stage only, so the postcondition is asked for every sound state. -/
theorem safe_setPhase {stage : Stage} {held ending : Bool} (phase : ServerPhase) (later : Stage)
    {post : Unit → Stance → Prop}
    (legal : Stance.legal ⟨stage, lifecycle, child, held, none, ending⟩ (.setPhase phase) = true)
    (admitted : (Transition.setPhase phase).admits lifecycle = true)
    (leads : ∀ now, Stance.published ⟨stage, lifecycle, child, held, none, ending⟩
      ((Transition.setPhase phase).target lifecycle now) (.setPhase phase) = later)
    (published : ∀ next, Stance.Sound ⟨later, next, child, held, none, ending⟩ →
      post () ⟨later, next, child, held, none, ending⟩) :
    Safe (conduct rcon) (setPhase phase) post
      ⟨stage, lifecycle, child, held, none, ending⟩ := by
  simp only [setPhase, Program.bind_eq, safe_bind]
  exact safe_advance later legal admitted leads fun _ next _ sound => published next sound

/-- Only phases that are not part of a reconciliation exclude evidence. -/
theorem Stance.Sound.evidence_none {stance : Stance} (sound : stance.Sound)
    (owned : stance.lifecycle.phase ≠ .reconciling ∧ stance.lifecycle.phase ≠ .external ∧
      stance.lifecycle.phase ≠ .conflict) :
    stance.lifecycle.reconciliationEvidence = .none := by
  have valid := sound.wellFormed.evidence
  unfold LifecycleState.invariantHolds at valid
  split at valid <;> simp_all

/-- The supervisor stops and marks stopped only what it owns. -/
theorem Stance.Sound.admits_setPhase {stance : Stance} (sound : stance.Sound) (phase : ServerPhase)
    (target : phase = .stopped ∨ phase = .stopping)
    (owned : stance.lifecycle.phase ≠ .reconciling ∧ stance.lifecycle.phase ≠ .external ∧
      stance.lifecycle.phase ≠ .conflict) :
    (Transition.setPhase phase).admits stance.lifecycle = true := by
  have evidence := sound.evidence_none owned
  rcases target with rfl | rfl <;> simpa [Transition.admits] using evidence

/-- Leaving a cooldown without a launch. A pending retry is given up only for a
shutdown. -/
theorem safe_leaveCooldown {latched ending : Bool} (later : Stage) {post : Unit → Stance → Prop}
    (sound : (Stance.calm (.cooling latched) lifecycle child).Sound)
    (pressing : latched = true → ending = true)
    (leads : later = if ending then .closing else .parked)
    (reached : ∀ next, Stance.Sound ⟨later, next, child, false, none, ending⟩ →
      post () ⟨later, next, child, false, none, ending⟩) :
    Safe (conduct rcon) (setPhase .stopped) post
      ⟨.cooling latched, lifecycle, child, false, none, ending⟩ := by
  have cooldown : lifecycle.phase = .cooldown := sound.situated.1
  refine safe_setPhase .stopped later ?_ ?_ (fun _ => leads.symm) reached
  · cases latched <;> simp_all [Stance.legal]
  · exact sound.admits_setPhase .stopped (.inl rfl) (by simp [cooldown])

/-- A cooldown ends with a launch only when a retry is pending. The loop keeps the cooling
stage together with whether a retry was latched, and a shutdown closes it in each of its three
places. -/
theorem safe_waitForCooldown {retryAt : Instant} {retryPending : Bool}
    {post : CooldownOutcome → Stance → Prop}
    (sound : (Stance.calm (.cooling retryPending) lifecycle child).Sound)
    (launch : (Stance.calm (.cooling true) lifecycle child).Sound →
      post .launch (.calm (.cooling true) lifecycle child))
    (stopped : ∀ next, (Stance.calm .parked next child).Sound →
      post .stopped (.calm .parked next child))
    (shutdown : ∀ next, (Stance.ended .closing next child).Sound →
      post .shutdown (.ended .closing next child)) :
    Safe (conduct rcon) (waitForCooldown retryAt retryPending) post
      (.calm (.cooling retryPending) lifecycle child) := by
  refine safe_loop (fun pending stance => stance = .calm (.cooling pending) lifecycle child ∧
    stance.Sound) ⟨rfl, sound⟩ ?_
  rintro pending _ ⟨rfl, sound⟩
  simp only [Program.bind_eq, safe_bind]
  refine safe_shutdownPending_steady ⟨rfl, rfl⟩ (fun _ => ?_) ?_
  · simp only [if_true, safe_bind]
    exact safe_leaveCooldown .closing sound (fun _ => rfl) rfl shutdown
  · simp only [Bool.false_eq_true, if_false, safe_bind]
    refine safe_now fun now => ?_
    split
    · cases pending with
      | true => exact launch sound
      | false =>
        simp only [Bool.false_eq_true, if_false, safe_bind]
        exact safe_leaveCooldown .parked sound (by simp) rfl stopped
    · simp only [safe_bind]
      refine safe_select ?_ (fun _ _ => ?_) (fun _ _ => ?_) ?_ ?_
      · simp [Stance.permits, Stage.suspends, Stance.allows, Source.channel]
      · simp only [safe_bind]
        exact safe_leaveCooldown .closing sound (fun _ => rfl) rfl shutdown
      · simp only [safe_bind]
        exact safe_leaveCooldown .closing sound (fun _ => rfl) rfl shutdown
      · intro _ request
        simp only [safe_bind]
        refine safe_currentLifecycle (safe_answer rfl fun answered => ?_)
        cases accepted : (request.requestsRetry lifecycle && !pending) with
        | true =>
          simp only [accepted, if_true, Bool.or_true] at answered ⊢
          exact ⟨rfl, answered⟩
        | false =>
          simp only [Bool.or_false, Bool.false_eq_true, if_false]
          exact ⟨rfl, sound⟩
      · intro event offered _
        cases event <;> simp [Source.offers, Source.channel] at offered
        exact ⟨rfl, sound⟩

end Control

end McServerNap
