import McServerNap.Publications

/-!
# Accepted demand and the launch generation

Every accepted request observed the generation it is accepted in, and a
generation ends with the launch attempt or the block that decides its demand. So
no request contributes to two attempts. The history's own counts are related to
the published counter here; the counter wraps, which the relation keeps in view.
-/

namespace McServerNap

open Interaction

/-- An operation changes the waiting demands when it accepts one, and when it launches or
publishes a consuming block. -/
theorem undecided_issued (op : Op) (reply : Reply op) (earlier : List Happening) :
    undecided (.issued op reply :: earlier) =
      match op with
      | .answer request accepted =>
        if accepted then request :: undecided earlier else undecided earlier
      | .launch => []
      | .publish transition _ => if transition.consumes then [] else undecided earlier
      | _ => undecided earlier := by
  cases op <;> rfl

/-- A launch is an attempt, whether it succeeds or not. -/
theorem attempts_issued (op : Op) (reply : Reply op) (earlier : List Happening) :
    attempts (.issued op reply :: earlier) =
      match op with
      | .launch => attempts earlier + 1
      | _ => attempts earlier := by
  cases op <;> rfl

/-- A block counts when its publication consumes the demand. -/
theorem blocks_issued (op : Op) (reply : Reply op) (earlier : List Happening) :
    blocks (.issued op reply :: earlier) =
      match op with
      | .publish transition _ => if transition.consumes then blocks earlier + 1 else blocks earlier
      | _ => blocks earlier := by
  cases op <;> rfl

/-- A launch is unrecorded until the next publication that records one. -/
theorem unrecorded_issued (op : Op) (reply : Reply op) (earlier : List Happening) :
    unrecorded (.issued op reply :: earlier) =
      match op with
      | .launch => true
      | .publish _ _ => false
      | _ => unrecorded earlier := by
  cases op <;> rfl

/-- A launch was attempted and is to be recorded next. -/
def Stage.attemptedLaunch : Stage → Bool
  | .launched | .launchFailed => true
  | _ => false

/-- Only a launch leads to a stage that records one, and only a publication leads
out of it. -/
theorem Stance.after_attemptedLaunch (rcon : Bool) (stance : Stance) (op : Op) (reply : Reply op) :
    (stance.after rcon op reply).stage.attemptedLaunch =
      match op with
      | .launch => true
      | .publish _ _ => false
      | _ => stance.stage.attemptedLaunch := by
  obtain ⟨stage, lifecycle, child, held, offer, ending⟩ := stance
  cases op with
  | publish transition next =>
    cases transition with
    | publishStoppedAfterCleanReconciliation =>
      cases latched : stage.demanding <;>
        simp [Stance.after, Stance.published, latched, Stage.attemptedLaunch]
    | setPhase phase =>
      cases stage with
      | stopping cause latched =>
        cases cause <;> cases ending <;> cases latched <;> rfl
      | cooling latched => cases ending <;> rfl
      | _ => rfl
    | _ => rfl
  | launch => cases reply <;> rfl
  | answer request accepted => cases accepted <;> cases stage <;> rfl
  | wakesClosed => cases reply <;> cases stage <;> rfl
  | tryRecvShutdown => cases reply <;> cases stage <;> rfl
  | tryRecvWake | tryWait => cases reply <;> rfl
  | select sources =>
    cases reply with
    | probe observation => cases stage <;> rfl
    | wake request => cases request <;> rfl
    | child result => cases result <;> rfl
    | kill ok => cases ok <;> rfl
    | _ => rfl
  | _ => rfl

/-- The published counter is the number of attempts and consuming blocks, except
between a launch and its record. -/
structure Counted (history : List Happening) (stance : Stance) : Prop where
  bounded : stance.lifecycle.launchGeneration < 2 ^ 64
  unrecorded : unrecorded history = stance.stage.attemptedLaunch
  generation : (attempts history + blocks history) % 2 ^ 64 =
    if stance.stage.attemptedLaunch then wrappingSucc stance.lifecycle.launchGeneration
    else stance.lifecycle.launchGeneration

/-- The generation a publication carries. -/
theorem Transition.target_generation (transition : Transition) (current : LifecycleState)
    (now : Instant) : (transition.target current now).launchGeneration =
      if transition.records || transition.consumes then wrappingSucc current.launchGeneration
      else current.launchGeneration := by
  cases transition <;> simp [target, records, consumes]

/-- Launches are recorded where they were attempted, and nowhere else. -/
theorem Stance.legal_records {stance : Stance} {transition : Transition}
    (legal : stance.legal transition = true) :
    transition.records = stance.stage.attemptedLaunch ∧
      (transition.consumes = true → stance.stage.attemptedLaunch = false) := by
  obtain ⟨stage, lifecycle, child, held, offer, ending⟩ := stance
  cases transition <;> cases stage <;>
    simp_all [Stance.legal, Transition.records, Transition.consumes, Stage.attemptedLaunch]

/-- The counter keeps up with the history: a launch is one ahead of it, and its record or a
consuming block brings it level again. -/
theorem Counted.issued {history : List Happening} {stance : Stance} {rcon : Bool} {op : Op}
    (reply : Reply op) (counted : Counted history stance) (permitted : stance.permits op) :
    Counted (.issued op reply :: history) (stance.after rcon op reply) := by
  obtain ⟨bounded, unrecorded, generation⟩ := counted
  refine ⟨?_, ?_, ?_⟩
  · rw [Stance.after_lifecycle]
    cases op with
    | publish transition next =>
      obtain ⟨-, -, -, now, rfl⟩ := permitted
      simp only [transition.target_generation]
      split
      · exact Nat.mod_lt _ (by decide)
      · exact bounded
    | _ => exact bounded
  · rw [unrecorded_issued, Stance.after_attemptedLaunch]
    cases op <;> first | rfl | exact unrecorded
  · rw [Stance.after_attemptedLaunch, Stance.after_lifecycle, attempts_issued, blocks_issued]
    cases op with
    | launch =>
      rw [permitted.2.1] at generation
      simp only [Stage.attemptedLaunch, Bool.false_eq_true, if_false] at generation
      simp only [wrappingSucc, if_true]
      omega
    | publish transition next =>
      obtain ⟨-, legal, -, now, rfl⟩ := permitted
      obtain ⟨records, consumes⟩ := Stance.legal_records legal
      simp only [transition.target_generation]
      cases consuming : transition.consumes with
      | true =>
        rw [consumes consuming] at generation
        simp only [wrappingSucc, Bool.or_true, if_true, Bool.false_eq_true, if_false] at generation ⊢
        omega
      | false =>
        rw [records]
        simpa using generation
    | _ => exact generation

/-- A request is accepted only in the generation it observed, by a client that saw
a phase in which it could be needed. -/
theorem Stance.Sound.accepted_generation {stance : Stance} (sound : stance.Sound)
    {request : WakeRequest} (accepted : stance.stage.accepts stance.lifecycle request = true) :
    request.observed.launchGeneration = stance.lifecycle.launchGeneration ∧
      World.wakes request.observed.phase = true := by
  have situation := sound.situated
  obtain ⟨stage, lifecycle, child, held, offer, ending⟩ := stance
  cases stage with
  | startup latched =>
    simp only [Stage.accepts, Bool.and_eq_true, decide_eq_true_eq] at accepted
    obtain ⟨reconciling, -⟩ : lifecycle.phase = .reconciling ∧ _ := situation
    rw [accepted.2]
    exact ⟨rfl, by simp [World.wakes, reconciling]⟩
  | parked =>
    simp only [Stage.accepts, WakeRequest.canStart, WakeRequest.requestsConflictReconciliation,
      Bool.or_eq_true, Bool.and_eq_true, decide_eq_true_eq] at accepted
    rcases accepted with ⟨⟨-, generation⟩, phase⟩ | ⟨conflict, same⟩
    · refine ⟨generation, ?_⟩
      rcases phase with ((phase | phase) | phase) | phase <;> simp [World.wakes, phase]
    · rw [same]
      exact ⟨rfl, by simp [World.wakes, conflict]⟩
  | stopping cause latched =>
    cases cause with
    | quit => cases accepted
    | failed retryDelay =>
      simp only [Stage.accepts, WakeRequest.requestsRetry, Bool.and_eq_true, Bool.or_eq_true,
        decide_eq_true_eq] at accepted
      obtain ⟨⟨⟨-, generation⟩, phase⟩, -⟩ := accepted
      refine ⟨generation, ?_⟩
      rcases phase with phase | phase <;> simp [World.wakes, phase]
    | idle =>
      simp only [Stage.accepts, WakeRequest.requestsRestart, Bool.and_eq_true,
        decide_eq_true_eq] at accepted
      rw [accepted.2]
      exact ⟨rfl, by simp [World.wakes, accepted.1.1]⟩
  | cooling latched =>
    simp only [Stage.accepts, WakeRequest.requestsRetry, Bool.and_eq_true, Bool.or_eq_true,
      decide_eq_true_eq] at accepted
    obtain ⟨⟨⟨⟨-, generation⟩, phase⟩, -⟩, -⟩ := accepted
    refine ⟨generation, ?_⟩
    rcases phase with phase | phase <;> simp [World.wakes, phase]
  | _ => cases accepted

/-- A publication that consumes no demand keeps what is latched, unless the supervisor is ending.
The stages that hold a demand are the ones that the cases name. -/
theorem Stance.Sound.published_demanding {stance : Stance} (sound : stance.Sound)
    (next : LifecycleState) {transition : Transition} (legal : stance.legal transition = true)
    (spared : transition.consumes = false) :
    (stance.published next transition).demanding = stance.stage.demanding ∨
      (stance.published next transition).demanding = false ∧ stance.ending = true := by
  have situation := sound.situated
  obtain ⟨stage, lifecycle, child, held, offer, ending⟩ := stance
  cases transition with
  | setPhase phase =>
    cases stage with
    | stopping cause latched =>
      cases cause <;> cases ending <;> cases latched <;>
        simp_all [Stance.legal, Stance.situated, Stance.published, Stage.demanding]
    | cooling latched =>
      cases ending <;> cases latched <;>
        simp_all [Stance.legal, Stance.published, Stage.demanding]
    | owned | parked => exact .inl rfl
    | _ => cases legal
  | publishStoppedAfterCleanReconciliation =>
    left
    simp only [Stance.published]
    cases stage.demanding <;> rfl
  | publishExternal consumeDemand | publishConflict evidence consumeDemand =>
    obtain rfl : consumeDemand = false := spared
    left
    cases stage with
    | startupProbed latched classification =>
      cases classification <;> simp_all [Stance.legal, Stance.published, Stage.demanding]
    | gateCleared classification => cases classification <;> simp [Stance.legal] at legal
    | parked => rfl
    | _ => cases legal
  | beginReconciliation =>
    simp only [Stance.legal, Bool.and_eq_true, Bool.or_eq_true, decide_eq_true_eq] at legal
    rcases legal.1 with rfl | rfl <;> exact .inl rfl
  | _ =>
    cases stage <;> simp_all [Stance.legal, Stance.published, Stage.demanding]

/-- What the undecided requests have in common, and how the stage shows them. -/
structure Contributed (history : List Happening) (stance : Stance) : Prop where
  observed : ∀ request ∈ undecided history,
    request.observed.launchGeneration = stance.lifecycle.launchGeneration ∧
      World.wakes request.observed.phase = true
  attempted : stance.stage.attemptedLaunch = true → undecided history = []
  waiting : stance.stage.demanding = true → undecided history ≠ []
  kept : undecided history ≠ [] → stance.stage.demanding = true ∨ stance.ending = true

/-- Whatever does not touch the stage's demand leaves the invariant alone. Most operations are of
this kind, and need only to show that these four things stay. -/
theorem Contributed.steady {history later : List Happening} {stance after : Stance}
    (contributed : Contributed history stance) (same : undecided later = undecided history)
    (lifecycle : after.lifecycle = stance.lifecycle)
    (attempted : after.stage.attemptedLaunch = stance.stage.attemptedLaunch)
    (demanding : after.stage.demanding = stance.stage.demanding)
    (ending : stance.ending = true → after.ending = true) : Contributed later after where
  observed := by
    rw [same, lifecycle]
    exact contributed.observed
  attempted := by
    rw [same, attempted]
    exact contributed.attempted
  waiting := by
    rw [same, demanding]
    exact contributed.waiting
  kept := by
    rw [same, demanding]
    exact fun undecided => (contributed.kept undecided).imp_right ending

/-- Latching makes an accepting stage demand. -/
theorem Stage.latch_demanding {stage : Stage} {current : LifecycleState} {request : WakeRequest}
    (accepted : stage.accepts current request = true) : stage.latch.demanding = true := by
  cases stage <;> first | rfl | cases accepted

section Steps

/-- Finding the wake channel open decides no demand. -/
@[simp] theorem Stage.opened_demanding (stage : Stage) :
    stage.opened.demanding = stage.demanding := by
  cases stage <;> rfl

/-- Nor does finding that no shutdown was sent. -/
@[simp] theorem Stage.cleared_demanding (stage : Stage) :
    stage.cleared.demanding = stage.demanding := by
  cases stage <;> rfl

/-- Nor does what a probe finds. -/
@[simp] theorem Stage.probed_demanding (stage : Stage)
    (classification : ReconciliationClassification) :
    (stage.probed classification).demanding = stage.demanding := by
  cases stage <;> rfl

/-- Demand is latched by an answer and settled by a launch or a publication. Anything else leaves
the stage's demand alone, and a shutdown that was observed stays so. -/
theorem Stance.after_demanding (rcon : Bool) (stance : Stance) {op : Op} (reply : Reply op)
    (unlaunched : op ≠ .launch) (unpublished : ∀ transition next, op ≠ .publish transition next)
    (unanswered : ∀ request accepted, op ≠ .answer request accepted) :
    (stance.after rcon op reply).stage.demanding = stance.stage.demanding ∧
      (stance.ending = true → (stance.after rcon op reply).ending = true) := by
  cases op with
  | launch => exact absurd rfl unlaunched
  | publish transition next => exact absurd rfl (unpublished transition next)
  | answer request accepted => exact absurd rfl (unanswered request accepted)
  | wakesClosed =>
    cases reply with
    | true => exact ⟨rfl, fun _ => rfl⟩
    | false => exact ⟨Stage.opened_demanding _, id⟩
  | tryRecvShutdown =>
    cases reply with
    | empty => exact ⟨Stage.cleared_demanding _, id⟩
    | received | closed => exact ⟨rfl, fun _ => rfl⟩
  | tryRecvWake =>
    cases reply with
    | disconnected => exact ⟨rfl, fun _ => rfl⟩
    | received | empty => exact ⟨rfl, id⟩
  | tryWait => cases reply <;> exact ⟨rfl, id⟩
  | select sources =>
    cases reply with
    | probe observation => exact ⟨Stage.probed_demanding _ _, id⟩
    | shutdown => exact ⟨rfl, fun _ => rfl⟩
    | wake request =>
      cases request with
      | none => exact ⟨rfl, fun _ => rfl⟩
      | some request => exact ⟨rfl, id⟩
    | child result => cases result <;> exact ⟨rfl, id⟩
    | kill ok => cases ok <;> exact ⟨rfl, id⟩
    | _ => exact ⟨rfl, id⟩
  | panic => cases reply
  | _ => exact ⟨rfl, id⟩

variable {history : List Happening} {stance : Stance} {rcon : Bool}

/-- What neither answers, launches nor publishes contributes nothing and decides nothing. This
covers all other operations at once. -/
theorem Contributed.unconcerned {op : Op} (reply : Reply op)
    (contributed : Contributed history stance) (unlaunched : op ≠ .launch)
    (unpublished : ∀ transition next, op ≠ .publish transition next)
    (unanswered : ∀ request accepted, op ≠ .answer request accepted) :
    Contributed (.issued op reply :: history) (stance.after rcon op reply) := by
  obtain ⟨demanding, ending⟩ :=
    stance.after_demanding rcon reply unlaunched unpublished unanswered
  have attempted := stance.after_attemptedLaunch rcon op reply
  have lifecycle := stance.after_lifecycle rcon op reply
  have same := undecided_issued op reply history
  cases op with
  | launch => exact absurd rfl unlaunched
  | publish transition next => exact absurd rfl (unpublished transition next)
  | answer request accepted => exact absurd rfl (unanswered request accepted)
  | _ => exact contributed.steady same lifecycle attempted demanding ending

/-- A launch decides everything, and its stage is one that demands nothing. -/
theorem Contributed.launched (success : Bool) :
    Contributed (.issued .launch success :: history) (stance.after rcon .launch success) where
  observed := by rintro _ ⟨⟩
  attempted _ := rfl
  waiting demanding := by cases success <;> cases demanding
  kept undecided := absurd rfl undecided

/-- A consuming publication decides everything, and parks the supervisor. -/
theorem Contributed.blocked {transition : Transition} {next : LifecycleState} (reply : Unit)
    (consumes : transition.consumes = true) :
    Contributed (.issued (.publish transition next) reply :: history)
      (stance.after rcon (.publish transition next) reply) := by
  have decided : undecided (.issued (.publish transition next) reply :: history) = [] := by
    rw [undecided_issued]
    simp [consumes]
  refine ⟨by simp [decided], fun _ => decided, fun demanding => ?_, by simp [decided]⟩
  cases transition with
  | publishExternal | publishConflict => cases demanding
  | _ => cases consumes

/-- Any other publication decides nothing. It keeps the generation, because nothing can be
undecided between a launch and its record, and it keeps the demand that is latched. -/
theorem Contributed.published {transition : Transition} {now : Instant} (reply : Unit)
    (contributed : Contributed history stance) (sound : stance.Sound)
    (legal : stance.legal transition = true) (spares : transition.consumes = false) :
    Contributed
      (.issued (.publish transition (transition.target stance.lifecycle now)) reply :: history)
      (stance.after rcon (.publish transition (transition.target stance.lifecycle now))
        reply) := by
  have same : undecided (.issued (.publish transition
      (transition.target stance.lifecycle now)) reply :: history) = undecided history := by
    rw [undecided_issued]
    simp [spares]
  have demanded := sound.published_demanding (transition.target stance.lifecycle now) legal spares
  refine ⟨fun request listed => ?_, fun launched => ?_, fun demanding => ?_, fun undecided => ?_⟩
  · rw [same] at listed
    have observed := contributed.observed request listed
    have unattempted : stance.stage.attemptedLaunch = false := by
      cases launching : stance.stage.attemptedLaunch with
      | false => rfl
      | true =>
        rw [contributed.attempted launching] at listed
        cases listed
    have generation := transition.target_generation stance.lifecycle now
    rw [(Stance.legal_records legal).1, unattempted, spares] at generation
    exact ⟨observed.1.trans generation.symm, observed.2⟩
  · rw [Stance.after_attemptedLaunch] at launched
    cases launched
  · rw [same]
    rcases demanded with steady | ⟨dropped, -⟩
    · exact contributed.waiting (steady ▸ demanding)
    · exact absurd (dropped ▸ demanding) (by simp)
  · rw [same] at undecided
    rcases contributed.kept undecided with demanding | ending
    · rcases demanded with steady | ⟨-, ending⟩
      · exact .inl (steady.trans demanding)
      · exact .inr ending
    · exact .inr ending

/-- An accepted request joins the undecided ones, which observed the same generation. A refused
one changes nothing. -/
theorem Contributed.answered {request : WakeRequest} (reply : Unit)
    (contributed : Contributed history stance) (sound : stance.Sound) :
    let accepted := stance.stage.accepts stance.lifecycle request
    Contributed (.issued (.answer request accepted) reply :: history)
      (stance.after rcon (.answer request accepted) reply) := by
  cases accepted : stance.stage.accepts stance.lifecycle request with
  | true =>
    have demanding := Stage.latch_demanding accepted
    refine ⟨?_, fun launched => ?_, fun _ => by rintro ⟨⟩, fun _ => .inl demanding⟩
    · exact List.forall_mem_cons.mpr ⟨sound.accepted_generation accepted, contributed.observed⟩
    · rw [Stance.after_attemptedLaunch] at launched
      cases stage : stance.stage <;> simp_all [Stage.accepts, Stage.attemptedLaunch]
  | false => exact contributed.steady rfl rfl rfl rfl id

/-- Whatever the supervisor does, the waiting requests stay of one generation, and the stage shows
whether there are any. The cases are the operations that can change either. -/
theorem Contributed.issued {op : Op} (reply : Reply op) (contributed : Contributed history stance)
    (sound : stance.Sound) (permitted : stance.permits op) :
    Contributed (.issued op reply :: history) (stance.after rcon op reply) := by
  cases op with
  | launch => exact .launched reply
  | publish transition next =>
    obtain ⟨-, legal, -, now, rfl⟩ := permitted
    cases consumes : transition.consumes with
    | true => exact .blocked reply consumes
    | false => exact contributed.published reply sound legal consumes
  | answer request accepted =>
    obtain ⟨-, rfl⟩ := permitted
    exact contributed.answered reply sound
  | _ =>
    exact contributed.unconcerned reply (by rintro ⟨⟩) (by rintro _ _ ⟨⟩) (by rintro _ _ ⟨⟩)

end Steps

/-- An unrecorded attempt is counted: it was made by a launch that the history holds. -/
theorem attempts_pos_of_unrecorded {history : List Happening} (pending : unrecorded history = true) :
    0 < attempts history := by
  induction history with
  | nil => cases pending
  | cons happening earlier inductionHypothesis =>
    cases happening with
    | moved waiting move => exact inductionHypothesis pending
    | issued op reply =>
      rw [attempts_issued]
      rw [unrecorded_issued] at pending
      cases op with
      | launch => exact Nat.succ_pos _
      | publish => cases pending
      | _ => exact inductionHypothesis pending

/-- Without going round, the counter is the number of attempts and blocks, less an
attempt that is not yet recorded. -/
theorem Counted.unwrapped {history : List Happening} {stance : Stance}
    (counted : Counted history stance) (small : attempts history + blocks history < 2 ^ 64) :
    stance.lifecycle.launchGeneration + (McServerNap.unrecorded history).toNat =
      attempts history + blocks history := by
  obtain ⟨bounded, unrecorded, generation⟩ := counted
  rw [Nat.mod_eq_of_lt small] at generation
  cases launching : stance.stage.attemptedLaunch with
  | true =>
    rw [launching] at unrecorded generation
    have counted := attempts_pos_of_unrecorded unrecorded
    simp only [if_true, wrappingSucc] at generation
    rw [unrecorded]
    simp only [Bool.toNat_true]
    omega
  | false =>
    rw [launching] at unrecorded generation
    rw [unrecorded, generation]
    rfl

end McServerNap
