import McServerNap.Demand

/-!
# Launches

A launch comes directly after a clean probe of the final gate that was begun for
a demand already accepted, and never while an earlier child is alive. Each
attempt belongs to one generation, and the requests that led to it observed that
generation.
-/

namespace McServerNap

open Interaction

/-- The event is the completion of an await. -/
def Happening.awaits : Happening → Bool
  | .issued (.select _) _ => true
  | _ => false

/-- The event is the completion of a probe. -/
def Happening.probes : Happening → Bool
  | .issued (.select _) (.probe _) => true
  | _ => false

/-- The event publishes or launches. -/
def Happening.advances : Happening → Bool
  | .issued (.publish _ _) _ | .issued .launch _ => true
  | _ => false

/-- A final gate has begun with the state now published, for a demand accepted
before, and none of its probes has completed. -/
def GateBegun (current : LifecycleState) (history : List Happening) : Prop :=
  ∃ waiting before, history = waiting ++ .issued (.publish .beginReconciliation current) () :: before ∧
    (∀ happening ∈ waiting, Happening.probes happening = false ∧
      Happening.advances happening = false) ∧ undecided before ≠ []

/-- The gate's probe has completed with this observation, and no await came after. -/
def GateProbed (current : LifecycleState) (observation : ProbeObservation)
    (history : List Happening) : Prop :=
  ∃ checks sources before, history = checks ++ .issued (.select sources) (.probe observation) :: before ∧
    (∀ happening ∈ checks, Happening.awaits happening = false ∧
      Happening.advances happening = false) ∧ GateBegun current before

/-- What the stages of the final gate say about the history. -/
def Stage.gateRecorded (rcon : Bool) (current : LifecycleState) (history : List Happening) :
    Stage → Prop
  | .gate => GateBegun current history
  | .gateProbed classification | .gateOpen classification | .gateCleared classification =>
    ∃ observation, (reconciliationProbe rcon observation).classification = classification ∧
      GateProbed current observation history
  | _ => True

/-- A gate stays begun while nothing is probed or published. -/
theorem GateBegun.cons {current : LifecycleState} {history : List Happening}
    {happening : Happening} (begun : GateBegun current history)
    (quiet : Happening.probes happening = false ∧ Happening.advances happening = false) :
    GateBegun current (happening :: history) := by
  obtain ⟨waiting, before, rfl, silent, demanded⟩ := begun
  exact ⟨happening :: waiting, before, rfl, List.forall_mem_cons.mpr ⟨quiet, silent⟩, demanded⟩

/-- What the probe has found stands while nothing is waited for or published. -/
theorem GateProbed.cons {current : LifecycleState} {observation : ProbeObservation}
    {history : List Happening} {happening : Happening}
    (probed : GateProbed current observation history)
    (quiet : Happening.awaits happening = false ∧ Happening.advances happening = false) :
    GateProbed current observation (happening :: history) := by
  obtain ⟨checks, sources, before, rfl, silent, begun⟩ := probed
  exact ⟨happening :: checks, sources, before, rfl, List.forall_mem_cons.mpr ⟨quiet, silent⟩, begun⟩

/-- An event that neither completes an await nor publishes leaves a gate's record
in place, also when a check moves the gate on. -/
theorem Stage.gateRecorded.cons {rcon : Bool} {current : LifecycleState}
    {history : List Happening} {happening : Happening} {stage : Stage}
    (recorded : stage.gateRecorded rcon current history)
    (quiet : Happening.awaits happening = false ∧ Happening.advances happening = false)
    (later : Stage) (moved : later = stage ∨ later = stage.opened ∨ later = stage.cleared ∨
      later = stage.latch) : later.gateRecorded rcon current (happening :: history) := by
  have silent : Happening.probes happening = false ∧ Happening.advances happening = false := by
    refine ⟨?_, quiet.2⟩
    obtain ⟨unawaited, -⟩ := quiet
    cases happening with
    | moved => rfl
    | issued op reply =>
      cases op with
      | select => cases unawaited
      | _ => rfl
  have carried : stage.gateRecorded rcon current (happening :: history) := by
    cases stage with
    | gate => exact GateBegun.cons recorded silent
    | gateProbed | gateOpen | gateCleared =>
      obtain ⟨observation, classified, probed⟩ := recorded
      exact ⟨observation, classified, probed.cons quiet⟩
    | _ => trivial
  rcases moved with rfl | rfl | rfl | rfl
  · exact carried
  all_goals cases stage <;> exact carried

/-- Outside the final gate there is nothing to record. -/
theorem Stage.gateRecorded.outside {rcon : Bool} {current : LifecycleState}
    {history : List Happening} {stage : Stage} (outside : stage.demanding = false ∨
      stage = .demanded ∨ (∃ latched, stage = .cooling latched)) :
    stage.gateRecorded rcon current history := by
  cases stage <;> first | trivial | simp [Stage.demanding] at outside

/-- Only the beginning of a reconciliation leads into the final gate. Every other publication
leaves a stage without a demand, with one, or in a cooldown. -/
theorem Stance.published_outside (stance : Stance) (next : LifecycleState)
    {transition : Transition} (other : transition ≠ .beginReconciliation) :
    (stance.published next transition).demanding = false ∨
      stance.published next transition = .demanded ∨
      ∃ latched, stance.published next transition = .cooling latched := by
  cases transition with
  | beginReconciliation => exact absurd rfl other
  | publishStoppedAfterCleanReconciliation =>
    simp only [Stance.published]
    split
    · exact .inr (.inl rfl)
    · exact .inl rfl
  | finishFailureCleanup => exact .inr (.inr ⟨_, rfl⟩)
  | setPhase phase =>
    simp only [Stance.published]
    repeat' split
    all_goals first | exact .inl rfl | exact .inr (.inl rfl)
  | _ => exact .inl rfl

/-- Each operation keeps the history that the stage stands for: beginning a gate, probing in it
and clearing it are entered as they happen, and any other operation leaves it or leads out of the
gate. -/
theorem Stage.gateRecorded.issued {history : List Happening} {stance : Stance} {rcon : Bool}
    {op : Op} (reply : Reply op)
    (recorded : stance.stage.gateRecorded rcon stance.lifecycle history)
    (contributed : Contributed history stance) (permitted : stance.permits op) :
    (stance.after rcon op reply).stage.gateRecorded rcon (stance.after rcon op reply).lifecycle
      (.issued op reply :: history) := by
  cases op with
  | publish transition next =>
    by_cases begins : transition = .beginReconciliation
    · subst begins
      obtain ⟨-, legal, -⟩ := permitted
      have demanding : stance.stage.demanding = true := by
        simp only [Stance.legal, Bool.and_eq_true, Bool.or_eq_true, decide_eq_true_eq] at legal
        rcases legal.1 with stage | stage <;> rw [stage] <;> rfl
      have begun : GateBegun next (.issued (.publish .beginReconciliation next) () :: history) :=
        ⟨[], history, List.nil_append _, List.forall_mem_nil _, contributed.waiting demanding⟩
      exact begun
    · exact Stage.gateRecorded.outside (stance.published_outside next begins)
  | answer request accepted =>
    cases accepted with
    | true => exact recorded.cons ⟨rfl, rfl⟩ _ (.inr (.inr (.inr rfl)))
    | false => exact recorded.cons ⟨rfl, rfl⟩ _ (.inl rfl)
  | wakesClosed =>
    cases reply with
    | true => exact recorded.cons ⟨rfl, rfl⟩ _ (.inl rfl)
    | false => exact recorded.cons ⟨rfl, rfl⟩ _ (.inr (.inl rfl))
  | tryRecvShutdown =>
    cases reply with
    | empty => exact recorded.cons ⟨rfl, rfl⟩ _ (.inr (.inr (.inl rfl)))
    | received | closed => exact recorded.cons ⟨rfl, rfl⟩ _ (.inl rfl)
  | launch => cases reply <;> trivial
  | select sources =>
    have suspends := permitted.2.1
    obtain ⟨stage, lifecycle, child, held, offer, ending⟩ := stance
    cases stage with
    | gate =>
      have begun : GateBegun lifecycle history := recorded
      cases reply with
      | probe observation =>
        have probed : GateProbed lifecycle observation
            (.issued (.select sources) (.probe observation) :: history) :=
          ⟨[], sources, history, List.nil_append _, List.forall_mem_nil _, begun⟩
        exact ⟨observation, rfl, probed⟩
      | wake request => cases request <;> exact begun.cons ⟨rfl, rfl⟩
      | child result => cases result <;> exact begun.cons ⟨rfl, rfl⟩
      | kill ok => cases ok <;> exact begun.cons ⟨rfl, rfl⟩
      | _ => exact begun.cons ⟨rfl, rfl⟩
    | gateProbed | gateOpen | gateCleared => cases suspends
    | _ =>
      cases reply with
      | wake request => cases request <;> trivial
      | child result => cases result <;> trivial
      | kill ok => cases ok <;> trivial
      | _ => trivial
  | tryRecvWake => cases reply <;> exact recorded.cons ⟨rfl, rfl⟩ _ (.inl rfl)
  | tryWait => cases reply <;> exact recorded.cons ⟨rfl, rfl⟩ _ (.inl rfl)
  | now | currentLifecycle | beginCycle | activitySnapshot | releaseExclusive | exit =>
    exact recorded.cons ⟨rfl, rfl⟩ _ (.inl rfl)
  | panic => cases reply

/-- The phases that are published only without a living child. -/
def ServerPhase.settled : ServerPhase → Bool
  | .stopped | .cooldown | .external | .conflict => true
  | _ => false

/-- No stage that keeps a child alive shows a settled phase. -/
theorem Stance.Sound.settled {stance : Stance} (sound : stance.Sound)
    (settled : stance.lifecycle.phase.settled = true) : stance.child ≠ .live := by
  have situation := sound.situated
  obtain ⟨stage, lifecycle, child, held, offer, ending⟩ := stance
  cases stage with
  | stopping cause latched =>
    rw [sound.phase_stopping] at settled
    cases settled
  | owned => rcases situation with phase | phase <;> simp_all [ServerPhase.settled]
  | _ => simp_all [Stance.situated, ServerPhase.settled]

/-- A launch is called only without a living child, and directly after a gate's
probe in which every endpoint refused, begun after its demand was accepted and
without remembered positive evidence. A settled phase is published, and a run
ends without an error, only without a living child. -/
theorem launch_follows_clean_gate {config : SupervisorConfig} {start : Instant}
    {history : History platform} {program : Supervised Unit} {world : World}
    (reached : Reaches platform (run config) (World.initial start) history program world) :
    (program.pending = some .launch → world.child ≠ .live ∧
      world.lifecycle.reconciliationEvidence ≠ .positive ∧
      ∃ observation, GateProbed world.lifecycle observation history ∧
        observation.backend = .refused ∧
        (config.rcon = true → observation.rconConnection = .refused)) ∧
    (∀ transition next, program.pending = some (.publish transition next) →
      next.phase.settled = true → world.child ≠ .live) ∧
    (program.pending = some (.exit (.ok ())) → world.child ≠ .live) := by
  obtain ⟨stance, watched, remaining⟩ := run_follows reached
  obtain ⟨sound, lifecycle, child, -⟩ :=
    watched.related (coupled config.rcon) (initial_coupled config.rcon start)
  obtain ⟨-, recorded⟩ := watched.always (coupled config.rcon)
    (initial_coupled config.rcon start)
    (fun history stance _ => Contributed history stance ∧
      stance.stage.gateRecorded config.rcon stance.lifecycle history)
    ⟨⟨nofun, nofun, nofun, fun undecided => absurd rfl undecided⟩, trivial⟩
    (fun accounted related permitted _ => ⟨accounted.1.issued _ related.1 permitted,
      accounted.2.issued _ accounted.1 permitted⟩)
    (fun accounted _ _ _ => ⟨accounted.1.steady rfl rfl rfl rfl id,
      accounted.2.cons ⟨rfl, rfl⟩ _ (.inl rfl)⟩)
  rw [← child, ← lifecycle]
  refine ⟨fun waits => ?_, fun transition next waits settled => ?_, fun waits => ?_⟩
  · obtain ⟨-, cleared, unknown, -⟩ := remaining.pending_permitted _ waits
    rw [cleared] at recorded
    obtain ⟨observation, classified, probed⟩ := recorded
    obtain ⟨backend, rcon⟩ := (classification_clean_iff config.rcon observation).mp classified
    refine ⟨sound.unowned ?_, unknown, observation, probed, backend, fun used => (rcon used).2⟩
    rw [cleared]
    trivial
  · obtain ⟨-, legal, admitted, now, rfl⟩ := remaining.pending_permitted _ waits
    have later : Stance.Sound { stance with
        stage := stance.published (transition.target stance.lifecycle now) transition
        lifecycle := transition.target stance.lifecycle now } :=
      ⟨sound.target_wellFormed legal admitted now, sound.situated_published legal admitted now⟩
    exact later.settled settled
  · exact ((remaining.pending_permitted _ waits).2 rfl).2

/-- The first launch of a run is what the supervisor is about to do here: no child lives, and the
gate behind its demand found every endpoint refused. -/
theorem first_launch_follows_clean_gate :
    let launching := rehearsal (exampleConfig true) (untilReady.take 7)
    launching.world.child ≠ .live ∧
      launching.world.lifecycle.reconciliationEvidence ≠ .positive ∧
      ∃ observation, GateProbed launching.world.lifecycle observation launching.history ∧
        observation.backend = .refused ∧
        ((exampleConfig true).rcon = true → observation.rconConnection = .refused) :=
  (launch_follows_clean_gate (rehearsal_reached (exampleConfig true) (untilReady.take 7))).1
    (by decide +kernel)

end McServerNap
