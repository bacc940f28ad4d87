import McServerNap.Observations
import McServerNap.Wraparound

/-!
# Received demand is not lost

Every received request is answered before the supervisor turns to anything else.
A request of the current generation is accepted, unless a demand of that generation
is already latched or the backend is not the supervisor's. A latched demand is kept
until a launch or a block decides it, or a shutdown is observed.
-/

namespace McServerNap

open Interaction

/-- The stages in which requests arrive. -/
def Stage.receives : Stage → Bool
  | .startup _ | .parked | .gate | .owned | .stopping (.failed _) _ | .stopping .idle _
  | .cooling _ => true
  | _ => false

/-- The request that the event answers. -/
def Happening.answers : Happening → Option WakeRequest
  | .issued (.answer request _) _ => some request
  | _ => none

/-- The requests answered so far, newest first. -/
def answered (history : List Happening) : List WakeRequest :=
  history.filterMap Happening.answers

/-- Only an answer answers a request. -/
theorem answered_issued (op : Op) (reply : Reply op) (earlier : List Happening) :
    answered (.issued op reply :: earlier) =
      match op with
      | .answer request _ => request :: answered earlier
      | _ => answered earlier := by
  cases op <;> rfl

/-- The stance shows which request is unanswered, and whether a shutdown was observed. -/
structure Attentive (history : List Happening) (stance : Stance) : Prop where
  answered : received history = stance.offer.toList ++ answered history
  receiving : stance.offer ≠ none → stance.stage.receives = true
  ending : stance.ending = shutdownObserved history

/-- A wake is delivered by a select only to a stage that receives. -/
theorem Stance.receives_of_wake {stance : Stance} {sources : List Source} {request : WakeRequest}
    (permitted : stance.permits (.select sources))
    (offered : ∃ source ∈ sources, source.offers (.wake (some request)) = true) :
    stance.stage.receives = true := by
  obtain ⟨source, listed, offers⟩ := offered
  have allowed := permitted.2.2.2.1 source listed
  obtain ⟨stage, lifecycle, child, held, offer, ending⟩ := stance
  cases source <;> simp only [Source.offers, Bool.false_eq_true] at offers
  cases stage with
  | stopping cause latched => cases cause <;> simp_all [Stance.allows, Stage.receives]
  | _ => simp_all [Stance.allows, Stage.receives, Stage.suspends]

/-- Where requests arrive the stage only latches. -/
theorem Stage.receives_steady {stage : Stage} (receiving : stage.receives = true) :
    stage.opened = stage ∧ stage.cleared = stage := by
  cases stage <;> first | exact ⟨rfl, rfl⟩ | cases receiving

/-- Every delivery is taken while nothing is offered, so received requests and answered ones
differ by the offered one at most. -/
theorem balanced_issued {history : List Happening} {stance : Stance} {rcon : Bool}
    {op : Op} {reply : Reply op} (attentive : Attentive history stance)
    (permitted : stance.permits op) :
    received (.issued op reply :: history) =
      (stance.after rcon op reply).offer.toList ++ answered (.issued op reply :: history) := by
  rw [received_issued, answered_issued, attentive.answered]
  cases op with
  | select sources =>
    have vacant := permitted.1
    cases reply with
    | wake request =>
      cases request <;> simp [Stance.after, Stance.observed, Happening.delivers, vacant]
    | child result => cases result <;> rfl
    | kill ok => cases ok <;> rfl
    | _ => rfl
  | tryRecvWake =>
    have vacant := permitted.1
    cases reply <;> simp [Stance.after, Happening.delivers, vacant]
  | answer request accepted =>
    rw [permitted.1]
    rfl
  | wakesClosed | tryWait => cases reply <;> rfl
  | tryRecvShutdown => cases reply <;> rfl
  | panic => cases reply
  | _ => rfl

/-- A request is only offered at a stage that receives: no stage that refuses requests begins
before the offered one is answered. -/
theorem Attentive.receiving_issued {history : List Happening} {stance : Stance}
    {world after : World} {rcon : Bool} {op : Op} {reply : Reply op}
    (attentive : Attentive history stance) (permitted : stance.permits op)
    (performed : world.perform op reply = some after)
    (offered : (stance.after rcon op reply).offer ≠ none) :
    (stance.after rcon op reply).stage.receives = true := by
  have receiving := attentive.receiving
  cases op with
  | select sources =>
    simp only [World.perform] at performed
    split at performed
    · rename_i selected
      cases reply with
      | wake request =>
        cases request with
        | none => exact receiving offered
        | some request =>
          have receives := Stance.receives_of_wake permitted (World.selects_offers selected)
          exact receives
      | probe observation => exact absurd permitted.1 offered
      | child result => cases result <;> exact receiving offered
      | kill ok => cases ok <;> exact receiving offered
      | _ => exact receiving offered
    · cases performed
  | tryRecvWake =>
    obtain ⟨-, ⟨latched, stage⟩, -⟩ := permitted
    cases reply <;> simp [Stance.after, stage, Stage.receives]
  | wakesClosed =>
    cases reply with
    | true => exact receiving offered
    | false =>
      have arriving := receiving offered
      simpa [Stance.after, (Stage.receives_steady arriving).1] using arriving
  | tryRecvShutdown =>
    cases reply with
    | empty =>
      have arriving := receiving offered
      simpa [Stance.after, (Stage.receives_steady arriving).2] using arriving
    | received | closed => exact receiving offered
  | answer => exact absurd rfl offered
  | publish | launch => exact absurd permitted.1 offered
  | tryWait => cases reply <;> exact receiving offered
  | panic => cases reply
  | _ => exact receiving offered

/-- The supervisor stays attentive, whatever it does and is answered. -/
theorem Attentive.issued {history : List Happening} {stance : Stance} {world after : World}
    {rcon : Bool} {op : Op} {reply : Reply op} (attentive : Attentive history stance)
    (permitted : stance.permits op) (performed : world.perform op reply = some after) :
    Attentive (.issued op reply :: history) (stance.after rcon op reply) where
  answered := balanced_issued attentive permitted
  receiving := attentive.receiving_issued permitted performed
  ending := by
    rw [Stance.after_ending, attentive.ending]
    rfl

/-- At first nothing has been received. -/
theorem Attentive.start (start : Instant) : Attentive [] (.initial (.reconciling start)) where
  answered := rfl
  receiving := fun offered => absurd rfl offered
  ending := rfl

/-- A request of the current generation that was made by a client is accepted where
nothing is latched yet and the backend is the supervisor's. -/
theorem Stance.Sound.accepts_current {stance : Stance} (sound : stance.Sound)
    {request : WakeRequest} (receiving : stance.stage.receives = true)
    (current : request.observed.launchGeneration = stance.lifecycle.launchGeneration)
    (wakes : World.wakes request.observed.phase = true)
    (characterized : stance.stage.characterizes stance.lifecycle request.observed) :
    stance.stage.accepts stance.lifecycle request = true ∨ stance.stage.demanding = true ∨
      stance.lifecycle.phase = .external ∨ stance.lifecycle.phase = .conflict := by
  have situation := sound.situated
  obtain ⟨stage, lifecycle, child, held, offer, ending⟩ := stance
  cases stage with
  | startup latched =>
    have same : request.observed = lifecycle := characterized
    cases latched <;> simp [Stage.accepts, Stage.demanding, same]
  | parked =>
    rcases situation.1 with stopped | foreign
    · have unconflicted := characterized stopped
      left
      simp_all [Stage.accepts, WakeRequest.canStart, World.wakes]
    · exact .inr (.inr foreign)
  | gate => exact .inr (.inl rfl)
  | owned => cases characterized
  | stopping cause latched =>
    have same : request.observed = lifecycle := characterized
    left
    cases cause with
    | quit => cases receiving
    | failed retryDelay =>
      obtain ⟨stopping, failed, -⟩ := situation
      simp_all [Stage.accepts, WakeRequest.requestsRetry]
    | idle =>
      obtain ⟨stopping, unfailed⟩ := situation
      simp_all [Stage.accepts, WakeRequest.requestsRestart]
  | cooling latched =>
    obtain ⟨phase, failure, streak⟩ := characterized
    have cooldown := situation.1
    have failed := (sound.wellFormed.cooldown cooldown).1
    cases latched with
    | true => exact .inr (.inl rfl)
    | false =>
      left
      simp_all [Stage.accepts, WakeRequest.requestsRetry]
  | _ => cases receiving

/-- What a supervisor may do while it keeps a demand: wait for the end of a probe, a
stop or a cooldown, but not for another request; leave Stopped, Cooldown and Conflict
only for the final gate; answer the demand when it publishes a block; and not end. -/
def Op.retainsDemand (phase : ServerPhase) : Op → Prop
  | .select sources => (phase = .reconciling ∨ phase = .stopping ∨ phase = .cooldown) ∧
      ∃ source ∈ sources, source.channel = false
  | .publish transition next =>
    (phase = .stopped ∨ phase = .cooldown ∨ phase = .conflict →
      transition = .beginReconciliation) ∧
    (next.phase = .external ∨ next.phase = .conflict → transition.consumes = true)
  | .exit result => result ≠ .ok ()
  | _ => True

/-- A demanding stage retains its demand: whatever it waits for it keeps it latched, and what it
publishes either keeps it or decides it. -/
theorem Stance.Sound.retains {stance : Stance} (sound : stance.Sound)
    (demanding : stance.stage.demanding = true) (ongoing : stance.ending = false) {op : Op}
    (permitted : stance.permits op) : op.retainsDemand stance.lifecycle.phase := by
  have situation := sound.situated
  cases op with
  | select sources =>
    obtain ⟨-, suspends, working, -⟩ := permitted
    refine ⟨?_, working.resolve_right fun ⟨parked, _⟩ => ?_⟩
    · obtain ⟨stage, lifecycle, child, held, offer, ending⟩ := stance
      cases stage with
      | startup | gate => exact .inl situation.1
      | stopping => exact .inr (.inl sound.phase_stopping)
      | cooling => exact .inr (.inr situation.1)
      | demanded | startupProbed | gateProbed | gateOpen | gateCleared => cases suspends
      | _ => cases demanding
    · rw [parked] at demanding
      cases demanding
  | publish transition next =>
    obtain ⟨-, legal, admitted, now, rfl⟩ := permitted
    obtain ⟨stage, lifecycle, child, held, offer, ending⟩ := stance
    obtain rfl : ending = false := ongoing
    constructor
    · intro phase
      cases stage with
      | stopping cause latched =>
        rw [sound.phase_stopping] at phase
        simp at phase
      | demanded | cooling =>
        cases transition <;> simp_all [Stance.legal, Stage.demanding]
      | startupProbed | gateProbed | gateOpen | gateCleared | startup | gate =>
        simp_all [Stance.situated]
      | _ => cases demanding
    · intro blocked
      have situated := sound.situated_published legal admitted now
      cases transition with
      | publishExternal consumeDemand | publishConflict evidence consumeDemand =>
        cases stage with
        | startupProbed latched classification =>
          cases classification <;> simp_all [Stance.legal, Stage.demanding, Transition.consumes]
        | gateCleared classification =>
          cases classification <;> simp_all [Stance.legal, Transition.consumes]
        | parked => cases demanding
        | _ => cases legal
      | setPhase phase =>
        cases stage with
        | stopping cause latched =>
          cases cause <;> simp_all [Stance.legal, Transition.target]
        | cooling latched => simp_all [Stance.legal, Transition.target]
        | parked | owned => cases demanding
        | _ => cases legal
      | resetFailureStreak =>
        obtain rfl : stage = .owned := by simpa [Stance.legal] using legal
        cases demanding
      | _ => simp [Transition.target] at blocked
  | exit result =>
    intro finished
    exact absurd (permitted.2 finished).1 (by simp [ongoing])
  | _ => trivial

/-- The events after which a received request must have been answered. -/
def Op.proceeds : Op → Prop
  | .select _ | .publish _ _ | .launch | .exit _ => True
  | _ => False

/-- No received demand is lost. Every request is answered at once; one of the current
generation is accepted, or a demand of that generation is latched, or the phase is
External or Conflict, as long as the counter has not gone round; and a demand once
accepted is retained until it is decided or a shutdown is observed. -/
theorem received_demand_is_retained {config : SupervisorConfig} {start : Instant}
    {history : History platform} {program : Supervised Unit} {world : World}
    (reached : Reaches platform (run config) (World.initial start) history program world) :
    (∀ op, program.pending = some op → op.proceeds → answered history = received history) ∧
    (attempts history + blocks history < 2 ^ 64 → ∀ request accepted,
      program.pending = some (.answer request accepted) →
      request.observed.launchGeneration = world.lifecycle.launchGeneration →
      accepted = true ∨
        Launching history world.lifecycle.launchGeneration (undecided history) ∨
        world.lifecycle.phase = .external ∨ world.lifecycle.phase = .conflict) ∧
    (undecided history ≠ [] → shutdownObserved history = false →
      ∀ op, program.pending = some op → op.retainsDemand world.lifecycle.phase) := by
  obtain ⟨stance, watched, remaining⟩ := run_follows reached
  obtain ⟨accounted, sampled, attentive, characterized⟩ := watched.always (coupled config.rcon)
    (initial_coupled config.rcon start)
    (fun history stance world => Accounted (.reconciling start) history stance ∧
      Sampled (.reconciling start) history stance world ∧ Attentive history stance ∧
      (attempts history + blocks history < 2 ^ 64 →
        Characterized (.reconciling start) history stance))
    ⟨.start start, .start start, .start start, fun _ => .start start⟩
    (by
      rintro history stance world op reply after ⟨accounted, sampled, attentive, characterized⟩
        ⟨sound, agrees⟩ permitted performed
      refine ⟨accounted.issued _ sound permitted, sampled.issued performed,
        attentive.issued permitted performed, fun small => ?_⟩
      have grown := counts_grow op reply history
      exact (characterized (Nat.lt_of_le_of_lt grown small)).issued reply accounted.counted sound permitted small)
    (by
      rintro history stance world waiting move after
        ⟨accounted, sampled, attentive, characterized⟩ ⟨-, agrees⟩ - disturbed
      exact ⟨accounted.moved, sampled.moved agrees disturbed,
        ⟨attentive.answered, attentive.receiving, attentive.ending⟩, fun small =>
          ⟨(characterized small).bounded, (characterized small).eligible⟩⟩)
  obtain ⟨sound, agrees⟩ :=
    watched.related (coupled config.rcon) (initial_coupled config.rcon start)
  rw [← agrees.1]
  refine ⟨fun op waits proceeds => ?_, fun small request accepted waits current => ?_,
    fun waiting ongoing op waits => ?_⟩
  · have permitted := remaining.pending_permitted op waits
    have vacant : stance.offer = none := by
      cases op <;> first | exact permitted.1 | cases proceeds
    rw [attentive.answered, vacant]
    rfl
  · obtain ⟨offered, rfl⟩ := remaining.pending_permitted _ waits
    obtain ⟨published, wakes⟩ := sampled.offer request offered
    rcases sound.accepts_current (attentive.receiving (by simp [offered])) current wakes
        ((characterized small).eligible _ published current wakes) with
      accepted | latched | foreign
    · exact .inl accepted
    · refine .inr (.inl ⟨accounted.contributed.waiting latched, fun demand listed => ?_⟩)
      exact ⟨accounted.generational.traced.undecided demand listed,
        accounted.contributed.observed demand listed⟩
    · exact .inr (.inr foreign)
  · have continuing : stance.ending = false := attentive.ending.trans ongoing
    have demanding : stance.stage.demanding = true :=
      (accounted.contributed.kept waiting).resolve_right (by simp [continuing])
    exact sound.retains demanding continuing (remaining.pending_permitted op waits)

/-- A demand is accepted and the final gate probes the backend. -/
def gateRun : Configuration platform Unit :=
  rehearsal (exampleConfig true) (untilReady.take 6)

/-- The run into the final gate is one that the supervisor can really take. -/
theorem gateRun_reached : gateRun.Continues (run (exampleConfig true)) (World.initial 0) :=
  rehearsal_reached _ _

/-- What it is about to do there is one of the operations that retain a demand: one was accepted,
no event has decided it, and no shutdown was observed. -/
theorem gate_retains_demand :
    ∃ op, gateRun.program.pending = some op ∧
      op.retainsDemand gateRun.world.lifecycle.phase := by
  have waits : gateRun.program.pending.isSome = true := by decide +kernel
  obtain ⟨op, pending⟩ := Option.isSome_iff_exists.mp waits
  exact ⟨op, pending, (received_demand_is_retained gateRun_reached).2.2
    (by decide +kernel) (by decide +kernel) op pending⟩

/-- The startup probe is inconclusive, and a client that has sampled the conflict is held
up before it sends its request. -/
def conflictRun : Configuration platform Unit :=
  (((((rehearsal (exampleConfig true) []).follow (Cue.event (.probe .silent))).settle
    World.dictated 5).follow (.move .accept)).follow (Cue.client 0 .sample)).follow
      (Cue.client 0 .requestLogin)

/-- The run into a conflict is one that the supervisor can really take. -/
theorem conflictRun_reached :
    conflictRun.Continues (run (exampleConfig true)) (World.initial 0) :=
  (((((rehearsal_reached _ _).follow _).settle _ _).follow _).follow _).follow _

/-- There the supervisor waits for a demand. -/
theorem conflictRun_waiting :
    ∃ next, conflictRun.program = waiting (exampleConfig true) next := by
  refine ⟨?_, ?_⟩
  rotate_left
  rfl

/-- The conflict is published with its generation unconsumed, and a client is about to wake for
just this state. -/
theorem conflictRun_blocked : conflictRun.world.Blocked ∧
    conflictRun.world.lifecycle.launchGeneration = 0 ∧
    conflictRun.world.clients[0]? = some (.waking conflictRun.world.lifecycle) ∧
    conflictRun.world.lifecycle.failure = none :=
  ⟨⟨⟨rfl, rfl⟩, rfl, rfl, rfl, rfl⟩, rfl, rfl, rfl⟩

/-- Without a new answer nothing becomes undecided. The induction is on the later events. -/
theorem undecided_quiet {later earlier : List Happening}
    (quiet : ∀ happening ∈ later, happening.quiet = true) (decided : undecided earlier = []) :
    undecided (later ++ earlier) = [] := by
  induction later with
  | nil => exact decided
  | cons happening later inductionHypothesis =>
    have before := inductionHypothesis fun other listed => quiet other (.tail _ listed)
    cases happening with
    | moved waiting move => exact before
    | issued op reply =>
      rw [List.cons_append, undecided_issued]
      cases op with
      | answer request accepted => cases quiet _ (.head _)
      | publish transition following => simp [before]
      | launch => rfl
      | _ => exact before

/-- A request that observed no failure, and that was held up, is received in the cooldown
after a failed launch and refused there. -/
theorem passes_stale_request {world : World} {index : Nat} {observed : LifecycleState}
    {following : Turn Bool (Except SupervisorError Unit) → Supervised Unit}
    (ongoing : world.Ongoing) (supervised : world.supervised = true) (slot : world.slot = none)
    (phase : world.lifecycle.phase = .reconciling)
    (evidence : world.lifecycle.reconciliationEvidence = .inconclusive)
    (waking : world.clients[index]? = some (.waking observed)) (unfailed : observed.failure = none) :
    ∃ answered, Passage platform (fun happening => Happening.quiet happening = true)
      (SupervisorControl.recordLaunchFailure.bind fun retryAt =>
        (afterCooldown retryAt false).bind following)
      world ((answer ⟨observed⟩ false).bind answered)
      { world.placed index .finished with
        slot := none
        lifecycle := Transition.recordLaunchFailure.target world.lifecycle world.clock } := by
  have lenient : ∀ happening : Happening, happening.quiet = true → happening.quiet = true :=
    fun _ quiet => quiet
  have early : world.clock <
      world.clock + failureBackoff (saturatingSucc world.lifecycle.failureStreak) :=
    Nat.lt_add_of_pos_right (failureBackoff_pos _)
  let sent : World := { world.placed index .finished with slot := some ⟨observed⟩ }
  let cooling : World := { sent with
    lifecycle := Transition.recordLaunchFailure.target world.lifecycle world.clock }
  obtain ⟨answered, refused⟩ := passes_refused_retry lenient following
    (⟨ongoing.sendersOpen, ongoing.shutdown⟩ : cooling.Ongoing) rfl rfl rfl unfailed early
  refine ⟨answered, ?_⟩
  refine passes_client lenient .trySend .finished { world with slot := some ⟨observed⟩ }
    waking ?_ ?_
  · simp [World.clientStep, ongoing.sendersOpen, supervised, slot]
  simp only [SupervisorControl.recordLaunchFailure, Program.bind_eq, Program.bind_assoc]
  refine passes_advance lenient ?_ ?_
  · simp [Transition.admits, World.placed, phase, evidence, saturatingSucc_pos]
  simp only [Program.pure_eq, Program.done_bind]
  exact refused

/-- When the counter has come round, a request of the current generation is refused though
nothing is latched: it is as old as the counter. -/
theorem stale_request_comes_round :
    ¬ ∀ (config : SupervisorConfig) (start : Instant) (history : History platform)
      (program : Supervised Unit) (world : World),
      Reaches platform (run config) (World.initial start) history program world →
      (∀ op, program.pending = some op → op.proceeds → answered history = received history) ∧
      (∀ request accepted, program.pending = some (.answer request accepted) →
        request.observed.launchGeneration = world.lifecycle.launchGeneration →
        accepted = true ∨
          Launching history world.lifecycle.launchGeneration (undecided history) ∨
          world.lifecycle.phase = .external ∨ world.lifecycle.phase = .conflict) ∧
      (undecided history ≠ [] → shutdownObserved history = false →
        ∀ op, program.pending = some op → op.retainsDemand world.lifecycle.phase) := by
  intro retained
  obtain ⟨next, waits⟩ := conflictRun_waiting
  obtain ⟨blocked, generation, waking, unfailed⟩ := conflictRun_blocked
  have reached : Reaches platform (run (exampleConfig true)) (World.initial 0)
      conflictRun.history conflictRun.program conflictRun.world := conflictRun_reached
  rw [waits] at reached
  obtain ⟨world, later, attempted, cycled, times, launching, failed, -⟩ :=
    launch_comes_round reached blocked (by rw [generation]; decide) (2 ^ 64 - 1)
  have current : conflictRun.world.lifecycle.launchGeneration =
      wrappingSucc world.lifecycle.launchGeneration := by
    rw [times.generation, generation]
    rfl
  obtain ⟨answered, refused⟩ := passes_stale_request
    (⟨times.sendersOpen, times.shutdown⟩ : world.cleared.Ongoing) times.supervised times.slot rfl
    times.evidence (times.cleared_kept waking) unfailed
  rw [← failed] at refused
  obtain ⟨last, quiet, answering⟩ := refused.prolongs (launching.issue rfl)
  rcases (retained _ _ _ _ _ answering).2.1 _ false rfl current with
    accepted | latched | foreign | conflict
  · cases accepted
  · exact latched.1 (undecided_quiet quiet rfl)
  · cases foreign
  · cases conflict

end McServerNap
