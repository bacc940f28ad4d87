import McServerNap.Retention

/-!
# Demand that meets an occupied slot

A wake that finds the slot occupied is dropped in favour of the request there, and
its client is told that the server is starting. The occupant stands for it only if
the supervisor would accept the occupant as well. A slow client can leave a stale
request in the slot, which nobody accepts; the dropped demand is then kept only if
another one is already latched or is being answered.
-/

namespace McServerNap

open Interaction

/-- Some acceptance predicate holds of the request. -/
def WakeRequest.admitted (request : WakeRequest) (current : LifecycleState) : Bool :=
  request.canStart current || request.requestsConflictReconciliation current ||
    request.requestsRestart current || request.requestsRetry current

/-- The event decides the demand that is accepted. -/
def Happening.decides : Happening → Bool
  | .issued .launch _ => true
  | .issued (.publish transition _) _ => transition.consumes
  | _ => false

/-- A launch was attempted or a block published. -/
def decided (history : List Happening) : Bool := history.any Happening.decides

/-- A client is about to send a wake that observed the published state and that some
predicate accepts, while another request occupies the slot. -/
structure Rejected (present : World) (index : Nat) (occupant : WakeRequest) : Prop where
  waking : present.clients[index]? = some (.waking present.lifecycle)
  slot : present.slot = some occupant
  sendersOpen : present.sendersOpen = true
  supervised : present.supervised = true
  admitted : (WakeRequest.mk present.lifecycle).admitted present.lifecycle = true

/-- The client's wake is dropped; the channel keeps its occupant. -/
theorem Rejected.dropped {present : World} {index : Nat} {occupant : WakeRequest}
    (rejected : Rejected present index occupant) :
    present.move (.client index .trySend) =
      some { present with clients := present.clients.set index .finished } := by
  simp [World.move, rejected.waking, World.clientStep, rejected.sendersOpen, rejected.slot]

/-- The supervisor has a demand already, or it has a request to answer. -/
def Engaged (history : List Happening) : Prop :=
  undecided history ≠ [] ∨ received history ≠ answered history

/-- The dropped wake is covered: by the occupant, by a demand that is latched, or by
a request that was received and is not yet answered. -/
def Covered (earlier : List Happening) (present : World) (occupant : WakeRequest) : Prop :=
  occupant.admitted present.lifecycle = true ∨ undecided earlier ≠ [] ∨
    ∃ request, received earlier = request :: answered earlier ∧
      request.admitted present.lifecycle = true

/-- The demand of a dropped wake is not lost, without a further login. The occupant
stays in the slot until it is received, every wait polls the channel or work of its
own, and the occupant is accepted unless the supervisor was engaged before. From then
on a demand is latched, and kept for the final gate, until it is decided. -/
structure Coalesced (earlier later : List Happening) (occupant : WakeRequest)
    (history : List Happening) (pending : Option Op) (world : World) : Prop where
  queued : received later = [] → world.slot = some occupant
  polled : ∀ sources, pending = some (.select sources) →
    .wake ∈ sources ∨ ∃ source ∈ sources, source.channel = false
  accepted : ∀ request accepted, pending = some (.answer request accepted) →
    received later = [request] → request = occupant ∧
      (accepted = true ∨ Engaged earlier ∧ (undecided history ≠ [] ∨ decided later = true))
  settled : received later ≠ [] → received history = answered history →
    undecided history ≠ [] ∨ decided later = true
  retained : undecided history ≠ [] → ∀ op, pending = some op →
    op.retainsDemand world.lifecycle.phase

/-- Until the supervisor ends, only receiving empties the slot: every other operation leaves the
request where it is, and a supervisor that still goes on after an operation was going on before
it. -/
theorem World.slot_kept {world after : World} {op : Op} {reply : Reply op}
    (performed : world.perform op reply = some after) (ongoing : after.supervised = true) :
    world.supervised = true ∧
      (Happening.delivers (.issued op reply) = none → after.slot = world.slot) := by
  cases op with
  | select sources =>
    simp only [World.perform] at performed
    split at performed <;> cases performed
    cases reply with
    | wake request => cases request <;> simp_all [World.completed, Happening.delivers]
    | child result => cases result <;> exact ⟨ongoing, fun _ => rfl⟩
    | kill ok => cases ok <;> exact ⟨ongoing, fun _ => rfl⟩
    | _ => exact ⟨ongoing, fun _ => rfl⟩
  | now | currentLifecycle | activitySnapshot | wakesClosed =>
    simp only [World.perform] at performed
    split at performed <;> cases performed
    exact ⟨ongoing, fun _ => rfl⟩
  | tryRecvShutdown =>
    simp only [World.perform] at performed
    split at performed <;> cases performed <;> exact ⟨ongoing, fun _ => rfl⟩
  | tryRecvWake =>
    simp only [World.perform] at performed
    split at performed
    all_goals first
      | cases performed
      | (split at performed <;> cases performed); simp_all [Happening.delivers]
  | tryWait =>
    cases present : world.child <;> cases reply <;>
      simp only [World.perform, present, Option.some.injEq, reduceCtorEq] at performed <;>
      subst performed <;> exact ⟨ongoing, fun _ => rfl⟩
  | launch => cases reply <;> cases performed <;> exact ⟨ongoing, fun _ => rfl⟩
  | exit =>
    cases performed
    cases ongoing
  | answer | publish | beginCycle | releaseExclusive =>
    cases performed
    exact ⟨ongoing, fun _ => rfl⟩
  | panic => cases reply

/-- An offer waits for its answer while nothing else is published. The operation that comes next
is that answer, or one that keeps the offer and what is published. -/
theorem Stance.offer_kept (rcon : Bool) {stance : Stance} {op : Op} (reply : Reply op)
    {request : WakeRequest} (offered : stance.offer = some request)
    (permitted : stance.permits op) :
    op = .answer request (stance.stage.accepts stance.lifecycle request) ∨
      (stance.after rcon op reply).offer = some request ∧
        (stance.after rcon op reply).lifecycle = stance.lifecycle := by
  cases op with
  | answer answered accepted =>
    obtain ⟨same, rfl⟩ := permitted
    obtain rfl : answered = request := Option.some.inj (same.symm.trans offered)
    exact .inl rfl
  | publish | launch | select | tryRecvWake | exit =>
    exact absurd (offered.symm.trans permitted.1) nofun
  | wakesClosed | tryWait => cases reply <;> exact .inr ⟨offered, rfl⟩
  | tryRecvShutdown => cases reply <;> exact .inr ⟨offered, rfl⟩
  | panic => cases reply
  | _ => exact .inr ⟨offered, rfl⟩

/-- What an admitted request has observed, by the phase it is admitted in. A start and a retry
compare parts of the lifecycle; the other two need the very state that is published. -/
theorem WakeRequest.admitted_cases {request : WakeRequest} {current : LifecycleState}
    (admitted : request.admitted current = true) :
    (current.phase = .stopped ∧ request.canStart current = true) ∨
    ((current.phase = .conflict ∨ current.phase = .stopping ∧ current.failure = none) ∧
      request.observed = current) ∨
    ((current.phase = .stopping ∨ current.phase = .cooldown) ∧ current.failure.isSome ∧
      request.requestsRetry current = true) := by
  simp only [WakeRequest.admitted, Bool.or_eq_true] at admitted
  rcases admitted with ((start | conflict) | restart) | retry
  · exact .inl ⟨by simp_all [canStart], start⟩
  · exact .inr (.inl (by simp_all [requestsConflictReconciliation]))
  · exact .inr (.inl (by simp_all [requestsRestart]))
  · exact .inr (.inr (by simp_all [requestsRetry]))

/-- A request admitted during a stop or a cooldown can start the stopped backend of the
same generation. -/
theorem WakeRequest.canStart_of_admitted {request : WakeRequest} {current next : LifecycleState}
    (admitted : request.admitted current = true)
    (phase : current.phase = .stopping ∨ current.phase = .cooldown)
    (stopped : next.phase = .stopped)
    (generation : next.launchGeneration = current.launchGeneration) :
    request.canStart next = true := by
  rcases admitted_cases admitted with ⟨start, -⟩ | ⟨present, same⟩ | ⟨-, -, retry⟩
  · rcases phase with phase | phase <;> cases start.symm.trans phase
  · rcases present with conflict | ⟨stopping, -⟩
    · rcases phase with phase | phase <;> cases conflict.symm.trans phase
    · simp [canStart, stopped, generation, same, stopping]
  · simp only [requestsRetry, Bool.and_eq_true, Bool.or_eq_true, decide_eq_true_eq] at retry
    obtain ⟨⟨⟨-, current⟩, observed⟩, -⟩ := retry
    rcases observed with observed | observed <;>
      simp [canStart, stopped, generation, current, observed]

/-- A request admitted during the cleanup of a failure asks for a retry in its
cooldown. -/
theorem WakeRequest.requestsRetry_of_admitted {request : WakeRequest}
    {current next : LifecycleState} (admitted : request.admitted current = true)
    (stopping : current.phase = .stopping) (failed : current.failure.isSome)
    (cooldown : next.phase = .cooldown) (failure : next.failure = current.failure)
    (streak : next.failureStreak = current.failureStreak)
    (generation : next.launchGeneration = current.launchGeneration) :
    request.requestsRetry next = true := by
  rcases admitted_cases admitted with ⟨phase, -⟩ | ⟨phase | ⟨-, none⟩, -⟩ | ⟨-, -, retry⟩
  · cases phase.symm.trans stopping
  · cases phase.symm.trans stopping
  · simp [none] at failed
  · simp_all [requestsRetry]

/-- Where requests arrive, one that some predicate accepts is accepted, unless a
demand is latched already. -/
theorem Stance.Sound.accepts_admitted {stance : Stance} (sound : stance.Sound)
    {request : WakeRequest} (receiving : stance.stage.receives = true)
    (admitted : request.admitted stance.lifecycle = true) :
    stance.stage.accepts stance.lifecycle request = true ∨ stance.stage.demanding = true := by
  have situation := sound.situated
  obtain ⟨stage, lifecycle, child, held, offer, ending⟩ := stance
  cases stage with
  | gate => exact .inr rfl
  | stopping cause latched =>
    left
    have stopping := sound.phase_stopping
    rcases WakeRequest.admitted_cases admitted with
      ⟨phase, -⟩ | ⟨-, same⟩ | ⟨-, failed, retry⟩ <;>
      cases cause <;>
      simp_all [Stage.accepts, Stance.situated, Stage.receives, WakeRequest.requestsRestart,
        WakeRequest.requestsRetry]
  | cooling latched =>
    rcases WakeRequest.admitted_cases admitted with
      ⟨phase, -⟩ | ⟨phase, -⟩ | ⟨-, -, retry⟩ <;>
      cases latched <;> simp_all [Stage.accepts, Stance.situated, Stage.demanding]
  | parked =>
    left
    rcases WakeRequest.admitted_cases admitted with
      ⟨-, start⟩ | ⟨phase | ⟨phase, -⟩, same⟩ | ⟨phase | phase, -⟩ <;>
      simp_all [Stage.accepts, Stance.situated, WakeRequest.requestsConflictReconciliation]
  | startup | owned =>
    rcases WakeRequest.admitted_cases admitted with
      ⟨phase, -⟩ | ⟨phase | ⟨phase, -⟩, -⟩ | ⟨phase | phase, -⟩ <;>
      simp_all [Stance.situated]
  | _ => cases receiving

/-- Without a demand a supervisor that is not starting or supervising a backend only
publishes the end of a stop or of a cooldown. -/
theorem Stance.Sound.idle_legal {stance : Stance} (sound : stance.Sound)
    {transition : Transition} (legal : stance.legal transition = true)
    (idle : stance.stage.demanding = false) (ongoing : stance.ending = false)
    (phase : stance.lifecycle.phase = .stopped ∨ stance.lifecycle.phase = .conflict ∨
      stance.lifecycle.phase = .stopping ∨ stance.lifecycle.phase = .cooldown) :
    transition = .setPhase .stopped ∧
        (stance.lifecycle.phase = .stopping ∨ stance.lifecycle.phase = .cooldown) ∨
      (∃ retryDelay, transition = .finishFailureCleanup retryDelay) ∧
        stance.lifecycle.phase = .stopping ∧ stance.lifecycle.failure.isSome := by
  have situation := sound.situated
  obtain ⟨stage, lifecycle, child, held, offer, ending⟩ := stance
  obtain rfl : ending = false := ongoing
  cases stage with
  | stopping cause latched =>
    have stopping := sound.phase_stopping
    cases cause <;> cases transition <;> simp_all [Stance.legal, Stance.situated]
  | parked =>
    rcases phase with phase | phase | phase | phase <;>
      cases transition <;> simp_all [Stance.legal, Stance.situated]
  | cooling latched => cases transition <;> simp_all [Stance.legal, Stance.situated, Stage.demanding]
  | demanded | gate | gateProbed | gateOpen | gateCleared => cases idle
  | closing => cases transition <;> cases legal
  | _ =>
    rcases phase with phase | phase | phase | phase <;> simp_all [Stance.situated]

/-- Without a demand the supervisor publishes only what an admitted request is admitted in again.
The phases that admit one can then only end in `Stopped` or in a cooldown, and in both the same
request can start or retry. -/
theorem Stance.Sound.admitted_target {stance : Stance} (sound : stance.Sound)
    {transition : Transition} (legal : stance.legal transition = true) (now : Instant)
    (idle : stance.stage.demanding = false) (ongoing : stance.ending = false)
    {request : WakeRequest} (admitted : request.admitted stance.lifecycle = true) :
    request.admitted (transition.target stance.lifecycle now) = true := by
  have phase : stance.lifecycle.phase = .stopped ∨ stance.lifecycle.phase = .conflict ∨
      stance.lifecycle.phase = .stopping ∨ stance.lifecycle.phase = .cooldown := by
    rcases WakeRequest.admitted_cases admitted with
      ⟨phase, -⟩ | ⟨phase | ⟨phase, -⟩, -⟩ | ⟨phase | phase, -⟩ <;> simp [phase]
  rcases sound.idle_legal legal idle ongoing phase with
    ⟨rfl, ending⟩ | ⟨⟨retryDelay, rfl⟩, stopping, failed⟩
  · have start : request.canStart (Transition.target stance.lifecycle now (.setPhase .stopped)) =
        true := WakeRequest.canStart_of_admitted admitted ending rfl rfl
    simp [WakeRequest.admitted, start]
  · have retry : request.requestsRetry
        (Transition.target stance.lifecycle now (.finishFailureCleanup retryDelay)) = true :=
      WakeRequest.requestsRetry_of_admitted admitted stopping failed rfl rfl rfl rfl
    simp [WakeRequest.admitted, retry]

/-- A demand lasts until an event decides it: accepting another request adds to what is undecided,
and every other event leaves it. -/
theorem undecided_lasts {history : List Happening} (waiting : undecided history ≠ []) (op : Op)
    (reply : Reply op) :
    undecided (.issued op reply :: history) ≠ [] ∨
      Happening.decides (.issued op reply) = true := by
  rw [undecided_issued]
  cases op with
  | answer request accepted =>
    cases accepted with
    | true => exact .inl nofun
    | false => exact .inl waiting
  | publish transition next =>
    cases consuming : transition.consumes with
    | true => exact .inr consuming
    | false => exact .inl (by simpa [consuming] using waiting)
  | launch => exact .inr rfl
  | _ => exact .inl waiting

/-- A received request is offered next: both ways of receiving, the branch of a wait and the look
into the slot, hand it to the decision and leave the published state as it was. -/
theorem Stance.offer_delivered (rcon : Bool) (stance : Stance) {op : Op} {reply : Reply op}
    {request : WakeRequest} (delivered : Happening.delivers (.issued op reply) = some request) :
    (stance.after rcon op reply).offer = some request ∧
      (stance.after rcon op reply).lifecycle = stance.lifecycle := by
  cases op with
  | select sources =>
    cases reply with
    | wake received =>
      obtain rfl : received = some request := delivered
      exact ⟨rfl, rfl⟩
    | _ => cases delivered
  | tryRecvWake =>
    cases reply with
    | received taken =>
      obtain rfl : taken = request := Option.some.inj delivered
      exact ⟨rfl, rfl⟩
    | _ => cases delivered
  | _ => cases delivered

/-- If nothing was open at a point of a run, the first request received after it is
also the first to be answered. -/
theorem unanswered_of_attentive {earlier later : List Happening} {stance : Stance}
    {request : WakeRequest} (attentive : Attentive (later ++ earlier) stance)
    (settled : received earlier = answered earlier) (only : received later = [request])
    (offered : stance.offer = some request) : answered later = [] := by
  have arrivals := attentive.answered
  unfold received answered at *
  rw [List.filterMap_append, List.filterMap_append, only, offered, settled] at arrivals
  simpa using arrivals

/-- What holds after the dropped wake, until the supervisor ends. -/
structure Pursued (base later : List Happening) (occupant : WakeRequest) (stance : Stance)
    (world : World) : Prop where
  queued : received later = [] → world.slot = some occupant
  first : ∀ request, received later = [request] → request = occupant
  covered : undecided (later ++ base) ≠ [] ∨ decided later = true ∨
    (∃ request, stance.offer = some request ∧ request.admitted stance.lifecycle = true) ∨
    received later = [] ∧ occupant.admitted stance.lifecycle = true
  alone : ¬ Engaged base → answered later = [] →
    occupant.admitted stance.lifecycle = true ∧ undecided (later ++ base) = []

section Pursuit

variable {base later : List Happening} {occupant : WakeRequest} {stance : Stance}
  {world after : World} {op : Op} {reply : Reply op}

/-- While nothing is latched, a request that the published state admits is still admitted after
whatever the supervisor does: only a publication changes that state, and a legal one that leaves
no demand waiting goes to a state that admits the request again. -/
theorem readmitted {history : List Happening} {request : WakeRequest} (rcon : Bool)
    (sound : stance.Sound) (contributed : Contributed history stance)
    (permitted : stance.permits op) (unended : stance.ending = false)
    (vacant : undecided history = []) (admitted : request.admitted stance.lifecycle = true) :
    request.admitted (stance.after rcon op reply).lifecycle = true := by
  have idle : stance.stage.demanding = false := by
    cases demanding : stance.stage.demanding with
    | false => rfl
    | true => exact absurd vacant (contributed.waiting demanding)
  rw [Stance.after_lifecycle]
  cases op with
  | publish transition next =>
    obtain ⟨-, legal, -, now, rfl⟩ := permitted
    exact sound.admitted_target legal now idle unended admitted
  | _ => exact admitted

/-- A waiting demand waits on, or the operation decides it. -/
theorem undecided_or_decided (waiting : undecided (later ++ base) ≠ []) (op : Op)
    (reply : Reply op) : undecided (.issued op reply :: (later ++ base)) ≠ [] ∨
      decided (.issued op reply :: later) = true := by
  rcases undecided_lasts waiting op reply with lasts | decides
  · exact .inl lasts
  · exact .inr (by simp [decided, decides])

/-- The slot's occupant stays covered. A waiting demand waits on until it is decided; an offered
request stays offered until the supervisor answers it, and is accepted then or meets a waiting
demand; and as long as nothing has been received, the occupant is admitted. -/
theorem Pursued.covered_issued {rcon : Bool} (pursued : Pursued base later occupant stance world)
    (sound : stance.Sound) (contributed : Contributed (later ++ base) stance)
    (attentive : Attentive (later ++ base) stance) (permitted : stance.permits op)
    (performed : world.perform op reply = some after) (unended : stance.ending = false) :
    undecided (.issued op reply :: (later ++ base)) ≠ [] ∨
      decided (.issued op reply :: later) = true ∨
      (∃ request, (stance.after rcon op reply).offer = some request ∧
        request.admitted (stance.after rcon op reply).lifecycle = true) ∨
      received (.issued op reply :: later) = [] ∧
        occupant.admitted (stance.after rcon op reply).lifecycle = true := by
  rcases pursued.covered with waiting | already | ⟨request, offered, admitted⟩ | ⟨before, admitted⟩
  · exact (undecided_or_decided waiting op reply).imp_right .inl
  · exact .inr (.inl (by simp only [decided, List.any_cons] at already ⊢; simp [already]))
  · rcases Stance.offer_kept rcon reply offered permitted with rfl | ⟨kept, same⟩
    · have receiving := attentive.receiving (by simp [offered])
      rcases sound.accepts_admitted receiving admitted with accepts | demanding
      · exact .inl (by simp [undecided_issued, accepts])
      · exact (undecided_or_decided (contributed.waiting demanding) _ reply).imp_right .inl
    · exact .inr (.inr (.inl ⟨request, kept, by rwa [same]⟩))
  · cases delivered : Happening.delivers (.issued op reply) with
    | none =>
      by_cases vacant : undecided (later ++ base) = []
      · have again : occupant.admitted (stance.after rcon op reply).lifecycle = true :=
          readmitted rcon sound contributed permitted unended vacant admitted
        refine .inr (.inr (.inr ⟨?_, again⟩))
        rw [received_issued, delivered, before]
        rfl
      · exact (undecided_or_decided vacant op reply).imp_right .inl
    | some request =>
      obtain ⟨offered, same⟩ := Stance.offer_delivered rcon stance delivered
      have taken := (World.delivered_slot performed delivered).symm.trans (pursued.queued before)
      obtain rfl : request = occupant := Option.some.inj taken
      exact .inr (.inr (.inl ⟨request, offered, by rwa [same]⟩))

/-- If nothing was open when the wake was dropped, the occupant stays admitted and no demand is
latched until the supervisor answers the first request after it. -/
theorem Pursued.alone_issued {rcon : Bool} (pursued : Pursued base later occupant stance world)
    (sound : stance.Sound) (contributed : Contributed (later ++ base) stance)
    (permitted : stance.permits op) (unended : stance.ending = false)
    (unengaged : ¬ Engaged base) (unanswered : answered (.issued op reply :: later) = []) :
    occupant.admitted (stance.after rcon op reply).lifecycle = true ∧
      undecided (.issued op reply :: (later ++ base)) = [] := by
  rw [answered_issued] at unanswered
  rw [undecided_issued]
  have still (before : answered later = []) :
      occupant.admitted (stance.after rcon op reply).lifecycle = true ∧
        undecided (later ++ base) = [] := by
    obtain ⟨admitted, vacant⟩ := pursued.alone unengaged before
    exact ⟨readmitted rcon sound contributed permitted unended vacant admitted, vacant⟩
  cases op with
  | answer => cases unanswered
  | publish transition next =>
    obtain ⟨admitted, vacant⟩ := still unanswered
    exact ⟨admitted, by simp [vacant]⟩
  | launch => exact ⟨(still unanswered).1, rfl⟩
  | _ => exact still unanswered

/-- What the supervisor does keeps the account of the dropped wake: the slot is only emptied by
receiving its occupant, which is covered throughout. -/
theorem Pursued.issued {rcon : Bool} (pursued : Pursued base later occupant stance world)
    (sound : stance.Sound) (contributed : Contributed (later ++ base) stance)
    (attentive : Attentive (later ++ base) stance) (permitted : stance.permits op)
    (performed : world.perform op reply = some after) (unended : stance.ending = false)
    (ongoing : after.supervised = true) :
    Pursued base (.issued op reply :: later) occupant (stance.after rcon op reply) after where
  queued none := by
    rw [received_issued] at none
    obtain ⟨undelivered, before⟩ := List.append_eq_nil_iff.mp none
    rw [(World.slot_kept performed ongoing).2 (by simpa using undelivered)]
    exact pursued.queued before
  first request only := by
    rw [received_issued] at only
    cases delivered : Happening.delivers (.issued op reply) with
    | none => exact pursued.first request (by simpa [delivered] using only)
    | some taken =>
      obtain ⟨rfl, before⟩ : taken = request ∧ received later = [] := by
        simpa [delivered] using only
      have held := (World.delivered_slot performed delivered).symm.trans (pursued.queued before)
      exact Option.some.inj held
  covered := by
    rw [List.cons_append]
    exact pursued.covered_issued sound contributed attentive permitted performed unended
  alone unengaged unanswered := by
    rw [List.cons_append]
    exact pursued.alone_issued sound contributed permitted unended unengaged unanswered

end Pursuit

/-- No client displaces the request in the slot. A client can only try to send, which fails while
the slot is full, and the other moves of the surroundings do not touch it. -/
theorem World.occupied_moved {world after : World} {move : Move} {occupant : WakeRequest}
    (moved : world.move move = some after) (occupied : world.slot = some occupant) :
    after.slot = some occupant := by
  cases move with
  | client index step =>
    obtain ⟨task, later, stepped, -, step, rfl⟩ := World.move_client moved
    revert step
    fun_cases World.clientStep world task step
    all_goals
      intro step
      cases step
    all_goals first
      | exact occupied
      | simp_all
  | sendShutdown | dropShutdown =>
    simp only [World.move] at moved
    split at moved <;> cases moved
    exact occupied
  | tick | closeWakes | accept =>
    cases moved
    exact occupied

/-- Only the supervisor ends its supervision; what clients and the runtime do leaves it on. -/
theorem World.supervised_moved {world after : World} {move : Move}
    (moved : world.move move = some after) : after.supervised = world.supervised := by
  cases move with
  | client index step =>
    obtain ⟨task, later, stepped, -, step, rfl⟩ := World.move_client moved
    obtain ⟨slot, activity, changed, rfl⟩ := World.clientStep_frame step
    rfl
  | sendShutdown | dropShutdown =>
    simp only [World.move] at moved
    split at moved <;> cases moved
    rfl
  | tick | closeWakes | accept =>
    cases moved
    rfl

/-- A client that moves displaces nothing: the slot keeps its occupant, and neither the stance nor
what was received or answered changes. -/
theorem Pursued.moved {base later : List Happening} {occupant : WakeRequest} {stance : Stance}
    {world after : World} {waiting : Option Op} {move : Move}
    (pursued : Pursued base later occupant stance world) (moved : world.move move = some after) :
    Pursued base (.moved waiting move :: later) occupant stance after where
  queued := fun none => World.occupied_moved moved (pursued.queued none)
  first := pursued.first
  covered := pursued.covered
  alone := pursued.alone

/-- A covered wake is pursued from the moment it is dropped: the occupant stays in its slot, and
each of the three ways of being covered is one of the ways of being pursued. -/
theorem Rejected.pursued {earlier : List Happening} {present passed : World} {stance : Stance}
    {index : Nat} {occupant : WakeRequest} {waiting : Option Op}
    (rejected : Rejected present index occupant) (covered : Covered earlier present occupant)
    (attentive : Attentive earlier stance) (agrees : stance.agrees present)
    (dropped : present.move (.client index .trySend) = some passed) :
    Pursued (.moved waiting (.client index .trySend) :: earlier) [] occupant stance passed := by
  obtain ⟨lifecycle, -⟩ := agrees
  refine ⟨fun _ => World.occupied_moved dropped rejected.slot, nofun, ?_, fun unengaged _ => ?_⟩
  · rcases covered with admitted | waiting | ⟨request, received, admitted⟩
    · exact .inr (.inr (.inr ⟨rfl, by rwa [lifecycle]⟩))
    · exact .inl waiting
    · refine .inr (.inr (.inl ⟨request, ?_, by rwa [lifecycle]⟩))
      have offered := attentive.answered.symm.trans received
      cases offer : stance.offer with
      | none => simp [offer] at offered
      | some request => simpa [offer] using offered
  · obtain ⟨vacant, settled⟩ := not_or.mp unengaged
    rcases covered with admitted | waiting | ⟨request, received, -⟩
    · exact ⟨by rwa [lifecycle], not_not.mp vacant⟩
    · exact absurd waiting vacant
    · exact absurd (received.symm.trans (not_not.mp settled)) (List.cons_ne_self _ _)

variable {config : SupervisorConfig} {start : Instant} {program middle : Supervised Unit}
  {passed world : World}

/-- What is pursued at one point of a run is pursued from there on. The run is cut at that point,
the conduct gives the stance there, and the rest is an induction along the later history. -/
theorem pursued_from {base later : History platform} {occupant : WakeRequest}
    (before : Reaches platform (run config) (World.initial start) base middle passed)
    (begun : ∀ stance, Attentive base stance → stance.agrees passed →
      Pursued base [] occupant stance passed)
    (after : Reaches platform middle passed later program world)
    (unended : shutdownObserved (later ++ base) = false) (ongoing : world.supervised = true) :
    ∃ stance : Stance, stance.Sound ∧ stance.agrees world ∧
      Safe (conduct config.rcon) program (fun _ _ => True) stance ∧
      Contributed (later ++ base) stance ∧ Attentive (later ++ base) stance ∧
      Pursued base later occupant stance world := by
  obtain ⟨first, watchedBefore, safe⟩ := run_follows before
  have related := watchedBefore.related (coupled config.rcon) (initial_coupled config.rcon start)
  obtain ⟨accounted, attentive⟩ := watchedBefore.always (coupled config.rcon)
    (initial_coupled config.rcon start)
    (fun history stance _ => Accounted (.reconciling start) history stance ∧
      Attentive history stance)
    ⟨.start start, .start start⟩
    (fun known related permitted performed => ⟨known.1.issued _ related.1 permitted,
      known.2.issued permitted performed⟩)
    (fun known _ _ _ => ⟨known.1.moved, known.2.answered, known.2.receiving, known.2.ending⟩)
  obtain ⟨stance, watched, remaining⟩ := after.watched (coupled config.rcon) related safe
  obtain ⟨accounted, attentive, pursued⟩ := watched.always (coupled config.rcon) related
    (fun later stance world => Accounted (.reconciling start) (later ++ base) stance ∧
      Attentive (later ++ base) stance ∧ (shutdownObserved (later ++ base) = false →
        World.supervised world = true → Pursued base later occupant stance world))
    ⟨accounted, attentive, fun _ _ => begun first attentive related.2⟩
    (by
      rintro later stance world op reply after ⟨accounted, attentive, pursued⟩ ⟨sound, agrees⟩
        permitted performed
      refine ⟨accounted.issued _ sound permitted, attentive.issued permitted performed,
        fun unended ongoing => ?_⟩
      have calm : shutdownObserved (later ++ base) = false :=
        (Bool.or_eq_false_iff.mp unended).2
      exact (pursued calm (World.slot_kept performed ongoing).1).issued sound
        accounted.contributed attentive permitted performed (attentive.ending.trans calm) ongoing)
    (by
      rintro later stance world waiting move after ⟨accounted, attentive, pursued⟩ - - disturbed
      exact ⟨accounted.moved, ⟨attentive.answered, attentive.receiving, attentive.ending⟩,
        fun unended ongoing => (pursued unended
          ((World.supervised_moved disturbed).symm.trans ongoing)).moved disturbed⟩)
  obtain ⟨sound, agrees⟩ := watched.related (coupled config.rcon) related
  exact ⟨stance, sound, agrees, remaining, accounted.contributed, attentive,
    pursued unended ongoing⟩

/-- A wake dropped at an occupied slot is not lost as long as it is covered, by the
occupant or by a demand that the supervisor already has. -/
theorem covered_demand_is_coalesced {config : SupervisorConfig} {start : Instant}
    {earlier later : History platform} {program : Supervised Unit} {waiting : Option Op}
    {index : Nat} {present world : World} {occupant : WakeRequest}
    (reached : Reaches platform (run config) (World.initial start)
      (later ++ .moved waiting (.client index .trySend) :: earlier) program world)
    (situation : platform.replay (World.initial start) earlier = some present)
    (rejected : Rejected present index occupant) (covered : Covered earlier present occupant)
    (unended : shutdownObserved (later ++ .moved waiting (.client index .trySend) :: earlier) = false)
    (ongoing : world.supervised = true) :
    Coalesced earlier later occupant
      (later ++ .moved waiting (.client index .trySend) :: earlier) program.pending world := by
  obtain ⟨middle, passed, before, after⟩ := reached.split
  have dropped : present.move (.client index .trySend) = some passed := by
    have replayed : (platform.replay (World.initial start) earlier).bind
        (fun world => world.move (.client index .trySend)) = some passed := before.replayed
    rwa [situation] at replayed
  obtain ⟨stance, sound, agrees, remaining, contributed, attentive, pursued⟩ :=
    pursued_from before (fun stance attentive agrees => rejected.pursued covered
      ⟨attentive.answered, attentive.receiving, attentive.ending⟩
      (Option.some.inj (rejected.dropped.symm.trans dropped) ▸ agrees :) dropped)
      after unended ongoing
  obtain ⟨queued, first, covered, alone⟩ := pursued
  refine ⟨queued, fun sources waits => ?_, fun request accepted waits only => ?_,
    fun arrived settled => ?_, fun waiting op waits => ?_⟩
  · exact (remaining.pending_permitted _ waits).2.2.1.symm.imp_left And.right
  · obtain ⟨offered, rfl⟩ := remaining.pending_permitted _ waits
    have receiving := attentive.receiving (by simp [offered])
    refine ⟨first request only, ?_⟩
    by_cases engaged : Engaged earlier
    · rcases covered with waiting | already | ⟨other, same, admitted⟩ | ⟨none, -⟩
      · exact .inr ⟨engaged, .inl waiting⟩
      · exact .inr ⟨engaged, .inr already⟩
      · obtain rfl : request = other := Option.some.inj (offered.symm.trans same)
        exact (sound.accepts_admitted receiving admitted).imp_right fun demanding =>
          ⟨engaged, .inl (contributed.waiting demanding)⟩
      · cases only.symm.trans none
    · left
      have unanswered : answered later = [] :=
        unanswered_of_attentive attentive (not_not.mp (not_or.mp engaged).2) only offered
      obtain ⟨admitted, vacant⟩ := alone engaged unanswered
      refine (sound.accepts_admitted receiving ?_).resolve_right fun demanding =>
        contributed.waiting demanding vacant
      rwa [first request only]
  · have unoffered : stance.offer = none := by
      have arrivals := settled.symm.trans attentive.answered
      cases offer : stance.offer with
      | none => rfl
      | some request => exact absurd arrivals (by simp [offer])
    rcases covered with waiting | already | ⟨other, offered, -⟩ | ⟨none, -⟩
    · exact .inl waiting
    · exact .inr already
    · cases unoffered.symm.trans offered
    · exact absurd none arrived
  · have continuing : stance.ending = false := attentive.ending.trans unended
    have demanding : stance.stage.demanding = true :=
      (contributed.kept waiting).resolve_right (by simp [continuing])
    rw [← agrees.1]
    exact sound.retains demanding continuing (remaining.pending_permitted op waits)

/-- The slot holds the wake of one of two clients that saw the backend stopped. -/
def occupiedCues : List (Cue platform) :=
  [Cue.event (.probe .refused)] ++ Cue.login 0 ++ Cue.login 1 ++ [Cue.client 0 .trySend]

/-- The supervisor up to the point where its slot holds the first login and it still waits for a
wake. -/
def occupiedRun : Configuration platform Unit := rehearsal (exampleConfig true) occupiedCues

/-- The other client's wake is dropped, and the occupant is received. -/
def droppedRun : Configuration platform Unit :=
  rehearsal (exampleConfig true) (occupiedCues ++ [Cue.client 1 .trySend, Cue.wake])

/-- A second login meets a full slot, and the request in the slot was made for the state that is
still published. -/
theorem second_login_is_coalesced :
    Coalesced occupiedRun.history (droppedRun.history.take 9) ⟨occupiedRun.world.lifecycle⟩
      (droppedRun.history.take 9 ++ .moved (some (.select [.shutdown, .wake]))
        (.client 1 .trySend) :: occupiedRun.history)
      droppedRun.program.pending droppedRun.world := by
  have split : droppedRun.history = droppedRun.history.take 9 ++
      .moved (some (.select [.shutdown, .wake])) (.client 1 .trySend) :: occupiedRun.history := by
    decide +kernel
  have reached : Reaches platform (run (exampleConfig true)) (World.initial 0) droppedRun.history
      droppedRun.program droppedRun.world := rehearsal_reached _ _
  rw [split] at reached
  exact covered_demand_is_coalesced reached (rehearsal_reached _ occupiedCues).replayed
    ⟨by decide +kernel, by decide +kernel, by decide +kernel, by decide +kernel,
      by decide +kernel⟩ (.inl (by decide +kernel)) (by decide +kernel) (by decide +kernel)

/-- A slow client sends the wake of a launch that has failed since, after the next client
saw the backend stopped again. -/
def staleCues : List (Cue platform) :=
  [Cue.event (.probe .refused)] ++ Cue.login 0 ++ Cue.login 1 ++
    [Cue.client 1 .trySend, Cue.wake, Cue.event (.probe .refused), Cue.launch false] ++
    Cue.elapse .cooldown (seconds 5) ++ Cue.login 2 ++ [Cue.client 0 .trySend]

/-- The supervisor after a failed launch and its cooldown, with the wake of a slow client from
before the launch in the slot. -/
def staleRun : Configuration platform Unit := rehearsal (exampleConfig true) staleCues

/-- The next client's wake is dropped, and the occupant is refused. -/
def lostRun : Configuration platform Unit :=
  rehearsal (exampleConfig true) (staleCues ++ [Cue.client 2 .trySend, Cue.wake])

/-- A stale request in the slot loses the demand of a client that saw the backend
stopped: the supervisor refuses the one, never hears of the other and waits for a
further login. -/
theorem stale_occupant_loses_demand : ∃ earlier later : History platform, ∃ present occupant,
    Reaches platform (run (exampleConfig true)) (World.initial 0)
        (later ++ .moved (some (.select [.shutdown, .wake])) (.client 2 .trySend) :: earlier)
        lostRun.program lostRun.world ∧
      platform.replay (World.initial 0) earlier = some present ∧
      Rejected present 2 occupant ∧ present.lifecycle.phase = .stopped ∧
      shutdownObserved (later ++ .moved (some (.select [.shutdown, .wake]))
        (.client 2 .trySend) :: earlier) = false ∧
      lostRun.world.supervised = true ∧ received later = [occupant] ∧
      lostRun.program.pending = some (.select [.shutdown, .wake]) ∧ lostRun.world.slot = none ∧
      ¬ Coalesced earlier later occupant (later ++ .moved (some (.select [.shutdown, .wake]))
        (.client 2 .trySend) :: earlier) lostRun.program.pending lostRun.world := by
  have split : lostRun.history = lostRun.history.take 4 ++
      .moved (some (.select [.shutdown, .wake])) (.client 2 .trySend) :: staleRun.history := by
    decide +kernel
  have reached : Reaches platform (run (exampleConfig true)) (World.initial 0) lostRun.history
      lostRun.program lostRun.world := rehearsal_reached _ _
  rw [split] at reached
  refine ⟨staleRun.history, lostRun.history.take 4, staleRun.world,
    ⟨Transition.publishStoppedAfterCleanReconciliation.target (.reconciling 0) 0⟩, reached,
    (rehearsal_reached _ staleCues).replayed,
    ⟨by decide +kernel, by decide +kernel, by decide +kernel, by decide +kernel,
      by decide +kernel⟩, by decide +kernel, by decide +kernel, by decide +kernel,
    by decide +kernel, by decide +kernel, by decide +kernel, fun coalesced => ?_⟩
  rcases coalesced.settled (by decide +kernel) (by decide +kernel) with waiting | already
  · exact waiting (by decide +kernel)
  · exact absurd already (by decide +kernel)

end McServerNap
