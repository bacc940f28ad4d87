import McServerNap.Conformance.Control

/-!
# Stopping and reaping follows the conduct

The stop sequence is specified once, for any way of awaiting its branches. It then
serves the sequence on its own and the one polled beside the channels.
-/

namespace McServerNap

open Interaction SupervisorControl

variable {rcon : Bool}

/-- The branches of a stop sequence. -/
def Source.stops : Source → Bool
  | .child | .rconStop | .consoleStop | .killTree | .kill | .sleepUntil _ _ => true
  | _ => false

/-- The events after which the child is reaped. -/
def Event.reaps : Event → Bool
  | .child .exited | .kill true => true
  | _ => false

/-- The channels' events come from the channels. -/
theorem offers_internal {source : Source} {event : Event} (internal : source.channel = false)
    (offered : source.offers event = true) :
    event ≠ .shutdown ∧ ∀ request, event ≠ .wake request := by
  constructor
  · rintro rfl
    cases source <;> simp_all [Source.channel, Source.offers]
  · rintro request rfl
    cases source <;> simp_all [Source.channel, Source.offers]

/-- Whichever sources a cleanup waits on beside its own work are channels: a shutdown, and a wake
as long as none is latched. -/
theorem channels_channel {source : Source} {latched : Bool}
    (listed : source ∈ if latched then [Source.shutdown] else [.shutdown, .wake]) :
    source.channel = true := by
  cases latched with
  | true =>
    obtain rfl : source = .shutdown := by simpa using listed
    rfl
  | false =>
    obtain rfl | rfl : source = .shutdown ∨ source = .wake := by simpa using listed
    all_goals rfl

/-- A stop sequence's branches tell the stance only about the child. -/
theorem observed_stops {stance : Stance} {source : Source} {event : Event}
    (stops : source.stops = true) (offered : source.offers event = true) :
    stance.observed rcon event =
      { stance with child := if event.reaps then .reaped else stance.child } := by
  cases source <;> cases event <;> simp_all [Source.stops, Source.offers, Stance.observed,
    Event.reaps]
  · split <;> simp_all
  · split <;> simp_all

section Stop

variable {σ : Type} {config : SupervisorConfig} {await : Awaiting σ} {base : σ → Stance}

/-- What a stop sequence needs of its awaits: they return an event of one of the
given branches, and what else they did shows in the value they keep. -/
def Attends (rcon : Bool) (await : Awaiting σ) (base : σ → Stance) : Prop :=
  ∀ {held : σ} {child : ChildState} {sources : List Source} {post : σ × Event → Stance → Prop},
    sources ≠ [] → (∀ source ∈ sources, source.stops = true) →
    (∀ held event, (∃ source ∈ sources, source.offers event = true) →
      post (held, event)
        { base held with child := if event.reaps then .reaped else child }) →
    Safe (conduct rcon) (await held sources) post { base held with child := child }

/-- After a failed tree kill the child is killed directly. Whatever comes of it, the supervisor
has an error to report and knows the child's new state. -/
theorem safe_terminateDirectAfterTreeFailure (attends : Attends rcon await base) {held : σ}
    {child : ChildState} {post : σ × Except SupervisorError Unit → Stance → Prop}
    (failed : ∀ held child error, post (held, .error error) { base held with child := child }) :
    Safe (conduct rcon) (terminateDirectAfterTreeFailure await held) post
      { base held with child := child } := by
  simp only [terminateDirectAfterTreeFailure, Program.bind_eq, safe_bind]
  refine safe_tryWait (fun _ => failed _ _ _) fun result notExited => ?_
  cases result with
  | exited => exact absurd rfl notExited
  | running | failed =>
    simp only [safe_bind]
    exact attends (by simp) (by simp [Source.stops]) fun held event _ => failed held _ _

/-- Terminating kills the tree and then, if need be, the child alone. What the caller does next is
only asked to hold for every state of the child and every result. -/
theorem safe_terminate (attends : Attends rcon await base) {held : σ} {child : ChildState}
    {post : σ × Except SupervisorError Unit → Stance → Prop}
    (ended : ∀ held child result, post (held, result) { base held with child := child }) :
    Safe (conduct rcon) (terminate await held) post { base held with child := child } := by
  simp only [terminate, Program.bind_eq, safe_bind]
  refine safe_tryWait (fun _ => ended _ _ _) fun result notExited => ?_
  cases result with
  | exited => exact absurd rfl notExited
  | failed => exact ended _ _ _
  | running =>
    simp only [safe_bind]
    refine attends (by simp) (by simp [Source.stops]) fun held event _ => ?_
    split
    · exact ended _ _ _
    · exact ended _ _ _
    · exact safe_terminateDirectAfterTreeFailure attends fun held child error => ended held child _

/-- Sending the console command keeps the stance but for the child, which may have ended
meanwhile. -/
theorem safe_sendConsoleStopBefore (attends : Attends rcon await base) {held : σ}
    {child : ChildState} {deadline : Instant} {post : σ × Bool → Stance → Prop}
    (ended : ∀ held child sent, post (held, sent) { base held with child := child }) :
    Safe (conduct rcon) (sendConsoleStopBefore await held deadline) post
      { base held with child := child } := by
  simp only [sendConsoleStopBefore, Program.bind_eq, safe_bind]
  exact attends (by simp) (by simp [Source.stops]) fun held event _ => ended held _ _

/-- Whether by RCON or by the console, sending the stop command keeps the stance but for the
child. -/
theorem safe_sendGracefulStop (attends : Attends rcon await base) {held : σ}
    {child : ChildState} {post : σ × Bool → Stance → Prop}
    (ended : ∀ held child sent, post (held, sent) { base held with child := child }) :
    Safe (conduct rcon) (sendGracefulStop config await held) post
      { base held with child := child } := by
  simp only [sendGracefulStop, Program.bind_eq, safe_bind]
  refine safe_now fun now => ?_
  split
  · simp only [safe_bind]
    refine attends (by simp) (by simp [Source.stops]) fun held event _ => ?_
    split
    · exact ended _ _ _
    · exact safe_sendConsoleStopBefore attends ended
    · exact ended _ _ _
  · exact safe_sendConsoleStopBefore attends ended

/-- The sequence succeeds only after it has seen the child's exit. In every other case, a failed
wait or a child that outlives the reap timeout, it ends with an error, and nothing is known about
the child. -/
theorem safe_terminateAndReap (attends : Attends rcon await base) {held : σ} {child : ChildState}
    {waitError : Bool} {post : σ × Except SupervisorError Unit → Stance → Prop}
    (reaped : ∀ held, post (held, .ok ()) { base held with child := .reaped })
    (failed : ∀ held child error, post (held, .error error) { base held with child := child }) :
    Safe (conduct rcon) (terminateAndReap await held waitError) post
      { base held with child := child } := by
  simp only [terminateAndReap, Program.bind_eq, safe_bind]
  refine safe_terminate attends fun held child termination => safe_now fun now => ?_
  refine attends (by simp) (by simp [Source.stops]) fun held event _ => ?_
  split
  · rename_i exited
    obtain rfl : event = .child .exited := exited
    cases termination with
    | error error => exact failed _ _ _
    | ok value =>
      cases waitError with
      | true => exact failed _ _ _
      | false => exact reaped held
  · exact failed _ _ _
  · exact failed _ _ _

/-- `stop_and_reap` reaps the child or ends with an error. A command that could not be sent leads
to the termination at once; one that was sent is followed by a wait that may lead to it later. -/
theorem safe_stopAndReap (attends : Attends rcon await base) {held : σ} {child : ChildState}
    {post : σ × Except SupervisorError Unit → Stance → Prop}
    (reaped : ∀ held, post (held, .ok ()) { base held with child := .reaped })
    (failed : ∀ held child error, post (held, .error error) { base held with child := child }) :
    Safe (conduct rcon) (stopAndReap config await held) post
      { base held with child := child } := by
  simp only [stopAndReap, Program.bind_eq, safe_bind]
  refine safe_sendGracefulStop attends fun held child sent => ?_
  cases sent with
  | false => exact safe_terminateAndReap attends reaped failed
  | true =>
    simp only [if_true, safe_bind]
    refine safe_now fun now => attends (by simp) (by simp [Source.stops]) fun held event _ => ?_
    split
    · rename_i exited
      obtain rfl : event = .child .exited := exited
      exact reaped held
    · exact safe_terminateAndReap attends reaped failed
    · exact safe_terminateAndReap attends reaped failed

end Stop

section Cleanup

variable {config : SupervisorConfig} {lifecycle : LifecycleState} {child : ChildState}
  {cause : StopCause} {ending : Bool}

/-- Sources that stop a server are not channels, so one of a nonempty list is the supervisor's
own. -/
theorem stops_internal {sources : List Source} (nonempty : sources ≠ [])
    (stops : ∀ source ∈ sources, source.stops = true) :
    ∃ source ∈ sources, source.channel = false := by
  obtain ⟨source, listed⟩ := List.exists_mem_of_ne_nil sources nonempty
  have stop := stops source listed
  refine ⟨source, listed, ?_⟩
  cases source <;> simp_all [Source.stops, Source.channel]

/-- A stop sequence's own branches suit any stopping stage. -/
theorem stops_allowed {latched : Bool} {source : Source} (stops : source.stops = true) :
    Stance.allows ⟨.stopping cause latched, lifecycle, child, false, none, ending⟩ source =
      true := by
  cases source <;> simp_all [Source.stops, Stance.allows]

/-- On its own a stop sequence waits where nothing is to be heard any more. -/
theorem permits_stops {latched : Bool} {sources : List Source}
    (last : ending = true ∨ cause = .quit) (nonempty : sources ≠ [])
    (stops : ∀ source ∈ sources, source.stops = true) :
    Stance.permits ⟨.stopping cause latched, lifecycle, child, false, none, ending⟩
      (.select sources) := by
  refine ⟨rfl, rfl, .inl (stops_internal nonempty stops),
    fun source listed => stops_allowed (stops source listed), .inl ?_⟩
  rcases last with rfl | rfl
  · rfl
  · exact Bool.or_true ending

/-- Beside the channels a latched demand closes the wake branch. The wait then has the branch of
the shutdown only, and the stop's own branch is work that is left to do. -/
theorem permits_beside {latched : Bool} {sources : List Source} (shared : cause ≠ .quit)
    (nonempty : sources ≠ []) (stops : ∀ source ∈ sources, source.stops = true) :
    Stance.permits ⟨.stopping cause latched, lifecycle, child, false, none, false⟩
      (.select ((if latched then [.shutdown] else [.shutdown, .wake]) ++ sources)) := by
  obtain ⟨source, listed, internal⟩ := stops_internal nonempty stops
  refine ⟨rfl, rfl, .inl ⟨source, List.mem_append_right _ listed, internal⟩,
    fun source listed => ?_, .inr (by cases latched <;> rfl)⟩
  rcases List.mem_append.mp listed with channel | own
  · cases latched with
    | true =>
      obtain rfl : source = .shutdown := by simpa using channel
      cases cause <;> first | exact absurd rfl shared | rfl
    | false =>
      obtain rfl | rfl : source = .shutdown ∨ source = .wake := by simpa using channel
      all_goals cases cause <;> first | exact absurd rfl shared | rfl
  · exact stops_allowed (stops source own)

/-- On its own a stop sequence waits for nothing else. The base's child is
immaterial here and below. -/
theorem attends_alone (last : ending = true ∨ cause = .quit) :
    Attends rcon alone fun _ => ⟨.stopping cause false, lifecycle, .live, false, none, ending⟩ := by
  intro _ child sources post nonempty stops reached
  simp only [alone, Program.bind_eq, safe_bind]
  refine safe_select (permits_stops last nonempty stops) ?_ ?_ ?_ ?_
  · intro _ listed
    cases stops _ listed
  · intro _ listed
    cases stops _ listed
  · intro listed
    cases stops _ listed
  · rintro event ⟨source, listed, -, offered⟩ -
    rw [observed_stops (stops source listed) offered]
    exact reached () event ⟨source, listed, offered⟩

/-- Beside the channels a stop sequence keeps receiving until a demand is latched
or a shutdown is observed; the latch says which. -/
theorem attends_beside {latches : WakeRequest → LifecycleState → Bool}
    (shared : cause ≠ .quit)
    (accepts : ∀ request, (Stage.stopping cause false).accepts lifecycle request =
      latches request lifecycle) :
    Attends rcon (beside latches) fun latch =>
      ⟨.stopping cause latch.pending, lifecycle, .live, false, none, latch.shutdownReceived⟩ := by
  intro latch child sources post nonempty stops reached
  refine safe_loop (fun (latch : Latch) stance => stance =
    ⟨.stopping cause latch.pending, lifecycle, child, false, none, latch.shutdownReceived⟩) rfl ?_
  rintro ⟨pending, shutdownReceived⟩ _ rfl
  cases shutdownReceived with
  | true =>
    simp only [if_true, Program.bind_eq, safe_bind]
    refine safe_select (permits_stops (.inl rfl) nonempty stops) ?_ ?_ ?_ ?_
    · intro _ listed
      cases stops _ listed
    · intro _ listed
      cases stops _ listed
    · intro listed
      cases stops _ listed
    · rintro event ⟨source, listed, -, offered⟩ -
      rw [observed_stops (stops source listed) offered]
      exact reached ⟨pending, true⟩ event ⟨source, listed, offered⟩
  | false =>
    simp only [Bool.false_eq_true, if_false, Program.bind_eq, safe_bind]
    refine safe_select (permits_beside shared nonempty stops) ?_ ?_ ?_ ?_
    · exact fun _ _ => rfl
    · exact fun _ _ => rfl
    · intro listed request
      cases pending with
      | true =>
        have foreign : Source.wake ∈ sources := by simpa using listed
        cases stops _ foreign
      | false =>
        simp only [safe_bind]
        refine safe_currentLifecycle (safe_answer (accepts request).symm fun _ => ?_)
        cases latches request lifecycle <;> rfl
    · rintro event ⟨source, listed, internal, offered⟩ -
      have own : source ∈ sources := by
        refine (List.mem_append.mp listed).resolve_left fun channel => ?_
        have foreign := channels_channel channel
        rw [internal] at foreign
        cases foreign
      have leaves := reached ⟨pending, false⟩ event ⟨source, own, offered⟩
      rw [observed_stops (stops source own) offered]
      cases event with
      | shutdown => exact absurd rfl (offers_internal internal offered).1
      | wake request => exact absurd rfl ((offers_internal internal offered).2 request)
      | _ => exact leaves

/-- What the result of a launch cycle says about the stance it ends in. After an
error nothing is asked but that the supervisor owes no answer. -/
def CycleLeaves : CycleResult → Stance → Prop
  | .ok .stopped, stance =>
    ∃ lifecycle, stance = .calm (.stopping .idle false) lifecycle .reaped
  | .ok .restart, stance =>
    ∃ lifecycle, stance = .calm (.stopping .idle true) lifecycle .reaped
  | .ok (.failed _ retryPending), stance =>
    ∃ lifecycle child, stance = .calm (.cooling retryPending) lifecycle child
  | .ok .shutdown, stance =>
    ∃ cause latched lifecycle, stance = .ended (.stopping cause latched) lifecycle .reaped
  | .error _, stance => stance.offer = none

/-- A cleanup that is under way is published as such. -/
theorem Stance.Sound.phase_stopping {latched held : Bool}
    {offer : Option WakeRequest}
    (sound : Stance.Sound ⟨.stopping cause latched, lifecycle, child, held, offer, ending⟩) :
    lifecycle.phase = .stopping := by
  have situation := sound.situated
  cases cause <;> simp_all [Stance.situated]

/-- When waiting for the child has failed, the cycle ends with an error, after whatever the
cleanup could do. -/
theorem safe_reapAfterWaitError
    (sound : Stance.Sound ⟨.owned, lifecycle, child, false, none, ending⟩) :
    Safe (conduct rcon) (reapAfterWaitError config) CycleLeaves
      ⟨.owned, lifecycle, child, false, none, ending⟩ := by
  simp only [reapAfterWaitError, Program.bind_eq, safe_bind]
  refine safe_setPhase .stopping (.stopping .quit false) rfl
    (sound.admits_setPhase .stopping (.inr rfl) ?_) (fun _ => rfl) fun stopping sound => ?_
  · rcases sound.situated with phase | phase <;> simp_all
  · refine safe_stopAndReap (attends_alone (.inr rfl)) (fun _ => ?_) fun _ child error => rfl
    simp only [safe_bind]
    refine safe_setPhase .stopped .closing rfl (sound.admits_setPhase .stopped (.inl rfl) ?_)
      (fun _ => rfl) fun _ _ => rfl
    simp [sound.phase_stopping]

/-- A server that the supervisor owns is starting or running, and no reconciliation is pending for
it. -/
theorem Stance.Sound.owned_evidence {child : ChildState} {held : Bool}
    (sound : Stance.Sound ⟨.owned, lifecycle, child, held, none, ending⟩) :
    (lifecycle.phase = .starting ∨ lifecycle.phase = .running) ∧
      lifecycle.reconciliationEvidence = .none := by
  have phase : lifecycle.phase = .starting ∨ lifecycle.phase = .running := sound.situated
  refine ⟨phase, sound.evidence_none ?_⟩
  rcases phase with starting | running <;> simp_all

/-- A stop for a shutdown leaves the cycle in order, with the shutdown remembered. -/
theorem safe_stopForShutdown (sound : (Stance.ended .owned lifecycle child).Sound) :
    Safe (conduct rcon) (stopForShutdown config) CycleLeaves
      (Stance.ended .owned lifecycle child) := by
  obtain ⟨phase, evidence⟩ := sound.owned_evidence
  simp only [stopForShutdown, Program.bind_eq, safe_bind]
  refine safe_setPhase .stopping (.stopping .quit false) rfl
    (by simpa [Transition.admits] using evidence) (fun _ => rfl) fun stopping _ => ?_
  exact safe_stopAndReap (attends_alone (.inr rfl)) (fun _ => ⟨_, _, _, rfl⟩) fun _ _ _ => rfl

/-- A child that was seen to exit has its failure recorded without a stop. -/
theorem safe_reapedFailure {failure : FailureCategory} {post : CycleOutcome → Stance → Prop}
    (sound : (Stance.calm .owned lifecycle .reaped).Sound)
    (recorded : ∀ retryAt next, post (.failed retryAt false)
      (.calm (.cooling false) next .reaped)) :
    Safe (conduct rcon) (reapedFailure failure) post (.calm .owned lifecycle .reaped) := by
  obtain ⟨phase, evidence⟩ := sound.owned_evidence
  simp only [reapedFailure, recordReapedFailure, Program.bind_eq, safe_bind]
  refine safe_advance (.cooling false) rfl ?_ (fun _ => rfl) fun now next _ _ => recorded _ next
  simpa [Transition.admits, evidence, saturatingSucc_pos] using phase

/-- An error of the wait is not an exit, so the child may still be alive then. -/
theorem safe_processWaitOutcome {status : WaitResult} {failure : FailureCategory}
    (sound : (Stance.calm .owned lifecycle child).Sound)
    (exited : status = .exited → child = .reaped) :
    Safe (conduct rcon) (processWaitOutcome config status failure) CycleLeaves
      (.calm .owned lifecycle child) := by
  cases status with
  | exited =>
    obtain rfl := exited rfl
    simp only [processWaitOutcome, Program.bind_eq, safe_bind]
    exact safe_reapedFailure sound fun _ next => ⟨next, _, rfl⟩
  | failed => exact safe_reapAfterWaitError sound

/-- The end of a failure's cleanup publishes the cooldown with its delay, unless a shutdown was
received meanwhile, and leaves the cycle in order. -/
theorem safe_finishFailedCleanup {retryDelay : Duration}
    (sound : (Stance.calm (.stopping (.failed retryDelay) false) lifecycle child).Sound) :
    Safe (conduct rcon) (finishFailedCleanup config retryDelay) CycleLeaves
      (.calm (.stopping (.failed retryDelay) false) lifecycle child) := by
  have phase := sound.phase_stopping
  have evidence := sound.evidence_none (by simp [phase])
  simp only [finishFailedCleanup, Program.bind_eq, safe_bind]
  refine safe_stopAndReap (attends_beside (by simp) fun _ => rfl) (fun latch => ?_) fun _ _ _ => rfl
  obtain ⟨pending, shutdownReceived⟩ := latch
  cases shutdownReceived with
  | true => exact ⟨_, _, _, rfl⟩
  | false =>
    simp only [Bool.false_eq_true, if_false, safe_bind]
    refine safe_shutdownPending_steady ⟨rfl, rfl⟩ (fun _ => ⟨_, _, _, rfl⟩) ?_
    simp only [Bool.false_eq_true, if_false, finishFailureCleanup, Program.bind_eq, safe_bind]
    refine safe_advance (.cooling pending) ?_ ?_ (fun _ => rfl) fun now next _ _ => ⟨_, _, rfl⟩
    · simp [Stance.legal]
    · simpa [Transition.admits, phase] using evidence

/-- Stopping a server that failed to start runs from the publication of the cleanup to that of its
end. -/
theorem safe_stopFailedServer {failure : FailureCategory}
    (sound : (Stance.calm .owned lifecycle child).Sound)
    (starting : lifecycle.phase = .starting) :
    Safe (conduct rcon) (stopFailedServer config failure) CycleLeaves
      (.calm .owned lifecycle child) := by
  obtain ⟨-, evidence⟩ := sound.owned_evidence
  simp only [stopFailedServer, beginFailureCleanup, Program.bind_eq, safe_bind]
  refine safe_advance
    (.stopping (.failed (failureBackoff (saturatingSucc lifecycle.failureStreak))) false) rfl ?_
    (fun _ => rfl) fun now next built sound => ?_
  · simpa [Transition.admits, saturatingSucc_pos, evidence] using starting
  · subst built
    exact safe_finishFailedCleanup sound

/-- The drain accepts by the same rule as the cleanup before it, so that a restart which arrived
at the last moment is not lost. The loop keeps whether one was latched. -/
theorem safe_drainRestarts {restart : Bool} {post : CycleOutcome → Stance → Prop}
    (restarted : ∀ latched, post (if latched then .restart else .stopped)
      (.calm (.stopping .idle latched) lifecycle .reaped))
    (shutdown : ∀ latched, post .shutdown (.ended (.stopping .idle latched) lifecycle .reaped)) :
    Safe (conduct rcon) (drainRestarts restart) post
      (.calm (.stopping .idle restart) lifecycle .reaped) := by
  refine safe_loop (fun restart stance => stance =
    .calm (.stopping .idle restart) lifecycle .reaped) rfl ?_
  rintro restart _ rfl
  simp only [Program.bind_eq, safe_bind]
  refine safe_access ⟨rfl, ⟨restart, rfl⟩, by simp⟩ fun reply _ => ?_
  cases reply with
  | empty => exact restarted restart
  | disconnected => exact shutdown restart
  | received request =>
    simp only [safe_bind]
    refine safe_currentLifecycle (safe_answer rfl fun _ => ?_)
    cases request.requestsRestart lifecycle <;> cases restart <;> rfl

/-- Once the idle stop is committed it is carried through: the only ways out are a reaped child or
an error. -/
theorem safe_stopCommittedIdleServer
    (sound : (Stance.calm (.stopping .idle false) lifecycle child).Sound) :
    Safe (conduct rcon) (stopCommittedIdleServer config) CycleLeaves
      (.calm (.stopping .idle false) lifecycle child) := by
  obtain ⟨phase, failure⟩ : lifecycle.phase = .stopping ∧ lifecycle.failure = none :=
    sound.situated
  have streak : lifecycle.failureStreak = 0 := by
    have counted := sound.wellFormed.streak
    simp only [failure] at counted
    simpa using counted
  simp only [stopCommittedIdleServer, Program.bind_eq, safe_bind]
  refine safe_currentLifecycle (safe_assert (by simp [phase, failure, streak]) ?_)
  refine safe_stopAndReap (attends_beside (by simp) fun _ => rfl) (fun latch => ?_) fun _ _ _ => rfl
  obtain ⟨pending, shutdownReceived⟩ := latch
  cases shutdownReceived with
  | true => exact ⟨_, _, _, rfl⟩
  | false =>
    simp only [Bool.false_eq_true, if_false, safe_bind]
    refine safe_shutdownPending_steady ⟨rfl, rfl⟩ (fun _ => ⟨_, _, _, rfl⟩) ?_
    simp only [Bool.false_eq_true, if_false, safe_bind]
    refine safe_drainRestarts (fun latched => ?_) fun latched => ⟨_, _, _, rfl⟩
    cases latched <;> exact ⟨_, rfl⟩

end Cleanup

end McServerNap
