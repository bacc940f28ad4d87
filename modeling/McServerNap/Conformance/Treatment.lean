import McServerNap.Conformance.Kinds
import McServerNap.Treatment

/-!
# The supervisor treats its child in order

A stop goes through its steps in order, whether it waits alone or beside the channels,
and it succeeds only when the child is reaped and nothing has failed. A cycle ends
accordingly.
-/

namespace McServerNap

open Interaction SupervisorControl

variable {config : SupervisorConfig} {treatment : Treatment} {α σ : Type}

/-- The treatment has to permit the operation, and what follows has to hold for each of its
replies. -/
theorem treats_access {op : Op} {post : Reply op → Treatment → Prop}
    (permitted : treatment.permits op)
    (handled : ∀ reply, post reply (treatment.after config op reply)) :
    Safe (treating config) (access op) post treatment :=
  ⟨permitted, fun reply _ => handled reply⟩

/-- Of a wait every branch has to be admitted, and only events that a branch offers need to be
handled. -/
theorem treats_select {sources : List Source} {post : Event → Treatment → Prop}
    (admitted : ∀ source ∈ sources, treatment.admits source)
    (handled : ∀ event, (∃ source ∈ sources, source.offers event = true) →
      post event (treatment.after config (.select sources) event)) :
    Safe (treating config) (select sources) post treatment :=
  ⟨admitted, handled⟩

/-- What neither waits, publishes nor looks at the clock keeps any treatment. -/
theorem treats_plain {program : Supervised α} (plain : Issues Op.plain program) :
    Safe (treating config) program (fun _ later => later = treatment) treatment := by
  refine Issues.safe (fun current op same admitted => ?_) plain rfl
  subst same
  cases op <;> first | exact ⟨trivial, fun _ _ => rfl⟩ | cases admitted

/-- Reading the clock starts no deadline. -/
def Treatment.timeless (treatment : Treatment) : Bool :=
  match treatment.progress with
  | .begun | .sent => false
  | _ => true

/-- Where no deadline is being computed a reading changes nothing. -/
theorem Treatment.after_now (timeless : treatment.timeless = true) (reading : Instant) :
    treatment.after config .now reading = treatment := by
  obtain ⟨child, ready, progress, failed⟩ := treatment
  cases progress <;> first | rfl | cases timeless

/-- Reading the clock is permitted everywhere, and keeps a timeless treatment. -/
theorem treats_now {post : Instant → Treatment → Prop} (timeless : treatment.timeless = true)
    (handled : ∀ reading, post reading treatment) :
    Safe (treating config) now post treatment := by
  refine treats_access trivial fun reading => ?_
  rw [Treatment.after_now timeless]
  exact handled reading

/-- The treatment after a publication. -/
def Treatment.published (treatment : Treatment) (transition : Transition) : Treatment :=
  { treatment with ready := false, progress := if transition.stops then .begun else .idle }

/-- After an assertion its condition is known. -/
theorem treats_assert {condition : Bool} {post : Unit → Treatment → Prop}
    (reached : condition = true → post () treatment) :
    Safe (treating config) (assert condition) post treatment := by
  cases condition with
  | true => exact reached rfl
  | false => exact ⟨trivial, fun reply => reply.elim⟩

/-- A publishing function reads the clock and publishes. -/
theorem treats_advance {transition : Transition} {post : LifecycleState × Instant → Treatment → Prop}
    (timeless : treatment.timeless = true) (unready : transition ≠ .publishRunning)
    (live : transition.stops = true → treatment.child = .live)
    (reached : ∀ value, post value (treatment.published transition)) :
    Safe (treating config) (advance transition) post treatment := by
  simp only [advance, publish, Program.bind_eq, safe_bind]
  refine treats_access trivial fun current => treats_assert fun _ => ?_
  refine treats_now timeless fun reading => treats_assert fun _ => ?_
  exact treats_access ⟨fun same => absurd same unready, live⟩ fun _ => reached _

/-- A stop may only be published for a child that is alive; any other phase may be published for
any. -/
theorem treats_setPhase {phase : ServerPhase} {post : Unit → Treatment → Prop}
    (timeless : treatment.timeless = true) (live : phase = .stopping → treatment.child = .live)
    (reached : post () (treatment.published (.setPhase phase))) :
    Safe (treating config) (setPhase phase) post treatment := by
  simp only [setPhase, Program.bind_eq, safe_bind]
  refine treats_advance timeless (by simp) (fun stops => live ?_) fun _ => reached
  simpa [Transition.stops] using stops

/-- Looking for a shutdown is plain. -/
theorem treats_shutdownPending {post : Bool → Treatment → Prop}
    (reached : ∀ pending, post pending treatment) :
    Safe (treating config) shutdownPending post treatment := by
  refine (treats_plain (issues_shutdownPending fun _ plain => plain)).mono ?_
  rintro pending _ rfl
  exact reached pending

/-! ## Stopping -/

section Stop

variable {await : Awaiting σ}

/-- The await of a stop yields an event of the stop's own branches. -/
def Treats (config : SupervisorConfig) (await : Awaiting σ) : Prop :=
  ∀ {held sources} {treatment : Treatment} {post : σ × Event → Treatment → Prop},
    treatment.ready = false → (∀ source ∈ sources, treatment.admits source) →
    (∀ held event, (∃ source ∈ sources, source.offers event = true) →
      post (held, event) (treatment.after config (.select sources) event)) →
    Safe (treating config) (await held sources) post treatment

/-- Waiting alone yields an event of the stop's own branches. -/
theorem treats_alone : Treats config alone := by
  rintro held sources treatment post - admitted reached
  simp only [alone, Program.bind_eq, safe_bind]
  exact treats_select admitted (reached ())

variable (config) in
/-- An event of the channels changes nothing in a stop. -/
theorem Treatment.after_channel {sources : List Source} {event : Event}
    (unready : treatment.ready = false)
    (channel : event = .shutdown ∨ ∃ request, event = .wake request) :
    treatment.after config (.select sources) event = treatment := by
  obtain ⟨child, ready, progress, failed⟩ := treatment
  obtain rfl : ready = false := unready
  rcases channel with rfl | ⟨request, rfl⟩ <;> cases failed <;> rfl

/-- The channels that a stop polls beside its own branches. -/
theorem mem_channels {pending : Bool} {source : Source}
    (listed : source ∈ if pending then [Source.shutdown] else [.shutdown, .wake]) :
    source = .shutdown ∨ source = .wake := by
  cases pending with
  | true => exact .inl (by simpa using listed)
  | false => simpa using listed

/-- The shutdown channel offers a shutdown only. -/
theorem offers_shutdown {event : Event} (offered : Source.shutdown.offers event = true) :
    event = .shutdown := by
  cases event <;> first | rfl | cases offered

/-- The wake channel offers a wake, or that it is closed. -/
theorem offers_wake {event : Event} (offered : Source.wake.offers event = true) :
    ∃ request, event = .wake request := by
  cases event <;> first | exact ⟨_, rfl⟩ | cases offered

/-- Waiting beside the channels does so as well. The channels' own events keep the treatment, and
the loop waits again. -/
theorem treats_beside (latches : WakeRequest → LifecycleState → Bool) :
    Treats config (beside latches) := by
  intro latch sources treatment post unready admitted reached
  refine safe_loop (fun _ later => later = treatment) rfl fun latch _ same => ?_
  subst same
  split
  · simp only [Program.bind_eq, safe_bind]
    exact treats_select admitted (reached latch)
  · simp only [Program.bind_eq, safe_bind]
    refine treats_select (fun source listed => ?_) fun event offered => ?_
    · rcases List.mem_append.mp listed with channel | own
      · rcases mem_channels channel with rfl | rfl <;> trivial
      · exact admitted source own
    · split
      · exact Treatment.after_channel config unready (.inl rfl)
      · exact Treatment.after_channel config unready (.inr ⟨_, rfl⟩)
      · simp only [safe_bind]
        refine treats_access trivial fun current => treats_access trivial fun _ => ?_
        exact Treatment.after_channel config unready (.inr ⟨_, rfl⟩)
      · rename_i unsignalled closed asked
        refine reached latch event ?_
        obtain ⟨source, listed, offered⟩ := offered
        rcases List.mem_append.mp listed with channel | own
        · rcases mem_channels channel with rfl | rfl
          · exact absurd (offers_shutdown offered) unsignalled
          · obtain ⟨request, rfl⟩ := offers_wake offered
            cases request with
            | none => exact absurd rfl closed
            | some request => exact absurd rfl (asked request)
        · exact ⟨source, own, offered⟩

/-- Waiting for the tree kill alone yields its outcome. -/
theorem offers_killTree {event : Event}
    (offered : ∃ source ∈ [Source.killTree], source.offers event = true) :
    ∃ outcome, event = .killTree outcome := by
  obtain ⟨source, listed, offered⟩ := offered
  obtain rfl := List.mem_singleton.mp listed
  cases event <;> first | exact ⟨_, rfl⟩ | cases offered

/-- Waiting for the kill of the child alone yields whether it succeeded. -/
theorem offers_kill {event : Event}
    (offered : ∃ source ∈ [Source.kill], source.offers event = true) :
    ∃ ok, event = .kill ok := by
  obtain ⟨source, listed, offered⟩ := offered
  obtain rfl := List.mem_singleton.mp listed
  cases event <;> first | exact ⟨_, rfl⟩ | cases offered

/-- The branch for the child tells how the wait for it ended. -/
theorem offers_child {event : Event} (offered : Source.child.offers event = true) :
    ∃ status, event = .child status := by
  cases event <;> first | exact ⟨_, rfl⟩ | cases offered

/-- The RCON branch tells whether the server took the command. -/
theorem offers_rconStop {event : Event} (offered : Source.rconStop.offers event = true) :
    ∃ ok, event = .rconStop ok := by
  cases event <;> first | exact ⟨_, rfl⟩ | cases offered

/-- So does the console's. -/
theorem offers_consoleStop {event : Event} (offered : Source.consoleStop.offers event = true) :
    ∃ ok, event = .consoleStop ok := by
  cases event <;> first | exact ⟨_, rfl⟩ | cases offered

/-- A branch and the deadline it races with. -/
theorem offers_before {own : Source} {timer : Timer} {deadline : Instant} {event : Event}
    (offered : ∃ source ∈ [own, .sleepUntil timer deadline], source.offers event = true) :
    own.offers event = true ∨ event = .elapsed timer := by
  obtain ⟨source, listed, offered⟩ := offered
  simp only [List.mem_cons, List.not_mem_nil, or_false] at listed
  rcases listed with rfl | rfl
  · exact .inl offered
  · cases event with
    | elapsed other => exact .inr (congrArg _ (of_decide_eq_true offered).symm)
    | _ => cases offered

/-- How a stop leaves a child. It succeeds only with the child reaped and no failure,
and otherwise something has failed. -/
def Stopped (before : Treatment) (result : Except SupervisorError Unit) (after : Treatment) :
    Prop :=
  after.timeless = true ∧
    match result with
    | .ok () => after.child = .reaped ∧ after.failed = before.failed
    | .error _ => after.failed = true

/-- How the termination of a process tree leaves a child that is still to be reaped. -/
def ForceTreated (before : Treatment) (result : Except SupervisorError Unit) (after : Treatment) :
    Prop :=
  after.timeless = true ∧ after.ready = false ∧
    match result with
    | .ok () => after.failed = before.failed
    | .error _ => after.failed = true

/-- The child is killed directly only after its tree was not, so this always ends with the
termination's error. -/
theorem treats_terminateDirectAfterTreeFailure (treats : Treats config await) {held : σ}
    {post : σ × Except SupervisorError Unit → Treatment → Prop} (unready : treatment.ready = false)
    (live : treatment.child = .live) (spared : treatment.progress = .spared)
    (failed : treatment.failed = true)
    (reached : ∀ held later, ForceTreated treatment (.error .termination) later →
      post (held, .error .termination) later) :
    Safe (treating config) (terminateDirectAfterTreeFailure await held) post treatment := by
  obtain ⟨child, ready, progress, broken⟩ := treatment
  obtain rfl : ready = false := unready
  obtain rfl : child = .live := live
  obtain rfl : progress = .spared := spared
  obtain rfl : broken = true := failed
  have killed (outcome : TryWaitResult) (other : outcome ≠ .exited) :
      Safe (treating config) (await held [.kill])
        (fun value later => post (value.1, .error .termination) later)
        ((Treatment.mk .live false .spared true).after config .tryWait outcome) := by
    refine treats rfl (List.forall_mem_singleton.mpr ⟨if_neg other, rfl⟩) fun held event offered => ?_
    obtain ⟨ok, rfl⟩ := offers_kill offered
    exact reached _ _ ⟨rfl, rfl, rfl⟩
  simp only [terminateDirectAfterTreeFailure, Program.bind_eq, safe_bind]
  refine treats_access trivial fun outcome => ?_
  cases outcome with
  | exited => exact reached _ _ ⟨rfl, rfl, rfl⟩
  | running | failed =>
    simp only [safe_bind]
    exact killed _ (by simp)

/-- A termination is due when no command was taken or the wait after it has expired, and it
succeeds when the tree kill does. -/
theorem treats_terminate (treats : Treats config await) {held : σ}
    {post : σ × Except SupervisorError Unit → Treatment → Prop} (unready : treatment.ready = false)
    (live : treatment.child = .live)
    (due : treatment.progress = .unsent ∨ treatment.progress = .expired)
    (reached : ∀ held result later, ForceTreated treatment result later → post (held, result) later) :
    Safe (treating config) (terminate await held) post treatment := by
  obtain ⟨child, ready, progress, failed⟩ := treatment
  obtain rfl : ready = false := unready
  obtain rfl : child = .live := live
  have timeless : ∀ child failed,
      Treatment.timeless ⟨child, false, progress, failed⟩ = true := by
    intro child failed
    rcases due with rfl | rfl <;> rfl
  simp only [terminate, Program.bind_eq, safe_bind]
  refine treats_access trivial fun outcome => ?_
  cases outcome with
  | failed => exact reached _ _ _ ⟨timeless _ _, rfl, Bool.or_true _⟩
  | exited => exact reached _ _ _ ⟨timeless _ _, rfl, Bool.or_false _⟩
  | running =>
    simp only [safe_bind]
    refine treats rfl (List.forall_mem_singleton.mpr ⟨rfl, due⟩) fun held event offered => ?_
    obtain ⟨outcome, rfl⟩ := offers_killTree offered
    cases outcome with
    | killed => exact reached _ _ _ ⟨rfl, rfl, by simp [Treatment.after, Event.failsChild]⟩
    | unavailable => exact reached _ _ _ ⟨rfl, rfl, by simp [Treatment.after, Event.failsChild]⟩
    | failed =>
      refine treats_terminateDirectAfterTreeFailure treats rfl rfl rfl ?_ fun held later => ?_
      · simp [Treatment.after, Event.failsChild]
      · exact fun kept => reached held _ later kept

/-- Termination and reaping succeed together only with the child reaped, and never after a failed
wait for it. -/
theorem treats_terminateAndReap (treats : Treats config await) {held : σ} {waitError : Bool}
    {post : σ × Except SupervisorError Unit → Treatment → Prop} (unready : treatment.ready = false)
    (live : treatment.child = .live)
    (due : treatment.progress = .unsent ∨ treatment.progress = .expired)
    (erred : waitError = true → treatment.failed = true)
    (reached : ∀ held result later, Stopped treatment result later →
      (result = .ok () → waitError = false) → post (held, result) later) :
    Safe (treating config) (terminateAndReap await held waitError) post treatment := by
  simp only [terminateAndReap, Program.bind_eq, safe_bind]
  refine treats_terminate treats unready live due fun held termination later terminated => ?_
  obtain ⟨timeless, unready, result⟩ := terminated
  refine treats_now timeless fun reading => ?_
  refine treats unready (by simp [Treatment.admits]) fun held event offered => ?_
  obtain ⟨child, ready, progress, failed⟩ := later
  obtain rfl : ready = false := unready
  rcases offers_before offered with own | rfl
  · obtain ⟨status, rfl⟩ := offers_child own
    cases status with
    | exited =>
      cases termination with
      | error error => exact reached _ _ _ ⟨timeless, Bool.or_eq_true_iff.mpr (.inl result)⟩ (by simp)
      | ok =>
        have kept : failed = treatment.failed := result
        subst kept
        cases waitError with
        | true => exact reached _ _ _ ⟨timeless, by simp [Treatment.after, erred rfl]⟩ (by simp)
        | false =>
          exact reached _ _ _ ⟨timeless, by simp [Treatment.after, Event.failsChild]⟩ fun _ => rfl
    | failed =>
      refine reached _ _ _ ⟨?_, Bool.or_true _⟩ (by simp)
      cases progress <;> first | rfl | cases timeless
  · exact reached _ _ _ ⟨timeless, Bool.or_true _⟩ (by simp)

/-- The stop command of a stop that has begun was sent, or nobody took it: over RCON first where
that is configured, and over the console where it was refused or not configured. -/
theorem treats_sendGracefulStop (treats : Treats config await) {held : σ} {failed : Bool}
    {post : σ × Bool → Treatment → Prop}
    (reached : ∀ held sent, post (held, sent)
      ⟨.live, false, if sent then .sent else .unsent, failed⟩) :
    Safe (treating config) (sendGracefulStop config await held) post
      ⟨.live, false, .begun, failed⟩ := by
  have console : ∀ held deadline progress, progress = .commanding ∨ progress = .refused →
      Safe (treating config) (sendConsoleStopBefore await held deadline) post
        ⟨.live, false, progress, failed⟩ := by
    intro held deadline progress commanded
    simp only [sendConsoleStopBefore, Program.bind_eq, safe_bind]
    refine treats rfl (by simpa [Treatment.admits] using commanded) fun held event offered => ?_
    rcases offers_before offered with own | rfl
    · obtain ⟨ok, rfl⟩ := offers_consoleStop own
      cases ok <;> cases failed <;> exact reached _ _
    · rcases commanded with rfl | rfl <;> cases failed <;> exact reached _ false
  simp only [sendGracefulStop, Program.bind_eq, safe_bind]
  refine treats_access trivial fun reading => ?_
  split
  · simp only [safe_bind]
    refine treats rfl (by simp [Treatment.admits, Treatment.after]) fun held event offered => ?_
    rcases offers_before offered with own | rfl
    · obtain ⟨ok, rfl⟩ := offers_rconStop own
      cases ok with
      | true => cases failed <;> exact reached _ true
      | false => cases failed <;> exact console _ _ _ (.inr rfl)
    · cases failed <;> exact reached _ false
  · exact console _ _ _ (.inl rfl)

/-- A stop that has begun reaps the child, or something fails. Only a command that was sent is
given the grace of the shutdown timeout; without one the child is terminated at once. -/
theorem treats_stopAndReap (treats : Treats config await) {held : σ} {failed : Bool}
    {post : σ × Except SupervisorError Unit → Treatment → Prop}
    (reached : ∀ held result later, Stopped ⟨.live, false, .begun, failed⟩ result later →
      post (held, result) later) :
    Safe (treating config) (stopAndReap config await held) post ⟨.live, false, .begun, failed⟩ := by
  simp only [stopAndReap, Program.bind_eq, safe_bind]
  refine treats_sendGracefulStop treats fun held sent => ?_
  cases sent with
  | false =>
    exact treats_terminateAndReap treats rfl rfl (.inl rfl) (by simp)
      fun held result later stopped _ => reached held result later stopped
  | true =>
    simp only [if_true, safe_bind]
    refine treats_access trivial fun reading => ?_
    refine treats rfl (by simp [Treatment.admits, Treatment.after]) fun held event offered => ?_
    rcases offers_before offered with own | rfl
    · obtain ⟨status, rfl⟩ := offers_child own
      cases status with
      | exited => exact reached _ _ _ ⟨rfl, rfl, by simp [Treatment.after, Event.failsChild]⟩
      | failed =>
        refine treats_terminateAndReap treats rfl rfl (.inr rfl) (fun _ => Bool.or_true _)
          fun held result later stopped unerred => reached held result later ?_
        cases result with
        | ok => exact absurd (unerred rfl) (by simp)
        | error error => exact stopped
    · refine treats_terminateAndReap treats rfl rfl (.inr rfl) (by simp)
        fun held result later stopped _ => reached held result later ⟨stopped.1, ?_⟩
      cases result with
      | ok => simpa [Treatment.after, Event.failsChild] using stopped.2
      | error error => exact stopped.2

end Stop

/-! ## Cycles -/

section Cleanup

/-- How a cycle ends: with the child reaped, or with an error, which is what a failure
leads to. -/
def CycleTreated : CycleResult → Treatment → Prop
  | .ok _, treatment =>
    treatment.child = .reaped ∧ treatment.failed = false ∧ treatment.timeless = true
  | .error _, treatment => treatment.failed = true

/-- A tended child is stopped. -/
theorem treats_stopForShutdown (tended : treatment.Tended) :
    Safe (treating config) (stopForShutdown config) CycleTreated treatment := by
  obtain ⟨child, ready, progress, failed⟩ := treatment
  obtain ⟨rfl, rfl, rfl⟩ := tended
  simp only [stopForShutdown, Program.bind_eq, safe_bind]
  refine treats_setPhase rfl (fun _ => rfl) ?_
  refine treats_stopAndReap treats_alone fun held cleanup later stopped => ?_
  obtain ⟨timeless, result⟩ := stopped
  cases cleanup with
  | error error => exact result
  | ok => exact ⟨result.1, result.2, timeless⟩

/-- A wait for a tended child has ended. -/
def ChildWaited (status : WaitResult) (treatment : Treatment) : Prop :=
  treatment.timeless = true ∧
    match status with
    | .exited => treatment.child = .reaped ∧ treatment.failed = false
    | .failed => treatment.child = .live ∧ treatment.failed = true

/-- After a failed wait something has failed, so the cycle ends with an error, reaped or not. -/
theorem treats_reapAfterWaitError (waited : ChildWaited .failed treatment) :
    Safe (treating config) (reapAfterWaitError config) CycleTreated treatment := by
  obtain ⟨child, ready, progress, failed⟩ := treatment
  obtain ⟨timeless, rfl, rfl⟩ := waited
  simp only [reapAfterWaitError, Program.bind_eq, safe_bind]
  refine treats_setPhase timeless (fun _ => rfl) ?_
  refine treats_stopAndReap treats_alone fun held cleanup later stopped => ?_
  obtain ⟨timeless, result⟩ := stopped
  cases cleanup with
  | error error => exact result
  | ok =>
    simp only [safe_bind]
    exact treats_setPhase timeless (by simp) result.2

/-- Recording the failure of a reaped child leaves it reaped. -/
theorem treats_reapedFailure {failure : FailureCategory}
    {post : CycleOutcome → Treatment → Prop} (waited : ChildWaited .exited treatment)
    (recorded : ∀ retryAt later, CycleTreated (.ok (.failed retryAt false)) later →
      post (.failed retryAt false) later) :
    Safe (treating config) (reapedFailure failure) post treatment := by
  simp only [reapedFailure, recordReapedFailure, Program.bind_eq, safe_bind]
  refine treats_advance waited.1 (by simp) (by simp [Transition.stops]) fun value => ?_
  exact recorded _ _ ⟨waited.2.1, waited.2.2, rfl⟩

/-- An exit reported by the wait is recorded, and a failed wait leads to reaping. -/
theorem treats_processWaitOutcome {status : WaitResult} {failure : FailureCategory}
    (waited : ChildWaited status treatment) :
    Safe (treating config) (processWaitOutcome config status failure) CycleTreated treatment := by
  cases status with
  | exited =>
    simp only [processWaitOutcome, Program.bind_eq, safe_bind]
    exact treats_reapedFailure waited fun retryAt later treated => treated
  | failed => exact treats_reapAfterWaitError waited

/-- A server that failed to start is stopped from the beginning, and its failure is recorded once
it is reaped. -/
theorem treats_stopFailedServer {failure : FailureCategory} (tended : treatment.Tended) :
    Safe (treating config) (stopFailedServer config failure) CycleTreated treatment := by
  obtain ⟨child, ready, progress, failed⟩ := treatment
  obtain ⟨rfl, rfl, rfl⟩ := tended
  simp only [stopFailedServer, beginFailureCleanup, finishFailedCleanup, Program.bind_eq, safe_bind]
  refine treats_advance rfl (by simp) (fun _ => rfl) fun value => ?_
  refine treats_stopAndReap (treats_beside _) fun latch cleanup later stopped => ?_
  obtain ⟨timeless, result⟩ := stopped
  cases cleanup with
  | error error => exact result
  | ok =>
    dsimp only
    split
    · exact ⟨result.1, result.2, timeless⟩
    · simp only [safe_bind]
      refine treats_shutdownPending fun pending => ?_
      split
      · exact ⟨result.1, result.2, timeless⟩
      · simp only [finishFailureCleanup, Program.bind_eq, safe_bind]
        refine treats_advance timeless (by simp) (by simp [Transition.stops]) fun value => ?_
        exact ⟨result.1, result.2, rfl⟩

/-- A committed idle stop has begun for a live child, and the cycle ends well only once it is
reaped. -/
theorem treats_stopCommittedIdleServer :
    Safe (treating config) (stopCommittedIdleServer config) CycleTreated
      ⟨.live, false, .begun, false⟩ := by
  simp only [stopCommittedIdleServer, Program.bind_eq, safe_bind]
  refine treats_access trivial fun stopping => treats_assert fun _ => ?_
  refine treats_stopAndReap (treats_beside _) fun latch cleanup later stopped => ?_
  obtain ⟨timeless, result⟩ := stopped
  cases cleanup with
  | error error => exact result
  | ok =>
    dsimp only
    split
    · exact ⟨result.1, result.2, timeless⟩
    · simp only [safe_bind]
      refine treats_shutdownPending fun pending => ?_
      split
      · exact ⟨result.1, result.2, timeless⟩
      · simp only [safe_bind]
        refine (treats_plain (issues_drainRestarts (fun _ plain => plain) _)).mono ?_
        rintro outcome _ rfl
        exact ⟨result.1, result.2, timeless⟩

end Cleanup

end McServerNap
