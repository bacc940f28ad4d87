import McServerNap.Conformance.Ledger
import McServerNap.Pace
import McServerNap.Publications

/-!
# The streak of failures

Each launch cycle that fails is counted once, the streak is forgotten only for a committed
idle stop and for a child that was found alive after its stability window, and a failed
cycle delays the next launch by the backoff of its streak, counted from the reaping.
-/

namespace McServerNap

open Interaction

/-- A launch cycle that has failed fails no more; what fails next is a new launch, or
comes after it. -/
def FailsOnce (origin : LifecycleState) (history : List Happening) : Prop :=
  ∀ later happening earlier, history = later ++ happening :: earlier →
    (Happening.failure (published origin earlier).phase happening).isSome = true →
    cycleFailed origin earlier = true → Happening.launches happening = true

/-! ## How the history's accounts grow -/

section Growth

variable {origin : LifecycleState} {history : List Happening}

/-- Only a publication changes what was published last. -/
theorem published_issued (op : Op) (reply : Reply op) :
    published origin (.issued op reply :: history) =
      match op with
      | .publish _ next => next
      | _ => published origin history := by
  cases op <;> rfl

/-- Until the next publication a failure is still to be counted, and the first one counts. -/
theorem uncounted_issued {op : Op} (reply : Reply op)
    (unpublished : ∀ transition next, op ≠ .publish transition next) :
    uncounted origin (.issued op reply :: history) =
      (Happening.failure (published origin history).phase (.issued op reply)).or
        (uncounted origin history) := by
  cases op with
  | publish transition next => exact absurd rfl (unpublished transition next)
  | _ => rfl

/-- A failure adds one to the tally, which saturates as the code's counter does. -/
theorem tally_issued {op : Op} (reply : Reply op)
    (unpublished : ∀ transition next, op ≠ .publish transition next) :
    tally origin (.issued op reply :: history) =
      if (Happening.failure (published origin history).phase (.issued op reply)).isSome then
        saturatingSucc (tally origin history)
      else tally origin history := by
  cases op with
  | publish transition next => exact absurd rfl (unpublished transition next)
  | _ => rfl

/-- A publication forgets the tally or keeps it. -/
theorem tally_published (transition : Transition) (next : LifecycleState) :
    tally origin (.issued (.publish transition next) () :: history) =
      if transition.forgets then 0 else tally origin history := rfl

/-- What neither publishes nor launches leaves the streak as it was published. -/
theorem failedStreak_issued {op : Op} (reply : Reply op)
    (unpublished : ∀ transition next, op ≠ .publish transition next) (unlaunched : op ≠ .launch) :
    failedStreak (.issued op reply :: history) = failedStreak history := by
  cases op with
  | publish transition next => exact absurd rfl (unpublished transition next)
  | launch => exact absurd rfl unlaunched
  | _ => rfl

/-- A publication counts, forgets or keeps the streak. -/
theorem Transition.target_streak (transition : Transition) (current : LifecycleState)
    (now : Instant) :
    (transition.target current now).failureStreak =
      if transition.forgets then 0
      else if transition.counts.isSome then saturatingSucc current.failureStreak
      else current.failureStreak := by
  cases transition <;> rfl

end Growth

/-- Only events of a starting or running child and failed launches are failures. What is learned
of a child that is being stopped is none. -/
theorem Happening.failure_of_phase {phase : ServerPhase} {happening : Happening}
    (failed : (Happening.failure phase happening).isSome = true) :
    Happening.launches happening = true ∨ phase = .starting ∨ phase = .running := by
  cases happening with
  | moved => cases failed
  | issued op reply =>
    cases op with
    | launch => exact .inl rfl
    | tryWait => cases reply <;> cases phase <;> simp_all [Happening.failure]
    | select sources =>
      cases reply with
      | child result => cases result <;> cases phase <;> simp_all [Happening.failure]
      | _ => cases failed
    | wakesClosed | tryRecvShutdown | tryRecvWake => cases reply <;> cases failed
    | panic => cases reply
    | _ => cases failed

/-- A failure is learned of only while none is owed. -/
theorem Ledger.permits.free {ledger : Ledger} {op : Op} {reply : Reply op} {phase : ServerPhase}
    (permitted : ledger.permits op)
    (fails : (Happening.failure phase (.issued op reply)).isSome = true) : ledger.owed = none := by
  cases op with
  | tryWait | select | launch => exact permitted.1
  | wakesClosed | tryRecvShutdown | tryRecvWake => cases reply <;> cases fails
  | panic => cases reply
  | _ => cases fails

/-- The ledger owes what the history has left uncounted, operation by operation. A publication,
which counts, has its own lemma. -/
theorem Ledger.after_owed {ledger : Ledger} {op : Op} (reply : Reply op)
    (permitted : ledger.permits op)
    (unpublished : ∀ transition next, op ≠ .publish transition next) :
    (ledger.after op reply).owed =
      (Happening.failure ledger.phase (.issued op reply)).or ledger.owed := by
  cases op with
  | publish transition next => exact absurd rfl (unpublished transition next)
  | launch | tryWait | select =>
    rw [permitted.1, Option.or_none]
    rfl
  | panic => cases reply
  | wakesClosed | tryRecvShutdown | tryRecvWake => cases reply <;> rfl
  | _ => rfl

/-! ## Counting -/

/-- The account of a run in its history, its stance and its ledger. -/
structure Audited (origin : LifecycleState) (history : List Happening) (stance : Stance)
    (ledger : Ledger) : Prop where
  published : published origin history = stance.lifecycle
  owed : uncounted origin history = ledger.owed
  tally : tally origin history =
    if ledger.owed.isSome then saturatingSucc stance.lifecycle.failureStreak
    else stance.lifecycle.failureStreak
  failed : cycleFailed origin history = true → ledger.owed.isSome = true ∨
    (stance.stage ≠ .owned ∧ stance.stage ≠ .launched)
  once : FailsOnce origin history

/-- A starting or a running child is owned. -/
theorem Stance.Sound.owned_of_phase {stance : Stance} (sound : stance.Sound)
    (phase : stance.lifecycle.phase = .starting ∨ stance.lifecycle.phase = .running) :
    stance.stage = .owned := by
  have situation := sound.situated
  obtain ⟨stage, lifecycle, child, held, offer, ending⟩ := stance
  cases stage with
  | owned => rfl
  | stopping cause latched => cases cause <;> simp_all [Stance.situated]
  | _ => rcases phase with starting | running <;> simp_all [Stance.situated]

namespace Audited

variable {origin : LifecycleState} {history : List Happening} {stance : Stance} {ledger : Ledger}
  {rcon : Bool}

/-- A failure comes from an owned child or from a launch. -/
theorem failing (audited : Audited origin history stance ledger) (sound : stance.Sound)
    {happening : Happening}
    (fails : (Happening.failure (McServerNap.published origin history).phase happening).isSome = true) :
    Happening.launches happening = true ∨ stance.stage = .owned := by
  rcases Happening.failure_of_phase fails with launches | phase
  · exact .inl launches
  · rw [audited.published] at phase
    exact .inr (sound.owned_of_phase phase)

/-- Where a failed cycle can fail again, it has been counted and the child is not owned,
so that only a launch is left. -/
theorem fails_once (audited : Audited origin history stance ledger) (sound : stance.Sound)
    {op : Op} (reply : Reply op) (keeps : ledger.permits op)
    (fails : (Happening.failure (McServerNap.published origin history).phase
      (.issued op reply)).isSome = true)
    (failed : cycleFailed origin history = true) : Happening.launches (.issued op reply) = true := by
  rcases audited.failing sound fails with launches | owned
  · exact launches
  · rcases audited.failed failed with owes | other
    · rw [Ledger.permits.free keeps fails] at owes
      cases owes
    · exact absurd owned other.1

/-- An event that is no second failure of its cycle keeps the failures apart. -/
theorem once_cons {happening : Happening} (once : FailsOnce origin history)
    (head : (Happening.failure (McServerNap.published origin history).phase happening).isSome = true →
      cycleFailed origin history = true → Happening.launches happening = true) :
    FailsOnce origin (happening :: history) := by
  intro later event earlier split fails failed
  cases later with
  | nil =>
    obtain ⟨rfl, rfl⟩ := List.cons.inj split
    exact head fails failed
  | cons first rest =>
    obtain ⟨rfl, remaining⟩ := List.cons.inj split
    exact once rest event earlier remaining fails failed

/-- What is published for a failed cycle leads to no owned child: the child was reaped before, and
only a launch can bring another one. -/
theorem unowned_published {transition : Transition} (legal : stance.legal transition = true)
    (next : LifecycleState)
    (settled : transition.counts.isSome = true ∨ (stance.stage ≠ .owned ∧ stance.stage ≠ .launched)) :
    stance.published next transition ≠ .owned ∧ stance.published next transition ≠ .launched := by
  obtain ⟨stage, lifecycle, child, held, offer, ending⟩ := stance
  cases transition with
  | setPhase phase =>
    cases stage with
    | stopping cause latched =>
      cases cause <;> cases ending <;> cases latched <;> simp [Stance.published]
    | cooling latched => cases ending <;> simp [Stance.published]
    | _ => simp [Stance.published]
  | publishStoppedAfterCleanReconciliation =>
    simp only [Stance.published]
    split <;> simp
  | recordLaunchSuccess | publishRunning | resetFailureStreak =>
    simp_all [Stance.legal, Transition.counts]
  | _ => simp [Stance.published]

/-- Apart from publications only a launch leads to an owned child. Of the ways in which a stage
moves on, the others keep it or change what is latched there. -/
theorem unowned_after {op : Op} {reply : Reply op}
    (settled : stance.stage ≠ .owned ∧ stance.stage ≠ .launched)
    (unlaunched : Happening.launches (.issued op reply) = false)
    (unpublished : ∀ transition next, op ≠ .publish transition next) :
    (stance.after rcon op reply).stage ≠ .owned ∧
      (stance.after rcon op reply).stage ≠ .launched := by
  rcases Stance.after_stage rcon stance op reply unpublished with
    same | latched | opened | cleared | ⟨classification, probed⟩ | ⟨rfl, -⟩
  · rwa [same]
  · rw [latched]
    cases stage : stance.stage <;> simp_all [Stage.latch]
  · rw [opened]
    cases stage : stance.stage <;> simp_all [Stage.opened]
  · rw [cleared]
    cases stage : stance.stage <;> simp_all [Stage.cleared]
  · rw [probed]
    cases stage : stance.stage <;> simp_all [Stage.probed]
  · cases unlaunched

/-- The ledger goes on agreeing with the history. The case that matters is a publication: it
counts what is owed, and nothing may be owed otherwise. -/
theorem issued {op : Op} {reply : Reply op} (audited : Audited origin history stance ledger)
    (sound : stance.Sound) (same : ledger.phase = stance.lifecycle.phase)
    (permitted : stance.permits op) (keeps : ledger.permits op) :
    Audited origin (.issued op reply :: history) (stance.after rcon op reply)
      (ledger.after op reply) := by
  have once := once_cons audited.once fun fails failed =>
    audited.fails_once sound reply keeps fails failed
  by_cases publishes : ∃ transition next, op = .publish transition next
  · obtain ⟨transition, next, rfl⟩ := publishes
    obtain ⟨-, legal, admitted, now, rfl⟩ := permitted
    obtain ⟨counts, -, -⟩ := keeps
    refine ⟨rfl, rfl, ?_, fun failed => .inr ?_, once⟩
    · rw [tally_published, audited.tally, ← counts]
      exact (transition.target_streak stance.lifecycle now).symm
    · have before : cycleFailed origin history = true := failed
      apply unowned_published legal
      rw [counts]
      exact audited.failed before
  · have unpublished : ∀ transition next, op ≠ .publish transition next :=
      fun transition next same => publishes ⟨transition, next, same⟩
    have lifecycle : (stance.after rcon op reply).lifecycle = stance.lifecycle := by
      rw [Stance.after_lifecycle]
      cases op with
      | publish transition next => exact absurd rfl (unpublished transition next)
      | _ => rfl
    have phase : (McServerNap.published origin history).phase = ledger.phase := by
      rw [audited.published, same]
    have owed := Ledger.after_owed reply keeps unpublished
    refine ⟨?_, ?_, ?_, fun failed => ?_, once⟩
    · rw [published_issued, lifecycle]
      cases op with
      | publish transition next => exact absurd rfl (unpublished transition next)
      | _ => exact audited.published
    · rw [uncounted_issued reply unpublished, audited.owed, phase, owed]
    · rw [tally_issued reply unpublished, lifecycle, owed, phase, audited.tally]
      cases learned : Happening.failure ledger.phase (.issued op reply) with
      | none => rfl
      | some failure =>
        have free : ledger.owed = none := Ledger.permits.free keeps (by rw [learned]; rfl)
        rw [free]
        rfl
    · rw [owed]
      simp only [cycleFailed, phase, Bool.or_eq_true, Bool.and_eq_true, Bool.not_eq_true'] at failed
      rcases failed with fails | ⟨unlaunched, before⟩
      · exact .inl (by rw [Option.isSome_or, fails, Bool.true_or])
      · rcases audited.failed before with owes | settled
        · exact .inl (by rw [Option.isSome_or, owes, Bool.or_true])
        · exact .inr (unowned_after settled unlaunched unpublished)

/-- The moves of the others are no failures and are not counted. -/
theorem moved {waiting : Option Op} {move : Move}
    (audited : Audited origin history stance ledger) :
    Audited origin (.moved waiting move :: history) stance ledger where
  published := audited.published
  owed := audited.owed
  tally := audited.tally
  failed := audited.failed
  once := once_cons audited.once nofun

/-- Nothing has failed at first, and nothing is owed. -/
theorem initial (start : Instant) : Audited (.reconciling start) []
    (Stance.initial (.reconciling start)) (Ledger.initial (.reconciling start)) where
  published := rfl
  owed := rfl
  tally := rfl
  failed := nofun
  once := by
    intro later happening earlier split
    cases later <;> cases split

end Audited

/-! ## Waiting -/

namespace ReapedBy

variable {origin world : World} {history : List Happening} {limit : Instant}

/-- A child that was reaped by an instant was reaped by every later one. -/
theorem later {after : Instant} (reaped : ReapedBy origin limit history) (past : limit ≤ after) :
    ReapedBy origin after history := fun between reaping earlier passed split reaps unlaunched replayed =>
  Nat.le_trans (reaped between reaping earlier passed split reaps unlaunched replayed) past

/-- The clock only advances, so that all reapings lie in the past. -/
theorem present (replayed : platform.replay origin history = some world) :
    ReapedBy origin world.clock history := by
  rintro between reaping earlier passed rfl - - reached
  have whole : platform.replay origin ((between ++ [reaping]) ++ earlier) = some world :=
    List.append_assoc between [reaping] earlier ▸ replayed
  exact clock_monotone reached whole

/-- A reaping counts at the instant of its event: the clock of the world before it is the one that
the limit is compared with. -/
theorem cons {happening : Happening} (reaped : ReapedBy origin limit history)
    (replayed : platform.replay origin history = some world)
    (bound : Happening.reaps happening = true → world.clock ≤ limit) :
    ReapedBy origin limit (happening :: history) := by
  intro between reaping earlier passed split reaps unlaunched reached
  cases between with
  | nil =>
    obtain ⟨rfl, rfl⟩ := List.cons.inj split
    obtain rfl : world = passed := Option.some.inj (replayed.symm.trans reached)
    exact bound reaps
  | cons first rest =>
    obtain ⟨rfl, remaining⟩ := List.cons.inj split
    exact reaped rest reaping earlier passed remaining reaps
      (fun happening listed => unlaunched happening (List.mem_cons_of_mem _ listed)) reached

end ReapedBy

/-- A child that is found stable stays found while nothing is awaited or published. -/
theorem FoundStable.cons {origin : World} {history : List Happening} {happening : Happening}
    (found : FoundStable origin history)
    (quiet : Happening.awaits happening = false ∧ Happening.advances happening = false) :
    FoundStable origin (happening :: history) := by
  obtain ⟨checked, cycle, running, earlier, passed, rfl, silent, kept, reached, elapsed⟩ := found
  exact ⟨happening :: checked, cycle, running, earlier, passed, rfl,
    List.forall_mem_cons.mpr ⟨quiet, silent⟩, kept, reached, elapsed⟩

/-- The phase was published at an instant, and nothing was published or launched since.
Only `publish_running` begins to run. -/
def BegunAt (phase : ServerPhase) (since : Instant) (history : List Happening) : Prop :=
  ∃ cycle transition next earlier,
    history = cycle ++ .issued (.publish transition next) () :: earlier ∧
    (∀ happening ∈ cycle, Happening.advances happening = false) ∧
    next.phase = phase ∧ next.phaseStartedAt = since ∧
    (phase = .running → transition = .publishRunning)

/-- A phase goes on while nothing is published or launched. -/
theorem BegunAt.cons {phase : ServerPhase} {since : Instant} {history : List Happening}
    {happening : Happening} (begun : BegunAt phase since history)
    (quiet : Happening.advances happening = false) : BegunAt phase since (happening :: history) := by
  obtain ⟨cycle, transition, next, earlier, rfl, kept, same⟩ := begun
  exact ⟨happening :: cycle, transition, next, earlier, rfl,
    List.forall_mem_cons.mpr ⟨quiet, kept⟩, same⟩

/-- The stages of a supervisor without a child, from its cooldown to the next launch. -/
def Stage.rests : Stage → Bool
  | .owned | .launched | .launchFailed | .stopping _ _ | .closing => false
  | _ => true

/-- A failed cycle is being cleaned up, or its cooldown lasts for the backoff from an
instant after the reaping, or the supervisor is about to return. -/
def Delayed (origin : World) (history : List Happening) (stage : Stage) (due : Option Instant)
    (streak : Nat) : Prop :=
  (∃ retryDelay latched, stage = .stopping (.failed retryDelay) latched) ∨ stage = .closing ∨
    stage.rests = true ∧ ∃ reading, due = some (reading + failureBackoff streak) ∧
      ReapedBy origin reading history

/-- The instants that the ledger knows are those of the history. -/
structure Timed (origin : World) (history : List Happening) (stance : Stance) (ledger : Ledger)
    (world : World) : Prop where
  replayed : platform.replay origin history = some world
  read : ∀ reading, ledger.read = some reading → ReapedBy origin reading history
  since : ∀ since, ledger.since = some since → BegunAt ledger.phase since history
  alive : ledger.alive = true → FoundStable origin history
  delayed : ∀ streak, failedStreak history = some streak →
    stance.lifecycle.failureStreak = streak ∧
      Delayed origin history stance.stage ledger.due streak

namespace Timed

variable {origin world after : World} {history : List Happening} {stance : Stance}
  {ledger : Ledger} {rcon : Bool} {op : Op} {reply : Reply op}

/-- A reading of the clock comes after every reaping, and is only kept until the next
event that may be one. -/
theorem read_issued (timed : Timed origin history stance ledger world)
    (performed : world.perform op reply = some after) (reading : Instant)
    (kept : (ledger.after op reply).read = some reading) :
    ReapedBy origin reading (.issued op reply :: history) := by
  have carried : ledger.read = some reading →
      Happening.reaps (.issued op reply) = false →
      ReapedBy origin reading (.issued op reply :: history) := fun same quiet =>
    (timed.read reading same).cons timed.replayed fun reaps => by
      rw [quiet] at reaps
      cases reaps
  cases op with
  | now =>
    have current : reply = world.clock := by
      by_contra other
      simp [World.perform, other] at performed
    obtain rfl : reply = reading := Option.some.inj kept
    rw [current]
    exact (ReapedBy.present timed.replayed).cons timed.replayed fun _ => Nat.le_refl _
  | launch | tryWait | select => cases kept
  | wakesClosed | tryRecvShutdown | tryRecvWake => cases reply <;> exact carried kept rfl
  | panic => cases reply
  | _ => exact carried kept rfl

/-- The instant that the ledger keeps is the one of the publication, as the clock was read for
it. -/
theorem since_issued (timed : Timed origin history stance ledger world)
    (permitted : stance.permits op) (since : Instant)
    (begun : (ledger.after op reply).since = some since) :
    BegunAt (ledger.after op reply).phase since (.issued op reply :: history) := by
  cases op with
  | publish transition next =>
    obtain ⟨-, legal, admitted, now, rfl⟩ := permitted
    simp only [Ledger.after] at begun
    split at begun
    · cases begun
    · rename_i other
      obtain rfl := Option.some.inj begun
      refine ⟨[], transition, _, history, rfl, List.forall_mem_nil _, rfl, rfl, fun running => ?_⟩
      cases transition with
      | publishRunning => rfl
      | resetFailureStreak => exact absurd rfl other
      | setPhase phase =>
        obtain rfl : phase = .running := running
        obtain ⟨stage, lifecycle, child, held, offer, ending⟩ := stance
        cases stage with
        | stopping cause latched => cases cause <;> simp [Stance.legal] at legal
        | _ => simp [Stance.legal] at legal
      | _ => cases running
  | launch => cases begun
  | wakesClosed | tryRecvShutdown | tryRecvWake => cases reply <;> exact (timed.since since begun).cons rfl
  | panic => cases reply
  | _ => exact (timed.since since begun).cons rfl

/-- The ledger knows a child to be stable only from a query that found it alive after the whole
window. -/
theorem alive_issued (timed : Timed origin history stance ledger world)
    (agrees : ledger.Agrees world) (alive : (ledger.after op reply).alive = true) :
    FoundStable origin (.issued op reply :: history) := by
  cases op with
  | publish | launch | select => cases alive
  | tryWait =>
    simp only [Ledger.after, Ledger.stable, Bool.and_eq_true, decide_eq_true_eq] at alive
    obtain ⟨rfl, running, window⟩ := alive
    cases begun : ledger.since with
    | none =>
      rw [begun] at window
      cases window
    | some since =>
      rw [begun, Option.any_some] at window
      have elapsed := Nat.le_trans (of_decide_eq_true window) agrees.latest
      obtain ⟨cycle, transition, next, earlier, rfl, kept, phase, rfl, only⟩ :=
        timed.since since begun
      obtain rfl := only running
      exact ⟨[], cycle, next, earlier, world, rfl, List.forall_mem_nil _, kept, timed.replayed,
        elapsed⟩
  | wakesClosed | tryRecvShutdown | tryRecvWake => cases reply <;> exact (timed.alive alive).cons ⟨rfl, rfl⟩
  | panic => cases reply
  | _ => exact (timed.alive alive).cons ⟨rfl, rfl⟩

/-- A resting supervisor has no child that could be reaped. -/
theorem unowned_of_rests (sound : stance.Sound) (rests : stance.stage.rests = true) :
    stance.lifecycle.phase.owns = false := by
  have situation := sound.situated
  obtain ⟨stage, lifecycle, child, held, offer, ending⟩ := stance
  cases stage with
  | owned | launched | launchFailed | stopping | closing => cases rests
  | parked => rcases situation.1 with phase | phase | phase <;> simp_all [ServerPhase.owns]
  | demanded => rcases situation.1 with phase | phase <;> simp_all [ServerPhase.owns]
  | _ => simp_all [Stance.situated, ServerPhase.owns]

/-- While the supervisor rests there is no child to reap: it owns none in that phase, and so
neither asks for one nor waits for one. -/
theorem unreaped_of_rests (sound : stance.Sound) (same : ledger.phase = stance.lifecycle.phase)
    (rests : stance.stage.rests = true) (keeps : ledger.permits op) (unlaunched : op ≠ .launch)
    (performed : world.perform op reply = some after) :
    Happening.reaps (.issued op reply) = false := by
  have unowned : ledger.phase.owns = false := by
    rw [same]
    exact unowned_of_rests sound rests
  cases op with
  | launch => exact absurd rfl unlaunched
  | tryWait =>
    have owns := keeps.2
    rw [unowned] at owns
    cases owns
  | select sources =>
    cases reply with
    | child result =>
      simp only [World.perform] at performed
      split at performed
      · have owns := keeps.2 (offered_child (World.selects_offers (by assumption)))
        rw [unowned] at owns
        cases owns
      · cases performed
    | wake request => cases request <;> rfl
    | kill ok => cases ok <;> rfl
    | _ => rfl
  | wakesClosed | tryRecvShutdown | tryRecvWake => cases reply <;> rfl
  | panic => cases reply
  | _ => rfl

/-- A resting supervisor publishes nothing that forgets or starts a cooldown, and rests
on until it closes. -/
theorem rests_published {transition : Transition} (now : Instant)
    (legal : stance.legal transition = true) (rests : stance.stage.rests = true)
    (uncounted : transition.counts = none) :
    transition.forgets = false ∧ (transition.target stance.lifecycle now).phase ≠ .cooldown ∧
      (stance.published (transition.target stance.lifecycle now) transition = .closing ∨
        (stance.published (transition.target stance.lifecycle now) transition).rests = true) := by
  obtain ⟨stage, lifecycle, child, held, offer, ending⟩ := stance
  cases transition with
  | recordLaunchFailure | recordReapedFailure | beginFailureCleanup => cases uncounted
  | publishExternal | publishConflict | beginReconciliation =>
    exact ⟨rfl, by rintro ⟨⟩, .inr rfl⟩
  | publishStoppedAfterCleanReconciliation =>
    refine ⟨rfl, by rintro ⟨⟩, .inr ?_⟩
    simp only [Stance.published]
    split <;> rfl
  | recordLaunchSuccess | publishRunning | resetFailureStreak | beginIdleStop =>
    simp_all [Stance.legal, Stage.rests]
  | finishFailureCleanup delay => cases stage <;> simp_all [Stance.legal, Stage.rests]
  | setPhase phase =>
    cases stage with
    | cooling latched =>
      obtain ⟨rfl, -⟩ : phase = .stopped ∧ _ := by simpa [Stance.legal] using legal
      cases ending
      · exact ⟨rfl, by rintro ⟨⟩, .inr rfl⟩
      · exact ⟨rfl, by rintro ⟨⟩, .inl rfl⟩
    | parked =>
      obtain ⟨⟨rfl, -⟩, -⟩ : (phase = .stopped ∧ _) ∧ _ := by simpa [Stance.legal] using legal
      exact ⟨rfl, by rintro ⟨⟩, .inl rfl⟩
    | stopping => cases rests
    | _ => simp_all [Stance.legal, Stage.rests]

/-- What the publications after a failure leave of its delay: the streak stays, and the cooldown
that follows is due a whole backoff after an instant at which the child was reaped. -/
theorem delayed_published {transition : Transition} {now : Instant} {next : LifecycleState}
    (timed : Timed origin history stance ledger world) (sound : stance.Sound)
    (built : next = transition.target stance.lifecycle now)
    (legal : stance.legal transition = true) (admitted : transition.admits stance.lifecycle = true)
    (keeps : ledger.permits (.publish transition next)) (streak : Nat)
    (failed : failedStreak (.issued (.publish transition next) () :: history) = some streak) :
    next.failureStreak = streak ∧
      Delayed origin (.issued (.publish transition next) () :: history)
        (stance.published next transition) (ledger.after (.publish transition next) ()).due streak := by
  have carried : ∀ reading, ReapedBy origin reading history →
      ReapedBy origin reading (.issued (.publish transition next) () :: history) :=
    fun reading reaped => reaped.cons timed.replayed nofun
  have counts := transition.target_streak stance.lifecycle now
  rw [← built] at counts
  cases counted : transition.counts with
  | some failure =>
    simp only [failedStreak, counted, Option.isSome_some, if_true, Option.some.injEq] at failed
    refine ⟨failed, ?_⟩
    subst built
    cases transition with
    | recordLaunchFailure | recordReapedFailure =>
      refine .inr (.inr ⟨rfl, now, ?_, carried now (timed.read now (keeps.2.2 rfl))⟩)
      rw [← failed]
      rfl
    | beginFailureCleanup => exact .inl ⟨_, _, rfl⟩
    | _ => cases counted
  | none =>
    simp only [failedStreak, counted, Option.isSome_none, Bool.false_eq_true, if_false] at failed
    obtain ⟨same, stopping | closing | ⟨rests, reading, due, reaped⟩⟩ := timed.delayed streak failed
    · obtain ⟨retryDelay, latched, stopping⟩ := stopping
      have situation : stance.lifecycle.phase = .stopping ∧ stance.lifecycle.failure.isSome ∧
          retryDelay = failureBackoff stance.lifecycle.failureStreak := by
        simpa [Stance.situated, stopping] using sound.situated
      obtain ⟨-, -, promised⟩ := situation
      cases transition with
      | finishFailureCleanup delay =>
        obtain rfl : delay = retryDelay := by
          simp only [Stance.legal, stopping, Bool.and_eq_true, decide_eq_true_eq] at legal
          exact legal.1.1
        subst built
        refine ⟨counts.trans same, .inr (.inr ⟨rfl, now, ?_, carried now (timed.read now (keeps.2.2 rfl))⟩)⟩
        rw [← same, ← promised]
        rfl
      | setPhase phase =>
        refine ⟨counts.trans same, .inr (.inl ?_)⟩
        simp [Stance.published, stopping]
      | recordLaunchFailure | recordReapedFailure | beginFailureCleanup => cases counted
      | _ => simp [Stance.legal, stopping] at legal
    · have unclosed := Stance.unclosed_of_legal legal
      rw [closing] at unclosed
      cases unclosed
    · obtain ⟨kept, warm, later⟩ := rests_published now legal rests counted
      subst built
      rw [kept, counted] at counts
      refine ⟨counts.trans same, ?_⟩
      rcases later with closing | rests
      · exact .inr (.inl closing)
      · refine .inr (.inr ⟨rests, reading, ?_, carried reading reaped⟩)
        simp only [Ledger.after, if_neg warm]
        exact due

/-- Between two publications a delay stays as it is: the published streak does not change, the due
instant is kept, and nothing is reaped in the meantime. -/
theorem delayed_issued (timed : Timed origin history stance ledger world) (sound : stance.Sound)
    (same : ledger.phase = stance.lifecycle.phase) (keeps : ledger.permits op)
    (performed : world.perform op reply = some after)
    (unpublished : ∀ transition next, op ≠ .publish transition next) (unlaunched : op ≠ .launch)
    (streak : Nat) (failed : failedStreak (.issued op reply :: history) = some streak) :
    (stance.after rcon op reply).lifecycle.failureStreak = streak ∧
      Delayed origin (.issued op reply :: history) (stance.after rcon op reply).stage
        (ledger.after op reply).due streak := by
  rw [failedStreak_issued reply unpublished unlaunched] at failed
  obtain ⟨counted, delayed⟩ := timed.delayed streak failed
  have lifecycle : (stance.after rcon op reply).lifecycle = stance.lifecycle := by
    rw [Stance.after_lifecycle]
    cases op with
    | publish transition next => exact absurd rfl (unpublished transition next)
    | _ => rfl
  have due : (ledger.after op reply).due = ledger.due := by
    cases op with
    | publish transition next => exact absurd rfl (unpublished transition next)
    | _ => rfl
  refine ⟨by rw [lifecycle]; exact counted, ?_⟩
  rw [due]
  have moves := Stance.after_stage rcon stance op reply unpublished
  rcases delayed with ⟨retryDelay, latched, stopping⟩ | closing | ⟨rests, reading, ends, reaped⟩
  · rw [stopping] at moves
    rcases moves with moved | moved | moved | moved | ⟨classification, moved⟩ | ⟨launches, -⟩
    · exact .inl ⟨_, _, moved⟩
    · exact .inl ⟨_, _, moved⟩
    · exact .inl ⟨_, _, moved⟩
    · exact .inl ⟨_, _, moved⟩
    · exact .inl ⟨_, _, moved⟩
    · exact absurd launches unlaunched
  · rw [closing] at moves
    rcases moves with moved | moved | moved | moved | ⟨classification, moved⟩ | ⟨launches, -⟩
    · exact .inr (.inl moved)
    · exact .inr (.inl moved)
    · exact .inr (.inl moved)
    · exact .inr (.inl moved)
    · exact .inr (.inl moved)
    · exact absurd launches unlaunched
  · have quiet := unreaped_of_rests sound same rests keeps unlaunched performed
    refine .inr (.inr ⟨?_, reading, ends, reaped.cons timed.replayed fun reaps => ?_⟩)
    · rcases moves with moved | moved | moved | moved | ⟨classification, moved⟩ | ⟨launches, -⟩
      · rw [moved]
        exact rests
      · rw [moved]
        cases stage : stance.stage <;> simp_all [Stage.latch, Stage.rests]
      · rw [moved]
        cases stage : stance.stage <;> simp_all [Stage.opened, Stage.rests]
      · rw [moved]
        cases stage : stance.stage <;> simp_all [Stage.cleared, Stage.rests]
      · rw [moved]
        cases stage : stance.stage <;> simp_all [Stage.probed, Stage.rests]
      · exact absurd launches unlaunched
    · rw [quiet] at reaps
      cases reaps

/-- The account of the times is kept by every operation. A cooldown begins at a reading after
which nothing was reaped, and it is waited for to its end. -/
theorem issued (timed : Timed origin history stance ledger world) (sound : stance.Sound)
    (agrees : ledger.Agrees world) (same : ledger.phase = stance.lifecycle.phase)
    (permitted : stance.permits op) (keeps : ledger.permits op)
    (performed : world.perform op reply = some after) :
    Timed origin (.issued op reply :: history) (stance.after rcon op reply)
      (ledger.after op reply) after where
  replayed := Platform.replay_issued timed.replayed performed
  read := timed.read_issued performed
  since := timed.since_issued permitted
  alive := timed.alive_issued agrees
  delayed := by
    intro streak failed
    by_cases launches : op = .launch
    · subst launches
      cases failed
    · by_cases publishes : ∃ transition next, op = .publish transition next
      · obtain ⟨transition, next, rfl⟩ := publishes
        obtain ⟨-, legal, admitted, now, built⟩ := permitted
        exact timed.delayed_published sound built legal admitted keeps streak failed
      · exact timed.delayed_issued sound same keeps performed
          (fun transition next same => publishes ⟨transition, next, same⟩) launches streak failed

/-- The moves of the others let time pass, which brings no deadline closer than it is. -/
theorem moved {waiting : Option Op} {move : Move}
    (timed : Timed origin history stance ledger world) (disturbed : world.move move = some after) :
    Timed origin (.moved waiting move :: history) stance ledger after where
  replayed := Platform.replay_moved timed.replayed disturbed
  read reading same := (timed.read reading same).cons timed.replayed nofun
  since since begun := (timed.since since begun).cons rfl
  alive found := (timed.alive found).cons ⟨rfl, rfl⟩
  delayed streak failed := by
    obtain ⟨counted, delayed⟩ := timed.delayed streak failed
    refine ⟨counted, ?_⟩
    rcases delayed with stopping | closing | ⟨rests, reading, ends, reaped⟩
    · exact .inl stopping
    · exact .inr (.inl closing)
    · exact .inr (.inr ⟨rests, reading, ends, reaped.cons timed.replayed nofun⟩)

end Timed

/-! ## Runs -/

variable {config : SupervisorConfig} {start : Instant} {history : History platform}
  {program : Supervised Unit} {world : World}

/-- Every execution of `run` follows the conduct and keeps the ledger, whose accounts are those of
the history. The two specifications are run side by side for this. -/
theorem run_audited
    (reached : Reaches platform (run config) (World.initial start) history program world) :
    ∃ (stance : Stance) (ledger : Ledger), stance.Sound ∧ stance.lifecycle = world.lifecycle ∧
      ledger.Agrees world ∧ Audited (.reconciling start) history stance ledger ∧
      Timed (World.initial start) history stance ledger world ∧
      ∀ op, program.pending = some op → stance.permits op ∧ ledger.permits op := by
  have initial : ((coupled config.rcon).both kept).relates
      (Stance.initial (.reconciling start), Ledger.initial (.reconciling start))
      (World.initial start) :=
    ⟨initial_coupled config.rcon start, rfl, nofun, Nat.zero_le _⟩
  obtain ⟨⟨stance, ledger⟩, watched, remaining⟩ := reached.watched
    ((coupled config.rcon).both kept) initial
    ((safe_run (initial_sound start)).both (booked_run start))
  obtain ⟨⟨sound, lifecycle, -⟩, agrees⟩ :=
    watched.related ((coupled config.rcon).both kept) initial
  obtain ⟨audited, timed⟩ := watched.always ((coupled config.rcon).both kept) initial
    (fun history states world => Audited (.reconciling start) history states.1 states.2 ∧
      Timed (World.initial start) history states.1 states.2 world)
    ⟨Audited.initial start, rfl, nofun, nofun, nofun, nofun⟩
    (by
      rintro history ⟨stance, ledger⟩ world op reply after ⟨audited, timed⟩
        ⟨⟨sound, lifecycle, -⟩, agrees⟩ ⟨permitted, keeps⟩ performed
      have same : ledger.phase = stance.lifecycle.phase := by
        rw [lifecycle]
        exact agrees.phase.symm
      exact ⟨audited.issued sound same permitted keeps,
        timed.issued sound agrees same permitted keeps performed⟩)
    (by
      rintro history ⟨stance, ledger⟩ world waiting move after ⟨audited, timed⟩ - - disturbed
      exact ⟨audited.moved, timed.moved disturbed⟩)
  exact ⟨stance, ledger, sound, lifecycle, agrees, audited, timed, fun op waits =>
    remaining.pending_permitted op waits⟩

/-- The operations before which every failure must have been counted: a further look at the
child, a wait, a launch and the return. -/
def Op.needsCounting : Op → Prop
  | .tryWait | .select _ | .launch | .exit _ => True
  | _ => False

/-- Every failure of a launch cycle is counted once, by the next publication. A streak is
forgotten for a committed idle stop and for a child that was found alive after its
stability window, and every other publication keeps it. The next launch after a failure
waits for the backoff of its streak, from the reaping on. -/
theorem failures_are_counted_and_waited_out {config : SupervisorConfig} {start : Instant}
    {history : History platform} {program : Supervised Unit} {world : World}
    (reached : Reaches platform (run config) (World.initial start) history program world) :
    (∀ transition next, program.pending = some (.publish transition next) →
      transition.counts = uncounted (.reconciling start) history ∧
      next.failureStreak =
        (if transition.forgets then 0
        else if transition.counts.isSome then saturatingSucc world.lifecycle.failureStreak
        else world.lifecycle.failureStreak) ∧
      next.failureStreak =
        tally (.reconciling start) (.issued (.publish transition next) () :: history)) ∧
    (∀ op, program.pending = some op → op.needsCounting →
      uncounted (.reconciling start) history = none) ∧
    FailsOnce (.reconciling start) history ∧
    (∀ next, program.pending = some (.publish .resetFailureStreak next) →
      FoundStable (World.initial start) history) ∧
    (program.pending = some .launch → ∀ streak, failedStreak history = some streak →
      ∀ between reaping earlier passed, history = between ++ reaping :: earlier →
        Happening.reaps reaping = true →
        (∀ happening ∈ between, Happening.launches happening = false) →
        platform.replay (World.initial start) earlier = some passed →
        passed.clock + failureBackoff streak ≤ world.clock) := by
  obtain ⟨stance, ledger, sound, lifecycle, agrees, audited, timed, permits⟩ := run_audited reached
  refine ⟨fun transition next waits => ?_, fun op waits needs => ?_, audited.once,
    fun next waits => ?_, fun waits streak failed => ?_⟩
  · obtain ⟨⟨-, legal, -, now, built⟩, counts, -⟩ := permits _ waits
    have streak := transition.target_streak stance.lifecycle now
    rw [← built] at streak
    refine ⟨counts.trans audited.owed.symm, ?_, ?_⟩
    · rw [← lifecycle]
      exact streak
    · have counted : tally (.reconciling start) history =
          if transition.counts.isSome then saturatingSucc stance.lifecycle.failureStreak
          else stance.lifecycle.failureStreak := by
        rw [counts]
        exact audited.tally
      refine streak.trans (Eq.trans ?_ (tally_published transition next).symm)
      rw [counted]
  · have keeps := (permits op waits).2
    rw [audited.owed]
    cases op with
    | tryWait | select | launch => exact keeps.1
    | exit => exact keeps
    | _ => exact needs.elim
  · exact timed.alive ((permits _ waits).2.2.1 rfl)
  · obtain ⟨permitted, -, ripe⟩ := permits _ waits
    obtain ⟨-, delayed⟩ := timed.delayed streak failed
    intro between reaping earlier passed split reaps unlaunched replayed
    have cleared : stance.stage = .gateCleared .clean := permitted.2.1
    rw [cleared] at delayed
    rcases delayed with ⟨retryDelay, latched, stopping⟩ | closing | ⟨-, reading, due, reaped⟩
    · cases stopping
    · cases closing
    · have ripened : reading + failureBackoff streak ≤ world.clock :=
        Nat.le_trans (ripe _ due) agrees.latest
      have before := reaped between reaping earlier passed split reaps unlaunched replayed
      exact Nat.le_trans (Nat.add_le_add_right before _) ripened

/-- The first launch fails, and a second client is waiting when the cooldown is over. -/
def retryRun : Configuration platform Unit :=
  rehearsal (exampleConfig true) ([Cue.event (.probe .refused)] ++ Cue.login 0 ++
    [Cue.client 0 .trySend, Cue.wake, Cue.event (.probe .refused), Cue.launch false] ++
    Cue.elapse .cooldown (seconds 5) ++ Cue.login 1 ++
    [Cue.client 1 .trySend, Cue.wake, Cue.event (.probe .refused)])

/-- The retry run is one that the supervisor can really take. -/
theorem retryRun_reached : retryRun.Continues (run (exampleConfig true)) (World.initial 0) :=
  rehearsal_reached _ _

/-- The child of the failed launch is reaped, nothing is launched until the second launch, and
that one waits for the backoff of one failure. -/
theorem retry_waits_for_the_backoff :
    ∃ between reaping earlier passed, retryRun.history = between ++ reaping :: earlier ∧
      Happening.reaps reaping = true ∧ platform.replay (World.initial 0) earlier = some passed ∧
      passed.clock + failureBackoff 1 ≤ retryRun.world.clock := by
  have unlaunched : (retryRun.history.takeWhile fun happening => !Happening.reaps happening).all
      (fun happening => !Happening.launches happening) = true := by decide +kernel
  have found : (retryRun.history.dropWhile fun happening =>
      !Happening.reaps happening).head?.any Happening.reaps = true := by decide +kernel
  have joined : (retryRun.history.takeWhile fun happening => !Happening.reaps happening) ++
      (retryRun.history.dropWhile fun happening => !Happening.reaps happening) =
        retryRun.history := List.takeWhile_append_dropWhile
  cases rest : retryRun.history.dropWhile fun happening => !Happening.reaps happening with
  | nil =>
    rw [rest] at found
    cases found
  | cons reaping earlier =>
    rw [rest] at found joined
    have whole := retryRun_reached
    unfold Configuration.Continues at whole
    rw [← joined, List.append_cons] at whole
    obtain ⟨_, passed, reached, -⟩ := whole.split
    have reaps : Happening.reaps reaping = true := by simpa using found
    have waited := (failures_are_counted_and_waited_out retryRun_reached).2.2.2.2
      (by decide +kernel) 1 (by decide +kernel) _ reaping earlier passed joined.symm reaps
      (fun happening mem => by simpa using List.all_eq_true.mp unlaunched happening mem)
      reached.replayed
    exact ⟨_, reaping, earlier, passed, joined.symm, reaps, reached.replayed, waited⟩

end McServerNap
