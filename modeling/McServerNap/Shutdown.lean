import McServerNap.Coupling
import McServerNap.Rehearsal

/-!
# Shutdown wins over launching

A shutdown that arrives while the supervisor is suspended is found before the
next launch: both checks of the final gate come after the last await, and what
they look at does not change back.
-/

namespace McServerNap

open Interaction

/-- The move tells the supervisor to end. -/
def Move.deliversShutdown : Move → Bool
  | .sendShutdown | .dropShutdown | .closeWakes => true
  | _ => false

/-- A shutdown is there to be found, and no gate has passed the check that would
find it. -/
def Doomed (stance : Stance) (world : World) : Prop :=
  (world.shutdown ≠ .empty ∨
    world.sendersOpen = false ∧ ∀ classification, stance.stage ≠ .gateOpen classification) ∧
    ∀ classification, stance.stage ≠ .gateCleared classification

/-- A suspended supervisor is at neither check, so a shutdown that is delivered then will be found
by the next one. -/
theorem Doomed.delivered {stance : Stance} {world after : World} {sources : List Source}
    {move : Move} (suspended : stance.permits (.select sources))
    (delivers : move.deliversShutdown = true) (moved : world.move move = some after) :
    Doomed stance after := by
  have suspends := suspended.2.1
  have unchecked : (∀ classification, stance.stage ≠ .gateOpen classification) ∧
      ∀ classification, stance.stage ≠ .gateCleared classification := by
    constructor <;> intro classification at_check <;> rw [at_check] at suspends <;> cases suspends
  cases move with
  | sendShutdown | dropShutdown =>
    simp only [World.move] at moved
    split at moved <;> cases moved
    exact ⟨.inl (by simp), unchecked.2⟩
  | closeWakes =>
    cases moved
    exact ⟨.inr ⟨rfl, unchecked.1⟩, unchecked.2⟩
  | _ => cases delivers

/-- Shutdown channels never become empty again, and senders do not come back. A client does not
touch either, and the other moves only add to what is pending. -/
theorem Doomed.moved {stance : Stance} {world after : World} {move : Move}
    (doomed : Doomed stance world) (moved : world.move move = some after) :
    Doomed stance after := by
  cases move with
  | client index step =>
    obtain ⟨task, later, stepped, -, step, rfl⟩ := World.move_client moved
    obtain ⟨slot, activity, changed, rfl⟩ := World.clientStep_frame step
    exact doomed
  | sendShutdown | dropShutdown =>
    simp only [World.move] at moved
    split at moved <;> cases moved
    exact ⟨.inl (by simp), doomed.2⟩
  | closeWakes =>
    cases moved
    exact ⟨doomed.1.imp_right fun closed => ⟨rfl, closed.2⟩, doomed.2⟩
  | tick | accept =>
    cases moved
    exact doomed

/-- A stage that does not come from a gate's checks keeps a supervisor doomed. Only the two stages
behind those checks could be past the one that finds the shutdown. -/
theorem Doomed.restaged {stance later : Stance} {world after : World}
    (doomed : Doomed stance world) (framed : world.Framed after)
    (unchecked : (∀ classification, later.stage ≠ .gateOpen classification) ∧
        (∀ classification, later.stage ≠ .gateCleared classification) ∨
      later.stage = stance.stage) : Doomed later after := by
  obtain ⟨pending, cleared⟩ := doomed
  have open_check : ∀ classification, later.stage = .gateOpen classification →
      stance.stage = .gateOpen classification := by
    rcases unchecked with ⟨unopened, -⟩ | same
    · exact fun classification reached => absurd reached (unopened classification)
    · exact fun classification reached => same ▸ reached
  refine ⟨?_, ?_⟩
  · rcases pending with found | ⟨closed, unopened⟩
    · left
      rcases framed.shutdown with same | taken
      · rwa [same]
      · rw [taken]
        nofun
    · right
      exact ⟨framed.sendersOpen.trans closed, fun classification reached =>
        unopened classification (open_check classification reached)⟩
  · rcases unchecked with ⟨-, uncleared⟩ | same
    · exact uncleared
    · exact same ▸ cleared

/-- Publications, answers and probes lead past no check. Only the looks at the two channels do,
each past its own. -/
theorem Stance.published_unchecked (stance : Stance) (next : LifecycleState)
    (transition : Transition) :
    (∀ classification, stance.published next transition ≠ .gateOpen classification) ∧
      ∀ classification, stance.published next transition ≠ .gateCleared classification := by
  obtain ⟨stage, lifecycle, child, held, offer, ending⟩ := stance
  cases transition with
  | publishStoppedAfterCleanReconciliation =>
    cases latched : stage.demanding <;> simp [Stance.published, latched]
  | setPhase phase =>
    cases stage with
    | stopping cause latched =>
      cases cause <;> cases ending <;> cases latched <;> simp [Stance.published]
    | cooling latched => cases ending <;> simp [Stance.published]
    | _ => simp [Stance.published]
  | _ => simp [Stance.published]

/-- Latching a demand leads into no check of the gate. -/
theorem Stage.latch_unchecked (stage : Stage) :
    ((∀ classification, stage.latch ≠ .gateOpen classification) ∧
      ∀ classification, stage.latch ≠ .gateCleared classification) ∨ stage.latch = stage := by
  cases stage <;> simp [Stage.latch]

/-- Nor does a completed probe. -/
theorem Stage.probed_unchecked (stage : Stage) (classification : ReconciliationClassification) :
    ((∀ other, stage.probed classification ≠ .gateOpen other) ∧
      ∀ other, stage.probed classification ≠ .gateCleared other) ∨
      stage.probed classification = stage := by
  cases stage <;> simp [Stage.probed]

/-- A doomed supervisor does not launch and stays doomed. The one way to a launch leads through
the checks of the gate, and these see what is pending. -/
theorem Doomed.issued {stance : Stance} {world after : World} {rcon : Bool} {op : Op}
    {reply : Reply op} (doomed : Doomed stance world) (permitted : stance.permits op)
    (performed : world.perform op reply = some after) :
    op ≠ .launch ∧ Doomed (stance.after rcon op reply) after := by
  have framed := World.framed performed
  cases op with
  | launch => exact absurd permitted.2.1 (doomed.2 _)
  | publish transition next =>
    exact ⟨by simp, doomed.restaged framed (.inl (stance.published_unchecked next transition))⟩
  | answer request accepted =>
    refine ⟨by simp, doomed.restaged framed ?_⟩
    cases accepted with
    | true => exact stance.stage.latch_unchecked
    | false => exact .inr rfl
  | select sources =>
    refine ⟨by simp, doomed.restaged framed ?_⟩
    cases reply with
    | probe observation => exact stance.stage.probed_unchecked _
    | wake request => cases request <;> exact .inr rfl
    | child result => cases result <;> exact .inr rfl
    | kill ok => cases ok <;> exact .inr rfl
    | _ => exact .inr rfl
  | wakesClosed =>
    refine ⟨by simp, ?_⟩
    simp only [World.perform] at performed
    split at performed <;> cases performed
    rename_i found
    cases reply with
    | true => exact doomed.restaged framed (.inr rfl)
    | false =>
      -- an open channel leaves the oneshot as the reason to end
      obtain ⟨pending, cleared⟩ := doomed
      refine ⟨.inl (pending.resolve_right fun closed => ?_), fun classification => ?_⟩
      · simp [closed.1] at found
      · have uncleared := cleared classification
        cases stage : stance.stage <;> simp_all [Stance.after, Stage.opened]
  | tryRecvShutdown =>
    refine ⟨by simp, ?_⟩
    cases reply with
    | empty =>
      have vacant : world.shutdown = .empty := by
        simp only [World.perform] at performed
        split at performed <;> simp_all
      obtain ⟨pending, cleared⟩ := doomed
      obtain ⟨closed, unopened⟩ := pending.resolve_left fun found => found vacant
      refine Doomed.restaged ⟨.inr ⟨closed, unopened⟩, cleared⟩ framed (.inr ?_)
      cases stage : stance.stage <;> simp_all [Stance.after, Stage.cleared]
    | received | closed => exact doomed.restaged framed (.inr rfl)
  | tryRecvWake | tryWait =>
    refine ⟨by simp, doomed.restaged framed (.inr ?_)⟩
    cases reply <;> rfl
  | now | currentLifecycle | beginCycle | activitySnapshot | releaseExclusive | exit =>
    exact ⟨by simp, doomed.restaged framed (.inr rfl)⟩
  | panic => cases reply

/-- A shutdown delivered at an await is followed by no launch, in the rest of the run and in what
it is about to do, whatever was requested or latched before. The delivery dooms the supervisor,
and a doomed supervisor stays so. -/
theorem shutdown_prevents_launch {config : SupervisorConfig} {start : Instant}
    {history later earlier : History platform} {program : Supervised Unit} {world : World}
    {sources : List Source} {move : Move}
    (reached : Reaches platform (run config) (World.initial start) history program world)
    (passed : history = later ++ .moved (some (.select sources)) move :: earlier)
    (delivers : move.deliversShutdown = true) :
    (∀ success, .issued .launch success ∉ later) ∧ program.pending ≠ some .launch := by
  obtain ⟨stance, watched, remaining⟩ := run_follows reached
  obtain ⟨refrained, locked⟩ := watched.once (coupled config.rcon)
    (initial_coupled config.rcon start)
    (fun happening => ∃ sources move, happening = .moved (some (.select sources)) move ∧
      move.deliversShutdown = true)
    (fun happening => ∀ success, happening ≠ .issued .launch success)
    Doomed
    (by
      rintro stance world op reply after - - - ⟨sources, move, marked, -⟩
      cases marked)
    (by
      rintro stance world waiting move after - permitted disturbed ⟨sources, move, marked, delivers⟩
      cases marked
      exact Doomed.delivered (permitted _ rfl) delivers disturbed)
    (by
      intro stance world op reply after _ doomed permitted performed
      obtain ⟨refrains, kept⟩ := doomed.issued permitted performed
      refine ⟨fun success same => ?_, kept⟩
      cases same
      exact refrains rfl)
    (by
      intro stance world waiting move after _ doomed _ disturbed
      exact ⟨nofun, doomed.moved disturbed⟩)
    passed ⟨sources, move, rfl, delivers⟩
  refine ⟨fun success launched => refrained _ launched success rfl, fun waits => ?_⟩
  exact locked.2 _ (remaining.pending_permitted _ waits).2.1

/-- A shutdown during the first probe of the final gate, with the probe clean. -/
def shutdownRun : Configuration platform Unit :=
  rehearsal (exampleConfig true) (untilReady.take 6 ++ [.move .sendShutdown,
    Cue.event .shutdown])

/-- In the run whose shutdown arrives during the final gate nothing is launched afterwards. -/
theorem shutdown_during_gate_prevents_launch :
    (∀ success, Label.issued Op.launch success ∉ shutdownRun.history.take 2) ∧
      shutdownRun.program.pending ≠ some .launch :=
  shutdown_prevents_launch (rehearsal_reached _ _)
    (by decide +kernel : shutdownRun.history = shutdownRun.history.take 2 ++
      .moved (some (.select [.shutdown, .probe, .wake])) .sendShutdown ::
        shutdownRun.history.drop 3) rfl

end McServerNap
