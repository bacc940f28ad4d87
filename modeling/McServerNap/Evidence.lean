import McServerNap.Publications

/-!
# Positive evidence of a foreign backend

Once a state with positive evidence is published, every later one carries it too,
and a supervisor neither launches nor stops anything from then on. The evidence
is handed from one publication to the next by functions that copy it, and the
stages admit no other function while it is there.
-/

namespace McServerNap

open Interaction

/-- The branches that stop a backend or end its process. -/
def Source.commandsStop : Source → Bool
  | .rconStop | .consoleStop | .killTree | .kill => true
  | _ => false

/-- What a supervisor may do beside a backend it knows to be foreign. -/
def Op.sparesForeign : Op → Prop
  | .publish _ next =>
    next.reconciliationEvidence = .positive ∧
      (next.phase = .reconciling ∨ next.phase = .external ∨ next.phase = .conflict)
  | .launch => False
  | .select sources => ∀ source ∈ sources, source.commandsStop = false
  | _ => True

/-- The same of an event, where a wait counts as soon as it has begun. -/
def Happening.sparesForeign : Happening → Prop
  | .issued op _ => op.sparesForeign
  | .moved waiting _ => ∀ op, waiting = some op → op.sparesForeign

namespace Stance

/-- Evidence excludes the phases of an owned backend. -/
theorem Sound.foreign_phase {stance : Stance} (sound : stance.Sound)
    (positive : stance.lifecycle.reconciliationEvidence = .positive) :
    stance.lifecycle.phase = .reconciling ∨ stance.lifecycle.phase = .external ∨
      stance.lifecycle.phase = .conflict := by
  refine Classical.byContradiction fun owned => ?_
  simp only [not_or] at owned
  have evidence := sound.evidence_none owned
  rw [positive] at evidence
  cases evidence

/-- A publication in view of positive evidence carries it on: the transitions that would clear it
are not legal in a stage whose published state has that evidence. -/
theorem Sound.positive_target {stance : Stance} (sound : stance.Sound)
    (positive : stance.lifecycle.reconciliationEvidence = .positive) {transition : Transition}
    (legal : stance.legal transition = true)
    (admitted : transition.admits stance.lifecycle = true) (now : Instant) :
    (transition.target stance.lifecycle now).reconciliationEvidence = .positive := by
  have situation := sound.situated
  cases transition with
  | beginReconciliation => exact positive
  | publishExternal consumeDemand => rfl
  | publishConflict evidence consumeDemand =>
    obtain ⟨stage, lifecycle, child, held, offer, ending⟩ := stance
    cases stage <;> simp_all [Stance.legal, Stance.situated, Transition.target]
  | publishStoppedAfterCleanReconciliation =>
    obtain ⟨stage, lifecycle, child, held, offer, ending⟩ := stance
    cases stage <;> simp_all [Stance.legal, Stance.situated]
  | beginIdleStop cycle =>
    have phase := sound.foreign_phase positive
    simp [Transition.admits, LifecycleState.ownedRunningCycle] at admitted
    simp [admitted.1] at phase
  | _ => simp [Transition.admits, positive] at admitted

/-- No stage with positive evidence waits on a stop, launches or begins a cycle. The evidence puts
the stage among the reconciling ones, and their waits have no such branch. -/
theorem Sound.spares_foreign {stance : Stance} (sound : stance.Sound)
    (positive : stance.lifecycle.reconciliationEvidence = .positive) {op : Op}
    (permitted : stance.permits op) : op.sparesForeign := by
  cases op with
  | publish transition next =>
    obtain ⟨-, legal, admitted, now, rfl⟩ := permitted
    have carried := sound.positive_target positive legal admitted now
    refine ⟨carried, ?_⟩
    have later : Stance.Sound { stance with
        stage := stance.published (transition.target stance.lifecycle now) transition
        lifecycle := transition.target stance.lifecycle now } :=
      ⟨sound.target_wellFormed legal admitted now, sound.situated_published legal admitted now⟩
    exact later.foreign_phase carried
  | launch => exact permitted.2.2.1 positive
  | select sources =>
    intro source listed
    have allowed := permitted.2.2.2.1 source listed
    have phase := sound.foreign_phase positive
    have situation := sound.situated
    obtain ⟨stage, lifecycle, child, held, offer, ending⟩ := stance
    cases stage with
    | stopping cause latched =>
      rw [sound.phase_stopping] at phase
      simp at phase
    | _ => cases source <;> first | rfl | simp [Stance.allows] at allowed
  | _ => trivial

end Stance

/-- After positive evidence is published, everything a run does and is about to do
spares the foreign backend, and each later publication carries the evidence. -/
theorem positive_evidence_is_final {config : SupervisorConfig} {start : Instant}
    {history later earlier : History platform} {program : Supervised Unit} {world : World}
    {transition : Transition} {next : LifecycleState}
    (reached : Reaches platform (run config) (World.initial start) history program world)
    (passed : history = later ++ .issued (.publish transition next) () :: earlier)
    (positive : next.reconciliationEvidence = .positive) :
    (∀ happening ∈ later, Happening.sparesForeign happening) ∧
      ∀ op, program.pending = some op → op.sparesForeign := by
  obtain ⟨stance, watched, remaining⟩ := run_follows reached
  have related := watched.related (coupled config.rcon) (initial_coupled config.rcon start)
  obtain ⟨spared, locked⟩ := watched.once (coupled config.rcon) (initial_coupled config.rcon start)
    (fun happening => ∃ transition next,
      happening = .issued (.publish transition next) () ∧
        next.reconciliationEvidence = .positive)
    Happening.sparesForeign
    (fun stance _ => stance.lifecycle.reconciliationEvidence = .positive)
    (by
      rintro stance world op reply after - - - ⟨transition, next, marked, positive⟩
      cases marked
      exact positive)
    (by
      rintro stance world waiting move after - - - ⟨transition, next, marked, -⟩
      cases marked)
    (by
      intro stance world op reply after related positive permitted _
      have spares := related.1.spares_foreign positive permitted
      refine ⟨spares, ?_⟩
      rw [Stance.after_lifecycle]
      cases op <;> first | exact positive | exact spares.1)
    (by
      intro stance world waiting move after related positive permitted _
      exact ⟨fun op waits => related.1.spares_foreign positive (permitted op waits), positive⟩)
    passed ⟨transition, next, rfl, positive⟩
  exact ⟨spared, fun op waits =>
    related.1.spares_foreign locked (remaining.pending_permitted op waits)⟩

/-- A backend that was there before the supervisor, and refuses every later probe. -/
def foreignRun : Configuration platform Unit :=
  rehearsal (exampleConfig true) ([Cue.event (.probe .ready)] ++
    Cue.elapse .externalPoll (seconds 60) ++ [Cue.event (.probe .refused)] ++ Cue.login 0 ++
    [Cue.client 0 .trySend, Cue.wake, Cue.event (.probe .refused)])

/-- In the run that finds a foreign server nothing that the supervisor does after the evidence,
nor what it is about to do, harms that server, though its later probes are refused. -/
theorem positive_evidence_outlasts_refusals :
    (∀ happening ∈ (foreignRun.history.take 34 : List Happening), happening.sparesForeign) ∧
      ∀ op, foreignRun.program.pending = some op → op.sparesForeign :=
  positive_evidence_is_final (rehearsal_reached _ _)
    (by decide +kernel : foreignRun.history = foreignRun.history.take 34 ++
      .issued (.publish (.publishExternal false)
        ((Transition.publishExternal false).target (.reconciling 0) 0)) () ::
        foreignRun.history.drop 35) rfl

end McServerNap
