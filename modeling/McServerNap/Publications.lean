import McServerNap.Record
import McServerNap.Rehearsal
import Mathlib.Data.List.Chain

/-!
# The published states

Each published state keeps its own fields in agreement, and consecutive phases
follow a fixed relation. Both are properties of the publishing functions together
with the stages that call them.
-/

namespace McServerNap

open Interaction

/-- The phases that may follow one another in two consecutive publications. -/
def ServerPhase.precedes : ServerPhase → ServerPhase → Bool
  | .reconciling, .stopped | .reconciling, .starting | .reconciling, .cooldown
  | .reconciling, .external | .reconciling, .conflict => true
  | .stopped, .stopped | .stopped, .reconciling => true
  | .starting, .running | .starting, .stopping | .starting, .cooldown => true
  | .running, .running | .running, .stopping | .running, .cooldown => true
  | .stopping, .stopped | .stopping, .cooldown => true
  | .cooldown, .reconciling | .cooldown, .stopped => true
  | .external, .conflict => true
  | .conflict, .reconciling => true
  | _, _ => false

/-- A publication that its stage calls for moves to a phase that may follow. The stage knows the
phase that was published before, and the transition names the next one. -/
theorem Stance.Sound.precedes_target {stance : Stance} (sound : stance.Sound)
    {transition : Transition} (legal : stance.legal transition = true)
    (admitted : transition.admits stance.lifecycle = true) (now : Instant) :
    stance.lifecycle.phase.precedes (transition.target stance.lifecycle now).phase = true := by
  have situation := sound.situated
  obtain ⟨stage, lifecycle, child, held, offer, ending⟩ := stance
  cases transition with
  | setPhase phase =>
    cases stage with
    | stopping cause latched =>
      cases cause <;> simp_all [Stance.legal, Stance.situated, Transition.target] <;> rfl
    | owned =>
      obtain rfl : phase = .stopping := by simpa [Stance.legal] using legal
      rcases situation with starting | running <;> simp_all [Transition.target] <;> rfl
    | cooling | parked =>
      simp_all [Stance.legal, Stance.situated, Transition.target]
      rfl
    | _ => simp [Stance.legal] at legal
  | publishExternal consumeDemand =>
    cases stage <;> simp_all [Stance.legal, Stance.situated, Transition.target] <;> rfl
  | publishConflict evidence consumeDemand =>
    cases stage <;> simp_all [Stance.legal, Stance.situated, Transition.target] <;> rfl
  | beginReconciliation =>
    simp only [Transition.admits, Bool.or_eq_true, decide_eq_true_eq] at admitted
    rcases admitted with (stopped | cooldown) | conflict <;> simp_all [Transition.target] <;> rfl
  | beginIdleStop cycle =>
    simp_all [Transition.admits, Transition.target, LifecycleState.ownedRunningCycle]
    rfl
  | recordReapedFailure failure =>
    simp only [Transition.admits, Bool.and_eq_true, Bool.or_eq_true, decide_eq_true_eq] at admitted
    rcases admitted.1.1 with starting | running <;> simp_all [Transition.target] <;> rfl
  | _ =>
    simp_all [Transition.admits, Transition.target]
    rfl

/-- Only a publication changes the lifecycle that the stance knows; of every other operation it is
the same before and after. -/
theorem Stance.after_lifecycle (rcon : Bool) (stance : Stance) (op : Op) (reply : Reply op) :
    (stance.after rcon op reply).lifecycle =
      match op with
      | .publish _ next => next
      | _ => stance.lifecycle := by
  cases op with
  | select =>
    cases reply with
    | wake request => cases request <;> rfl
    | child result => cases result <;> rfl
    | kill ok => cases ok <;> rfl
    | _ => rfl
  | wakesClosed | tryWait | tryRecvWake => cases reply <;> rfl
  | tryRecvShutdown => cases reply <;> rfl
  | _ => rfl

/-- Only a publication adds a publication, with the transition it is of and the state it
publishes. -/
theorem publications_issued (origin : LifecycleState) (op : Op) (reply : Reply op)
    (earlier : List Happening) :
    publications origin (.issued op reply :: earlier) =
      match op with
      | .publish _ next => next :: publications origin earlier
      | _ => publications origin earlier := by
  cases op <;> rfl

/-- The publications agree in themselves and with each other, and the newest is the
stance's. -/
def Orderly (origin : LifecycleState) (history : List Happening) (stance : Stance) : Prop :=
  ∃ older, publications origin history = stance.lifecycle :: older ∧
    (∀ state ∈ publications origin history, state.WellFormed) ∧
    (publications origin history).IsChain fun later earlier =>
      earlier.phase.precedes later.phase = true

/-- A publication that the conduct permits is well formed and follows the one before it, so the
whole list stays in order. -/
theorem Orderly.issued {origin : LifecycleState} {history : List Happening} {stance : Stance}
    {rcon : Bool} {op : Op} (reply : Reply op) (orderly : Orderly origin history stance)
    (sound : stance.Sound) (permitted : stance.permits op) :
    Orderly origin (.issued op reply :: history) (stance.after rcon op reply) := by
  obtain ⟨older, recorded, wellFormed, chain⟩ := orderly
  cases op with
  | publish transition next =>
    obtain ⟨-, legal, admitted, now, rfl⟩ := permitted
    refine ⟨_, publications_issued _ _ _ _, ?_, ?_⟩
    · exact List.forall_mem_cons.mpr ⟨sound.target_wellFormed legal admitted now, wellFormed⟩
    · rw [publications_issued, recorded]
      rw [recorded] at chain
      exact .cons_cons (sound.precedes_target legal admitted now) chain
  | _ =>
    refine ⟨older, ?_, ?_, ?_⟩
    · rw [publications_issued, Stance.after_lifecycle]
      exact recorded
    · rw [publications_issued]
      exact wellFormed
    · rw [publications_issued]
      exact chain

/-- In every reachable state of a run each published state is well formed, and each two
consecutive phases are related. The states are all that the history has published, the first one
included. -/
theorem published_states_agree {config : SupervisorConfig} {start : Instant}
    {history : History platform} {program : Supervised Unit} {world : World}
    (reached : Reaches platform (run config) (World.initial start) history program world) :
    (∀ state ∈ publications (.reconciling start) history, state.WellFormed) ∧
      (publications (.reconciling start) history).IsChain fun later earlier =>
        earlier.phase.precedes later.phase = true := by
  obtain ⟨stance, watched, -⟩ := run_follows reached
  obtain ⟨-, -, wellFormed, chain⟩ : Orderly (.reconciling start) history stance := by
    refine watched.always (coupled config.rcon) (initial_coupled config.rcon start)
      (fun history stance _ => Orderly (.reconciling start) history stance)
      ?_ (fun orderly related permitted _ => ?_) fun orderly _ _ _ => orderly
    · refine ⟨[], rfl, List.forall_mem_singleton.mpr ?_, .singleton _⟩
      exact (initial_sound start).wellFormed
    · exact orderly.issued _ related.1 permitted
  exact ⟨wellFormed, chain⟩

/-- A first launch fails and its cooldown passes; the states that this run has published agree
from the first to the last. -/
theorem published_states_agree_after_failure :
    let failed := rehearsal (exampleConfig true) ([Cue.event (.probe .refused)] ++ Cue.login 0 ++
      [Cue.client 0 .trySend, Cue.wake, Cue.event (.probe .refused), Cue.launch false] ++
      Cue.elapse .cooldown (seconds 5))
    (∀ state ∈ publications (.reconciling 0) failed.history, state.WellFormed) ∧
      (publications (.reconciling 0) failed.history).IsChain fun later earlier =>
        earlier.phase.precedes later.phase = true :=
  published_states_agree (rehearsal_reached _ _)

end McServerNap
