import McServerNap.Conformance.Opening
import McServerNap.IdlePeriod

/-!
# The world in which a cycle begins

The account of an idle period begins in the world that `publish_running` leaves: the cycle is
the current one, its record is fresh, and no client serves it yet. Here it is shown of every run
of the supervisor that this is so, as long as the launch counter has not gone round. The record
is fresh because its installation comes right before the publication and because the clients
that are about serve earlier cycles, which the record does not count.
-/

namespace McServerNap

open Interaction

/-- Every client serves a cycle that is not newer than the published generation, and an older one
while a child is starting. A counter that goes round breaks this. -/
def World.Behind (world : World) : Prop :=
  ∀ task ∈ world.clients, ∀ cycle, task.cycle = some cycle →
    cycle.launchGeneration ≤ world.lifecycle.launchGeneration ∧
      (world.lifecycle.phase = .starting →
        cycle.launchGeneration < world.lifecycle.launchGeneration)

/-- A client comes to serve a cycle only by seeing it run. -/
theorem World.clientStep_cycle {world after : World} {task later : ClientTask} {step : ClientStep}
    {cycle : BackendCycle} (stepped : world.clientStep task step = some (later, after))
    (serves : later.cycle = some cycle) :
    task.cycle = some cycle ∨ world.lifecycle.ownedRunningCycle = some cycle := by
  revert stepped
  fun_cases World.clientStep world task step
  all_goals
    intro stepped
    cases stepped
  all_goals try split at serves
  all_goals simp_all [ClientTask.cycle, LifecycleState.ownedRunningCycle]

section Fresh

variable {cycle other : BackendCycle} (different : other ≠ cycle) (since now : Instant)

include different

/-- A lease of another cycle is handed back. -/
theorem establish_beside_fresh :
    establishLoginTransferSession (some (.beginCycle cycle since)) other = none := by
  simp [establishLoginTransferSession, CurrentCycleActivity.beginCycle, different.symm]

/-- A session of another cycle is not counted here. -/
theorem drop_beside_fresh :
    dropLoginTransferSession (some (.beginCycle cycle since)) other now = .otherCycle := by
  simp [dropLoginTransferSession, CurrentCycleActivity.beginCycle, different.symm]

end Fresh

/-- A client of another cycle leaves the record as it is. -/
theorem World.clientStep_record {world after : World} {task later : ClientTask}
    {step : ClientStep} {cycle : BackendCycle} {since : Instant}
    (stepped : world.clientStep task step = some (later, after))
    (record : world.activity = some (.beginCycle cycle since)) (other : task.cycle ≠ some cycle) :
    after.activity = world.activity := by
  revert stepped
  fun_cases World.clientStep world task step
  all_goals
    intro stepped
    cases stepped
  all_goals simp_all [ClientTask.cycle, establish_beside_fresh, drop_beside_fresh]

/-- Clients stay behind when one of them moves: the cycle of a task is a sample of what was
published, and the sample was no newer. -/
theorem World.Behind.moved {world after : World} {move : Move} (behind : world.Behind)
    (moved : world.move move = some after) : after.Behind := by
  cases move with
  | client index step =>
    obtain ⟨task, later, stepped, listed, step, rfl⟩ := World.move_client moved
    obtain ⟨slot, activity, changed, rfl⟩ := World.clientStep_frame step
    intro other member cycle serves
    rcases List.mem_or_eq_of_mem_set member with before | rfl
    · exact behind other before cycle serves
    · rcases World.clientStep_cycle step serves with before | current
      · exact behind task (List.mem_of_getElem? listed) cycle before
      · simp only [LifecycleState.ownedRunningCycle, Option.ite_none_right_eq_some,
          Option.some.injEq] at current
        obtain ⟨running, rfl⟩ := current
        refine ⟨Nat.le_refl _, fun starting => ?_⟩
        cases running.symm.trans starting
  | accept =>
    cases moved
    intro task member cycle serves
    rcases List.mem_append.mp member with before | fresh
    · exact behind task before cycle serves
    · rw [List.mem_singleton.mp fresh] at serves
      cases serves
  | sendShutdown | dropShutdown =>
    simp only [World.move] at moved
    split at moved <;> cases moved
    exact behind
  | tick | closeWakes =>
    cases moved
    exact behind

/-- A starting child has been recorded by the very publication, or was starting before. -/
theorem Stance.starting_of_target {stance : Stance} {transition : Transition} {now : Instant}
    (legal : stance.legal transition = true)
    (starting : (transition.target stance.lifecycle now).phase = .starting) :
    transition.records = true ∨ stance.lifecycle.phase = .starting := by
  cases transition with
  | recordLaunchSuccess => exact .inl rfl
  | resetFailureStreak => exact .inr starting
  | setPhase phase =>
    obtain rfl : phase = .starting := starting
    obtain ⟨stage, lifecycle, child, held, offer, ending⟩ := stance
    cases stage with
    | stopping cause latched => cases cause <;> simp [Stance.legal] at legal
    | _ => simp [Stance.legal] at legal
  | _ => cases starting

/-- Publications keep clients behind: one that records a launch counts it, so a client of the
cycle before is strictly behind the new one. -/
theorem World.Behind.performed (rcon : Bool) {history : List Happening} {stance : Stance}
    {world after : World} {op : Op} {reply : Reply op} (behind : world.Behind)
    (counted : Counted history stance) (agrees : stance.agrees world)
    (permitted : stance.permits op) (performed : world.perform op reply = some after)
    (small : attempts (.issued op reply :: history) + blocks (.issued op reply :: history) <
      2 ^ 64) : after.Behind := by
  have published : after.lifecycle = (stance.after rcon op reply).lifecycle :=
    (agrees.performed rcon performed).1.symm
  rw [Stance.after_lifecycle] at published
  intro task member cycle serves
  rw [(World.framed performed).clients] at member
  obtain ⟨older, strictly⟩ := behind task member cycle serves
  rw [← agrees.1] at older strictly
  rw [published]
  cases op with
  | publish transition next =>
    obtain ⟨-, legal, -, now, rfl⟩ := permitted
    have advanced := (counted : Counted history stance).advances legal now small
    dsimp only
    rw [advanced]
    refine ⟨Nat.le_trans older (Nat.le_add_right _ _), fun starting => ?_⟩
    rcases stance.starting_of_target legal starting with recorded | before
    · simp only [recorded, Bool.true_or, Bool.toNat_true]
      omega
    · exact Nat.lt_of_lt_of_le (strictly before) (Nat.le_add_right _ _)
  | _ => exact ⟨older, strictly⟩

/-- The readings and the record of an opening, in the world: they are no later than the clock,
and the record just installed is the fresh one of the cycle that is starting. -/
structure Opening.Holds (opening : Opening) (world : World) : Prop where
  dated : ∀ reading, opening = .dated reading → reading ≤ world.clock
  begun : ∀ cycle since, opening = .begun cycle since →
    since ≤ world.clock ∧ world.lifecycle.phase = .starting ∧
      cycle = ⟨world.lifecycle.launchGeneration⟩ ∧
      world.activity = some (.beginCycle cycle since)

/-- The readings and the record of an opening go on holding. The publication that ends it finds
the record that `begin_cycle` has just installed. -/
theorem Opening.Holds.issued {opening : Opening} {stance : Stance} {world after : World} {op : Op}
    {reply : Reply op} (holds : opening.Holds world) (agrees : stance.agrees world)
    (permitted : stance.permits op) (opens : opening.permits op)
    (performed : world.perform op reply = some after) :
    (Opening.after op reply).Holds after := by
  cases op with
  | now =>
    refine ⟨fun reading same => ?_, by rintro _ _ ⟨⟩⟩
    obtain rfl := Opening.dated.inj same
    simp only [World.perform] at performed
    split at performed
    · rename_i told
      obtain rfl := Option.some.inj performed
      exact Nat.le_of_eq told
    · cases performed
  | beginCycle cycle since =>
    refine ⟨by rintro _ ⟨⟩, fun other date same => ?_⟩
    obtain ⟨rfl, rfl⟩ := Opening.begun.inj same
    obtain rfl := Option.some.inj performed
    obtain ⟨-, starting, rfl⟩ := permitted
    rw [agrees.1] at starting
    exact ⟨holds.dated since opens, starting, by rw [agrees.1], rfl⟩
  | _ => exact ⟨by rintro _ ⟨⟩, by rintro _ _ ⟨⟩⟩

/-- While the record is installed and not yet published, the clients that are about do not
belong to it. -/
theorem Opening.Holds.moved {opening : Opening} {world after : World} {move : Move}
    (holds : opening.Holds world) (behind : world.Behind)
    (moved : world.move move = some after) : opening.Holds after := by
  obtain ⟨dated, begun⟩ := holds
  cases move with
  | client index step =>
    obtain ⟨task, later, stepped, listed, step, rfl⟩ := World.move_client moved
    refine ⟨?_, fun cycle since same => ?_⟩
    · obtain ⟨slot, activity, changed, rfl⟩ := World.clientStep_frame step
      exact dated
    · obtain ⟨past, starting, rfl, record⟩ := begun cycle since same
      have other : task.cycle ≠ some ⟨world.lifecycle.launchGeneration⟩ := fun serves =>
        Nat.lt_irrefl _ ((behind task (List.mem_of_getElem? listed) _ serves).2 starting)
      have kept := World.clientStep_record step record other
      obtain ⟨slot, activity, changed, rfl⟩ := World.clientStep_frame step
      exact ⟨past, starting, rfl, kept.trans record⟩
  | tick elapsed =>
    cases moved
    refine ⟨fun reading same => Nat.le_add_right_of_le (dated reading same),
      fun cycle since same => ?_⟩
    obtain ⟨past, rest⟩ := begun cycle since same
    exact ⟨Nat.le_add_right_of_le past, rest⟩
  | sendShutdown | dropShutdown =>
    simp only [World.move] at moved
    split at moved <;> cases moved
    exact ⟨dated, begun⟩
  | accept | closeWakes =>
    cases moved
    exact ⟨dated, begun⟩

/-- The publication of phase Running leaves the world that a cycle begins in: its record is
installed, the clock is not behind it, and no client serves it yet. -/
theorem Opening.Holds.justRunning {opening : Opening} {stance : Stance} {world after : World}
    {next : LifecycleState} (holds : opening.Holds world) (behind : world.Behind)
    (exclusive : world.Exclusive) (permitted : stance.permits (.publish .publishRunning next))
    (opens : opening.permits (.publish .publishRunning next))
    (performed : world.perform (.publish .publishRunning next) () = some after) :
    JustRunning ⟨next.launchGeneration⟩ next.phaseStartedAt after := by
  obtain ⟨past, starting, same, record⟩ := holds.begun _ _ (opens rfl)
  obtain ⟨-, -, -, now, rfl⟩ := permitted
  have free := exclusive.performed performed
  obtain rfl := Option.some.inj performed
  refine ⟨rfl, record, past, fun task listed serves => ?_, free⟩
  rw [same] at serves
  exact Nat.lt_irrefl _ ((behind task listed _ serves).2 starting)

/-- Any operation is answered as it is: this monitor assumes nothing of replies. -/
def openingCoupled : Coupling platform opening where
  relates := fun _ _ => True
  answered := fun _ _ _ => trivial
  issued := fun _ _ _ => trivial
  moved := fun _ _ _ => trivial

/-- What a history that ends with the publication of phase Running leaves behind. -/
def LeavesJustRunning (history : List Happening) (world : World) : Prop :=
  ∀ next earlier, history = .issued (.publish .publishRunning next) () :: earlier →
    JustRunning ⟨next.launchGeneration⟩ next.phaseStartedAt world

variable {config : SupervisorConfig} {start : Instant} {history : History platform}
  {program : Supervised Unit} {world : World} {next : LifecycleState}

/-- In every run of the supervisor, while the counter has not gone round, `publish_running`
leaves the world in which the account of an idle period begins. -/
theorem published_cycle_is_just_running
    (reached : Reaches platform (run config) (World.initial start)
      (.issued (.publish .publishRunning next) () :: history) program world)
    (unwrapped : attempts (.issued (.publish .publishRunning next) () :: history) +
      blocks (.issued (.publish .publishRunning next) () :: history) < 2 ^ 64) :
    JustRunning ⟨next.launchGeneration⟩ next.phaseStartedAt world := by
  have initial : ((coupled config.rcon).both openingCoupled).relates
      (Stance.initial (.reconciling start), Opening.idle) (World.initial start) :=
    ⟨initial_coupled config.rcon start, trivial⟩
  obtain ⟨_, watched, -⟩ := reached.watched ((coupled config.rcon).both openingCoupled) initial
    ((safe_run (initial_sound start)).both (opens_run .idle))
  obtain ⟨-, -, holds⟩ := watched.always ((coupled config.rcon).both openingCoupled) initial
    (fun history states world => Accounted (.reconciling start) history states.1 ∧
      World.Exclusive world ∧ (attempts history + blocks history < 2 ^ 64 →
        World.Behind world ∧ Opening.Holds states.2 world ∧ LeavesJustRunning history world))
    ⟨.start start, nofun, fun _ => ⟨nofun, ⟨by rintro _ ⟨⟩, by rintro _ _ ⟨⟩⟩, nofun⟩⟩
    (by
      rintro history ⟨stance, opening⟩ world op reply after ⟨accounted, exclusive, started⟩
        ⟨⟨sound, agrees⟩, -⟩ ⟨permitted, opens⟩ performed
      refine ⟨accounted.issued _ sound permitted, exclusive.performed performed, fun small => ?_⟩
      have grown := counts_grow op reply history
      obtain ⟨behind, holds, -⟩ := started (Nat.lt_of_le_of_lt grown small)
      have ahead : after.Behind :=
        World.Behind.performed config.rcon behind accounted.counted agrees permitted performed small
      refine ⟨ahead, holds.issued agrees permitted opens performed, fun next earlier same => ?_⟩
      obtain ⟨present, -⟩ := List.cons.inj same
      cases present
      exact holds.justRunning behind exclusive permitted opens performed)
    (by
      rintro history ⟨stance, opening⟩ world waiting move after ⟨accounted, exclusive, started⟩
        - - disturbed
      refine ⟨accounted.moved, exclusive.moved disturbed, fun small => ?_⟩
      obtain ⟨behind, holds, -⟩ := started small
      exact ⟨behind.moved disturbed, holds.moved behind disturbed, by rintro _ _ ⟨⟩⟩)
  exact (holds unwrapped).2.2 next history rfl

end McServerNap
