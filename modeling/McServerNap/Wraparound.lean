import Mathlib.Algebra.Group.Nat.Defs
import McServerNap.Passages
import McServerNap.Rehearsal

/-!
# How the launch generation comes round

The launch generation is a 64-bit counter that wraps. While nothing answers the probes
the final gate blocks one demand after the other, and each block advances the counter, so
that it comes back to a value it has had. A client task that was held up meanwhile still
carries the old value.
-/

namespace McServerNap

open Interaction SupervisorControl

/-- The supervisor waits in a conflict that an inconclusive probe has caused. -/
structure World.Blocked (world : World) : Prop extends world.Ongoing where
  supervised : world.supervised = true
  slot : world.slot = none
  phase : world.lifecycle.phase = .conflict
  evidence : world.lifecycle.reconciliationEvidence = .inconclusive

/-- Every event is allowed. -/
abbrev anything (_ : Happening) : Prop := True

/-- Quiet events are allowed where every event is. -/
theorem quiet_anything (happening : Happening) (_ : happening.quiet = true) :
    anything happening := trivial

/-- A new client samples the conflict, and its request is sent. It has ended by the time the
supervisor looks at the slot. -/
theorem passes_login {α : Type} {program last : Supervised α} {world after : World}
    (blocked : world.Blocked)
    (rest : Passage platform anything program
      ({ world with slot := some ⟨world.lifecycle⟩ }.joined .finished) last after) :
    Passage platform anything program world last after := by
  refine passes_move quiet_anything .accept rfl ?_
  refine passes_newest quiet_anything .sample (.sleeping world.lifecycle) world rfl ?_ ?_
  · simp [World.clientStep, World.joined, blocked.phase]
  refine passes_newest quiet_anything .requestLogin (.waking world.lifecycle) world rfl ?_ ?_
  · simp [World.clientStep, World.wakes, blocked.phase]
  refine passes_newest quiet_anything .trySend .finished
    { world with slot := some ⟨world.lifecycle⟩ } rfl ?_ rest
  simp [World.clientStep, World.joined, blocked.sendersOpen, blocked.supervised, blocked.slot]

section

variable {world after : World} {last : Supervised Unit} (config : SupervisorConfig)
  (next : Except SupervisorError Unit → Supervised Unit)

/-- `run` in its loop, with no launch pending. -/
abbrev waiting : Supervised Unit := .iterate (superviseTurn config) false next

/-- How `run` goes on after a turn of its loop. -/
abbrev turned : Turn Bool (Except SupervisorError Unit) → Supervised Unit :=
  Turn.elim (fun launchPending => .iterate (superviseTurn config) launchPending next) next

variable {config next}

/-- The demand of a new client is received and accepted. -/
theorem passes_demand (blocked : world.Blocked)
    (rest : Passage platform anything ((serveDemand config).bind (turned config next))
      (world.joined .finished) last after) :
    Passage platform anything (waiting config next) world last after := by
  refine passes_login blocked ?_
  refine .unroll ?_
  simp only [Program.turn, superviseTurn, serveNext, Program.bind_eq, Program.bind_assoc]
  refine passes_currentLifecycle quiet_anything ?_
  simp only [World.joined, blocked.phase, reduceCtorEq, if_false, Bool.false_eq_true,
    Program.bind_assoc]
  refine passes_waitForReconciliationDemand quiet_anything trivial
    ⟨blocked.sendersOpen, blocked.shutdown⟩ rfl blocked.phase ?_
  simp only [if_true]
  simpa [World.joined, blocked.slot] using rest

/-- A new client's demand is blocked, and the supervisor waits for the next. -/
theorem passes_block (blocked : world.Blocked) :
    Passage platform anything (waiting config next) world (waiting config next)
      { world.joined .finished with
        lifecycle := (Transition.publishConflict .inconclusive true).target world.lifecycle
          world.clock } := by
  have inconclusive :
      (reconciliationProbe config.rcon .silent).classification = .inconclusive := by
    cases config.rcon <;> rfl
  refine passes_demand blocked ?_
  simp only [serveDemand, Program.bind_eq, Program.bind_assoc]
  refine passes_shutdownPending quiet_anything ⟨blocked.sendersOpen, blocked.shutdown⟩ ?_
  simp only [Bool.false_eq_true, if_false, Program.bind_assoc]
  refine passes_inconclusive_gate quiet_anything ⟨blocked.sendersOpen, blocked.shutdown⟩
    blocked.phase blocked.evidence inconclusive ?_
  exact .refl _ _

/-- The world in which one more client's demand has passed the final gate. -/
def World.cleared (world : World) : World :=
  { world.joined .finished with
    lifecycle := Transition.beginReconciliation.target world.lifecycle world.clock }

/-- A new client's demand passes the final gate. -/
theorem passes_cleared_demand (blocked : world.Blocked) :
    Passage platform anything (waiting config next) world
      ((launchServer config).bind (turned config next)) world.cleared := by
  have clean : (reconciliationProbe config.rcon .refused).classification = .clean := by
    cases config.rcon <;> rfl
  refine passes_demand blocked ?_
  simp only [serveDemand, Program.bind_eq, Program.bind_assoc]
  refine passes_shutdownPending quiet_anything ⟨blocked.sendersOpen, blocked.shutdown⟩ ?_
  simp only [Bool.false_eq_true, if_false, Program.bind_assoc]
  refine passes_clean_gate quiet_anything ⟨blocked.sendersOpen, blocked.shutdown⟩
    blocked.phase blocked.evidence clean ?_
  exact .refl _ _

/-- What a number of blocked demands leaves of a world. -/
structure World.BlockedTimes (origin : World) (count : Nat) (world : World) : Prop
    extends world.Blocked where
  generation : world.lifecycle.launchGeneration =
    (origin.lifecycle.launchGeneration + count) % 2 ^ 64
  writer : world.writer = origin.writer
  kept : ∀ (index : Nat) (task : ClientTask), origin.clients[index]? = some task →
    world.clients[index]? = some task

/-- Any number of demands can be blocked, one after the other. The induction is on that number;
each turn leaves the world in the state it found, but for the clock and the counter. -/
theorem passes_blocks {origin : World} (blocked : origin.Blocked)
    (bounded : origin.lifecycle.launchGeneration < 2 ^ 64) (count : Nat) :
    ∃ world, origin.BlockedTimes count world ∧
      Passage platform anything (waiting config next) origin (waiting config next) world := by
  have begun : origin.BlockedTimes 0 origin :=
    ⟨blocked, by simpa using (Nat.mod_eq_of_lt bounded).symm, rfl, fun _ _ listed => listed⟩
  have turn : ∀ count world, origin.BlockedTimes count world →
      ∃ later, origin.BlockedTimes (count + 1) later ∧
        Passage platform anything (waiting config next) world (waiting config next) later := by
    intro count world times
    refine ⟨_, ?_, passes_block times.toBlocked⟩
    refine ⟨⟨⟨times.sendersOpen, times.shutdown⟩, times.supervised, times.slot, rfl, rfl⟩, ?_,
      times.writer, ?_⟩
    · simp only [Transition.target, if_true, wrappingSucc, times.generation]
      omega
    · intro index task listed
      have earlier := times.kept index task listed
      have inside : index < world.clients.length := (List.getElem?_eq_some_iff.mp earlier).1
      simpa [World.joined, List.getElem?_append_left inside] using earlier
  exact Passage.iterated platform origin.BlockedTimes turn begun count

/-- What `launchServer` does after the attempt, in both cases. -/
theorem launchServer_branches (config : SupervisorConfig)
    (following : Turn Bool (Except SupervisorError Unit) → Supervised Unit) :
    ∃ attempted cycled, (launchServer config).bind following = .perform .launch attempted ∧
      attempted false =
        (recordLaunchFailure.bind fun retryAt => (afterCooldown retryAt false).bind following) ∧
      attempted true = (recordLaunchSuccess.bind fun _ => (runServerCycle config).bind cycled) := by
  refine ⟨_, ?_, rfl, ?_, ?_⟩
  rotate_left
  · simp only [Program.bind_eq, Program.bind_assoc, Program.done_bind, Bool.false_eq_true, if_false]
  · simp only [Program.bind_eq, Program.bind_assoc, Program.done_bind, if_true]
    rfl

/-- Clearing a world that was blocked several times keeps each client that it had at first. -/
theorem World.BlockedTimes.cleared_kept {origin : World} {count index : Nat} {task : ClientTask}
    (times : origin.BlockedTimes count world) (listed : origin.clients[index]? = some task) :
    world.cleared.clients[index]? = some task := by
  have kept := times.kept index task listed
  have inside : index < world.clients.length := (List.getElem?_eq_some_iff.mp kept).1
  simpa [World.cleared, World.joined, List.getElem?_append_left inside] using kept

/-- A run that waits in a conflict can go on to a launch attempt with the counter ahead by
any number, while the clients that it had stay where they are. -/
theorem launch_comes_round {start : Instant} {history : History platform} {origin : World}
    (reached : Reaches platform (run config) (World.initial start) history
      (waiting config next) origin)
    (blocked : origin.Blocked) (bounded : origin.lifecycle.launchGeneration < 2 ^ 64)
    (count : Nat) :
    ∃ world later attempted cycled, origin.BlockedTimes count world ∧
      Reaches platform (run config) (World.initial start) (later ++ history)
        (.perform .launch attempted) world.cleared ∧
      attempted false = (recordLaunchFailure.bind fun retryAt =>
        (afterCooldown retryAt false).bind (turned config next)) ∧
      attempted true = (recordLaunchSuccess.bind fun _ => (runServerCycle config).bind cycled) := by
  obtain ⟨world, times, blocks⟩ := passes_blocks blocked bounded count
  obtain ⟨attempted, cycled, branches, failed, succeeded⟩ :=
    launchServer_branches config (turned config next)
  obtain ⟨later, -, launching⟩ :=
    (blocks.trans (passes_cleared_demand times.toBlocked)).prolongs reached
  rw [branches] at launching
  exact ⟨world, later, attempted, cycled, times, launching, failed, succeeded⟩

end

end McServerNap
