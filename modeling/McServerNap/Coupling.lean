import McServerNap.Conformance.Supervisor

/-!
# The conduct and the world

The stance's view of the published state, of the child and of the gate agrees
with the world in every execution, whoever else acts. With the safety of `run`
this makes every execution of the supervisor one that its conduct accounts for.
-/

namespace McServerNap

open Interaction

/-- A branch completes only with its own events. -/
theorem World.completes_offers {world : World} {source : Source} {event : Event}
    (completes : world.completes source event = true) : source.offers event = true := by
  cases source with
  | sleepUntil timer deadline => cases event <;> simp_all [World.completes, Source.offers]
  | _ =>
    cases event <;> first | rfl | cases completes

/-- One of the branches completed with what a `select!` returns. -/
theorem World.selects_completes {world : World} {sources : List Source} {event : Event}
    (selected : world.selects sources event = true) :
    ∃ source ∈ sources, world.completes source event = true := by
  induction sources with
  | nil => cases selected
  | cons source rest inductionHypothesis =>
    simp only [World.selects, Bool.or_eq_true, Bool.and_eq_true] at selected
    rcases selected with completes | ⟨-, later⟩
    · exact ⟨source, List.mem_cons_self, completes⟩
    · obtain ⟨source, listed, completes⟩ := inductionHypothesis later
      exact ⟨source, List.mem_cons_of_mem _ listed, completes⟩

/-- What a `select!` returns was offered by one of its branches. -/
theorem World.selects_offers {world : World} {sources : List Source} {event : Event}
    (selected : world.selects sources event = true) :
    ∃ source ∈ sources, source.offers event = true := by
  obtain ⟨source, listed, completes⟩ := World.selects_completes selected
  exact ⟨source, listed, World.completes_offers completes⟩

/-- The stance's part of the world. -/
def Stance.agrees (stance : Stance) (world : World) : Prop :=
  stance.lifecycle = world.lifecycle ∧ stance.child = world.child ∧ stance.held = world.writer

/-- The stance of a supervisor that knows its world and does nothing. -/
def World.stance (world : World) : Stance :=
  ⟨.parked, world.lifecycle, world.child, world.writer, none, false⟩

/-- The stance that is read off a world agrees with it, which is where the coupling begins. -/
theorem World.stance_agrees (world : World) : world.stance.agrees world :=
  ⟨rfl, rfl, rfl⟩

/-- A client touches only the wake slot and the activity record. -/
theorem World.clientStep_frame {world after : World} {task later : ClientTask} {step : ClientStep}
    (stepped : world.clientStep task step = some (later, after)) :
    ∃ slot activity changed,
      after = { world with slot := slot, activity := activity, changed := changed } := by
  revert stepped
  fun_cases World.clientStep world task step
  all_goals first
    | intro stepped; cases stepped; exact ⟨_, _, _, rfl⟩
    | nofun

/-- A client's move is a step of its task from the place it is listed at, and leaves the list
otherwise as it was. -/
theorem World.move_client {world after : World} {index : Nat} {step : ClientStep}
    (moved : world.move (.client index step) = some after) :
    ∃ task later stepped, world.clients[index]? = some task ∧
      world.clientStep task step = some (later, stepped) ∧
      after = { stepped with clients := world.clients.set index later } := by
  simp only [World.move, Option.bind_eq_bind, Option.bind_eq_some_iff] at moved
  obtain ⟨task, listed, ⟨later, stepped⟩, step, built⟩ := moved
  obtain ⟨slot, activity, changed, rfl⟩ := World.clientStep_frame step
  exact ⟨task, later, _, listed, step, (Option.some.inj built).symm⟩

/-- Neither clients nor the runtime touch what the stance sees: the published state, the child and
the exclusive side are the supervisor's own. -/
theorem Stance.agrees.moved {stance : Stance} {world after : World} {move : Move}
    (agrees : stance.agrees world) (moved : world.move move = some after) :
    stance.agrees after := by
  cases move with
  | client index step =>
    obtain ⟨task, later, stepped, -, step, rfl⟩ := World.move_client moved
    obtain ⟨slot, activity, changed, rfl⟩ := World.clientStep_frame step
    exact agrees
  | sendShutdown | dropShutdown =>
    simp only [World.move] at moved
    split at moved <;> cases moved
    exact agrees
  | tick | closeWakes | accept =>
    cases moved
    exact agrees

/-- What an event completes in the world is what the stance makes of it, so they go on
agreeing. -/
theorem Stance.agrees.completed {stance : Stance} {world : World} (agrees : stance.agrees world)
    (rcon : Bool) (event : Event) : (stance.observed rcon event).agrees (world.completed event) := by
  obtain ⟨lifecycle, child, writer⟩ := agrees
  cases event with
  | wake request => cases request <;> exact ⟨lifecycle, child, writer⟩
  | child result => cases result <;> first | exact ⟨lifecycle, rfl, writer⟩ | exact ⟨lifecycle, child, writer⟩
  | kill ok => cases ok <;> first | exact ⟨lifecycle, rfl, writer⟩ | exact ⟨lifecycle, child, writer⟩
  | exclusive => exact ⟨lifecycle, child, rfl⟩
  | _ => exact ⟨lifecycle, child, writer⟩

/-- What the world makes of an operation is what the stance makes of it. The cases are those of
`perform`; only a wait is left to its own lemma, for its branches. -/
theorem Stance.agrees.performed {stance : Stance} {world after : World} {op : Op} {reply : Reply op}
    (agrees : stance.agrees world) (rcon : Bool)
    (performed : world.perform op reply = some after) :
    (stance.after rcon op reply).agrees after := by
  obtain ⟨lifecycle, child, writer⟩ := id agrees
  cases op with
  | select sources =>
    simp only [World.perform] at performed
    split at performed <;> cases performed
    exact agrees.completed rcon reply
  | wakesClosed =>
    simp only [World.perform] at performed
    split at performed <;> cases performed
    cases reply <;> exact agrees
  | launch =>
    cases reply <;> cases performed
    · exact agrees
    · exact ⟨lifecycle, rfl, writer⟩
  | tryWait =>
    cases present : world.child <;> cases reply <;>
      simp only [World.perform, present, Option.some.injEq, reduceCtorEq] at performed <;>
      subst performed
    · exact ⟨lifecycle, rfl, writer⟩
    · exact agrees
    · exact agrees
    · exact ⟨lifecycle, present.symm, writer⟩
  | releaseExclusive =>
    cases performed
    exact ⟨lifecycle, child, rfl⟩
  | publish =>
    cases performed
    exact ⟨rfl, child, writer⟩
  | now | currentLifecycle | activitySnapshot =>
    simp only [World.perform] at performed
    split at performed <;> cases performed
    exact agrees
  | tryRecvShutdown =>
    simp only [World.perform] at performed
    split at performed <;> cases performed <;> exact agrees
  | tryRecvWake =>
    simp only [World.perform] at performed
    split at performed
    all_goals first
      | cases performed
      | (split at performed <;> cases performed); exact agrees
  | answer | beginCycle | exit =>
    cases performed
    exact agrees
  | panic => cases reply

/-- What no operation of the supervisor changes, which way the channels go, and when
the exclusive side is taken. -/
structure World.Framed (world after : World) : Prop where
  clock : after.clock = world.clock
  sendersOpen : after.sendersOpen = world.sendersOpen
  clients : after.clients = world.clients
  slot : after.slot = world.slot ∨ after.slot = none
  shutdown : after.shutdown = world.shutdown ∨ after.shutdown = .taken
  writer : after.writer = true → world.writer = true ∨ world.leased = false

/-- A world that did not change is framed. -/
theorem World.Framed.refl (world : World) : world.Framed world :=
  ⟨rfl, rfl, rfl, .inl rfl, .inl rfl, .inl⟩

/-- No completed branch touches the clock or the clients, and a channel is at most emptied. -/
theorem World.framed_completed {world : World} {source : Source} {event : Event}
    (completes : world.completes source event = true) : world.Framed (world.completed event) := by
  cases event with
  | wake request =>
    cases request <;> exact ⟨rfl, rfl, rfl, by simp [World.completed], .inl rfl, .inl⟩
  | child result => cases result <;> exact ⟨rfl, rfl, rfl, .inl rfl, .inl rfl, .inl⟩
  | kill ok => cases ok <;> exact ⟨rfl, rfl, rfl, .inl rfl, .inl rfl, .inl⟩
  | shutdown => exact ⟨rfl, rfl, rfl, .inl rfl, .inr rfl, .inl⟩
  | activity => exact ⟨rfl, rfl, rfl, .inl rfl, .inl rfl, .inl⟩
  | exclusive =>
    refine ⟨rfl, rfl, rfl, .inl rfl, .inl rfl, fun _ => .inr ?_⟩
    cases source <;> simp_all [World.completes, World.ready]
  | _ => exact .refl world

/-- Nor does any operation. The cases are those of `perform`; each changes the supervisor's own
part of the world and, at most, what it takes from a channel. -/
theorem World.framed {world after : World} {op : Op} {reply : Reply op}
    (performed : world.perform op reply = some after) : world.Framed after := by
  cases op with
  | select sources =>
    simp only [World.perform] at performed
    split at performed <;> cases performed
    obtain ⟨source, -, completes⟩ := World.selects_completes (by assumption)
    exact World.framed_completed completes
  | now | currentLifecycle | activitySnapshot | wakesClosed =>
    simp only [World.perform] at performed
    split at performed <;> cases performed
    exact .refl world
  | tryRecvShutdown =>
    simp only [World.perform] at performed
    split at performed <;> cases performed <;>
      first | exact .refl world | exact ⟨rfl, rfl, rfl, .inl rfl, .inr rfl, .inl⟩
  | tryRecvWake =>
    simp only [World.perform] at performed
    split at performed
    all_goals first
      | cases performed
      | (split at performed <;> cases performed)
        first | exact .refl world | exact ⟨rfl, rfl, rfl, .inr rfl, .inl rfl, .inl⟩
  | tryWait =>
    cases present : world.child <;> cases reply <;>
      simp only [World.perform, present, Option.some.injEq, reduceCtorEq] at performed <;>
      subst performed <;> first | exact .refl world | exact ⟨rfl, rfl, rfl, .inl rfl, .inl rfl, .inl⟩
  | launch => cases reply <;> cases performed <;> exact ⟨rfl, rfl, rfl, .inl rfl, .inl rfl, .inl⟩
  | exit =>
    cases performed
    exact ⟨rfl, rfl, rfl, .inr rfl, .inl rfl, .inl⟩
  | answer =>
    cases performed
    exact .refl world
  | publish | beginCycle =>
    cases performed
    exact ⟨rfl, rfl, rfl, .inl rfl, .inl rfl, .inl⟩
  | releaseExclusive =>
    cases performed
    exact ⟨rfl, rfl, rfl, .inl rfl, .inl rfl, nofun⟩
  | panic => cases reply

/-- The stance stays sound and agrees with the world. -/
def coupled (rcon : Bool) : Coupling platform (conduct rcon) where
  relates := fun (stance : Stance) (world : World) => stance.Sound ∧ stance.agrees world
  answered := by
    intro stance world op reply after related permitted performed
    refine ⟨related.1.after rcon permitted reply, ?_⟩
    cases op with
    | currentLifecycle =>
      simp only [platform, World.perform] at performed
      split at performed <;> cases performed
      simpa [related.2.1]
    | select sources =>
      simp only [platform, World.perform] at performed
      split at performed <;> cases performed
      exact World.selects_offers (by assumption)
    | _ => trivial
  issued := fun related permitted performed =>
    ⟨related.1.after rcon permitted _, related.2.performed rcon performed⟩
  moved := fun related _ disturbed => ⟨related.1, related.2.moved disturbed⟩

/-- The state a supervisor starts from is in order. -/
theorem initial_sound (start : Instant) : (Stance.initial (.reconciling start)).Sound where
  wellFormed := ⟨rfl, by simp [Stance.initial, LifecycleState.reconciling], nofun, nofun⟩
  situated := ⟨rfl, rfl, rfl, nofun⟩

/-- At the start the supervisor is reconciling and owns nothing, in the stance and in the
world. -/
theorem initial_coupled (rcon : Bool) (start : Instant) :
    (coupled rcon).relates (Stance.initial (.reconciling start)) (World.initial start) :=
  ⟨initial_sound start, rfl, rfl, rfl⟩

variable {config : SupervisorConfig} {start : Instant} {history : History platform}
  {program : Supervised Unit} {world : World}

/-- Every execution of `run` in a fresh runtime follows the conduct, and so does
whatever it still has to do. -/
theorem run_follows
    (reached : Reaches platform (run config) (World.initial start) history program world) :
    ∃ stance : Stance, Watched platform (conduct config.rcon)
        (Stance.initial (.reconciling start)) (World.initial start) history stance world ∧
      Safe (conduct config.rcon) program (fun _ _ => True) stance :=
  reached.watched (coupled config.rcon) (initial_coupled config.rcon start)
    (safe_run (initial_sound start))

end McServerNap
