import McServerNap.Interaction.Rehearsal

/-!
# A program as a party of a larger system

A configuration of a program can itself be a part of another platform's world. The
larger system then advances it by one step at a time: an operation with a reply, a move
of the smaller world, or the next turn of a loop. Whatever the order in which a system
advances its parties, each of them stays a configuration of its own executions, so that
a theorem about one program applies to every party that runs it.
-/

namespace Interaction

variable {Op : Type} {Reply : Op → Type} {α : Type}

/-- What a party does next. -/
inductive Advance (Op : Type) (Reply : Op → Type) (Move : Type) where
  | issue (op : Op) (reply : Reply op)
  | move (move : Move)
  | turn

/-- The event that a step adds to the party's history, if any. -/
def Advance.label {Move : Type} (waiting : Option Op) :
    Advance Op Reply Move → Option (Label Op Reply Move)
  | .issue op reply => some (.issued op reply)
  | .move motion => some (.moved waiting motion)
  | .turn => none

namespace Configuration

variable [DecidableEq Op] {platform : Platform Op Reply}

/-- The configuration after one step, where the step is possible. -/
def advance (configuration : Configuration platform α) :
    Advance Op Reply platform.Move → Option (Configuration platform α)
  | .issue op reply =>
    match configuration.program with
    | .perform issued next =>
      if same : op = issued then
        (platform.perform configuration.world op reply).map fun after =>
          ⟨.issued op reply :: configuration.history, next (same ▸ reply), after⟩
      else none
    | _ => none
  | .move move =>
    (platform.disturb configuration.world configuration.program.pending move).map fun after =>
      ⟨.moved configuration.program.pending move :: configuration.history,
        configuration.program, after⟩
  | .turn =>
    match configuration.program with
    | .iterate body state next =>
      some ⟨configuration.history, .turn body state next, configuration.world⟩
    | _ => none

variable {configuration after : Configuration platform α} {first : Program Op Reply α}
  {origin : platform.World} {step : Advance Op Reply platform.Move}

/-- A party that is advanced continues its execution: each of its steps is an operation that was
performed, a turn of a loop, or the end of one. -/
theorem Continues.advance (continues : configuration.Continues first origin)
    (advanced : configuration.advance step = some after) : after.Continues first origin := by
  obtain ⟨history, program, world⟩ := configuration
  cases step with
  | issue op reply =>
    cases program with
    | perform issued next =>
      simp only [Configuration.advance] at advanced
      split at advanced
      · rename_i same
        subst same
        obtain ⟨passed, performed, rfl⟩ := Option.map_eq_some_iff.mp advanced
        exact Reaches.issue continues performed
      · cases advanced
    | done value => cases advanced
    | iterate body state next => cases advanced
  | move move =>
    obtain ⟨passed, disturbed, rfl⟩ := Option.map_eq_some_iff.mp advanced
    exact Reaches.move continues disturbed
  | turn =>
    cases program with
    | iterate body state next =>
      obtain rfl := Option.some.inj advanced
      exact Reaches.unroll continues
    | done value => cases advanced
    | perform op next => cases advanced

/-- The events of a party are only added to: at most one in each step, in front of those that were
there before. -/
theorem advance_history (advanced : configuration.advance step = some after) :
    after.history =
      (step.label configuration.program.pending).toList ++ configuration.history := by
  obtain ⟨history, program, world⟩ := configuration
  cases step with
  | issue op reply =>
    cases program with
    | perform issued next =>
      simp only [Configuration.advance] at advanced
      split at advanced
      · obtain ⟨passed, performed, rfl⟩ := Option.map_eq_some_iff.mp advanced
        rfl
      · cases advanced
    | done value => cases advanced
    | iterate body state next => cases advanced
  | move move =>
    obtain ⟨passed, disturbed, rfl⟩ := Option.map_eq_some_iff.mp advanced
    rfl
  | turn =>
    cases program with
    | iterate body state next =>
      obtain rfl := Option.some.inj advanced
      rfl
    | done value => cases advanced
    | perform op next => cases advanced

/-- A finished party only sees its world move. -/
theorem advance_value {result : α} (finished : configuration.program.value = some result)
    (advanced : configuration.advance step = some after) :
    after.program = configuration.program := by
  obtain ⟨history, program, world⟩ := configuration
  obtain rfl := Program.value_eq_some.mp finished
  cases step with
  | issue op reply => cases advanced
  | move move =>
    obtain ⟨passed, disturbed, rfl⟩ := Option.map_eq_some_iff.mp advanced
    rfl
  | turn => cases advanced

end Configuration

end Interaction
