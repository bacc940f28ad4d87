import McServerNap.Interaction.Execution

/-!
# Rehearsed executions

An execution can be computed from a list of cues: the replies that the environment is
free to choose, and the world's own moves. Between two cues the program runs on its
own, as far as a policy knows the replies. A cue that does not fit is ignored, so
that every rehearsal, whatever its cues, is an execution.
-/

namespace Interaction

variable {Op : Type} {Reply : Op → Type} {α : Type} {platform : Platform Op Reply}

instance {Move : Type} [DecidableEq Op] [∀ op, DecidableEq (Reply op)] [DecidableEq Move] :
    DecidableEq (Label Op Reply Move)
  | .issued op reply, .issued other answer =>
    if same : op = other then
      decidable_of_iff (same ▸ reply = answer) (by subst same; simp)
    else isFalse fun equal => same (Label.issued.inj equal).1
  | .moved waiting move, .moved other later =>
    decidable_of_iff (waiting = other ∧ move = later) (by simp)
  | .issued _ _, .moved _ _ | .moved _ _, .issued _ _ => isFalse nofun

/-- Which reply an operation gets in a world, where that is settled. -/
abbrev Policy (platform : Platform Op Reply) :=
  platform.World → (op : Op) → Option (Reply op)

/-- What an environment contributes to an execution. -/
inductive Cue (platform : Platform Op Reply) where
  | reply (policy : Policy platform)
  | move (move : platform.Move)

/-- A program and its world, with the history that led there. -/
structure Configuration (platform : Platform Op Reply) (α : Type) where
  history : History platform
  program : Program Op Reply α
  world : platform.World

namespace Configuration

/-- Nothing has happened yet. -/
def fresh (platform : Platform Op Reply) (program : Program Op Reply α)
    (world : platform.World) : Configuration platform α := ⟨[], program, world⟩

/-- One operation with the policy's reply, or the next turn of a loop. -/
def issue (configuration : Configuration platform α) (policy : Policy platform) :
    Configuration platform α :=
  match configuration.program with
  | .perform op next =>
    match policy configuration.world op with
    | none => configuration
    | some reply =>
      match platform.perform configuration.world op reply with
      | none => configuration
      | some after => ⟨.issued op reply :: configuration.history, next reply, after⟩
  | .iterate body state next =>
    ⟨configuration.history, .turn body state next, configuration.world⟩
  | .done _ => configuration

/-- One move of the world. -/
def move (configuration : Configuration platform α) (move : platform.Move) :
    Configuration platform α :=
  match platform.disturb configuration.world configuration.program.pending move with
  | none => configuration
  | some after =>
    ⟨.moved configuration.program.pending move :: configuration.history,
      configuration.program, after⟩

/-- The program runs on its own for a number of steps. -/
def settle (policy : Policy platform) :
    Nat → Configuration platform α → Configuration platform α
  | 0, configuration => configuration
  | steps + 1, configuration => settle policy steps (configuration.issue policy)

/-- The environment's part of one cue. -/
def follow (configuration : Configuration platform α) : Cue platform → Configuration platform α
  | .reply policy => configuration.issue policy
  | .move move => configuration.move move

/-- The cues, one after the other; the program settles before each and at the end. -/
def rehearse (policy : Policy platform) (steps : Nat) :
    List (Cue platform) → Configuration platform α → Configuration platform α
  | [], configuration => configuration.settle policy steps
  | cue :: rest, configuration =>
    rehearse policy steps rest ((configuration.settle policy steps).follow cue)

/-- The configuration continues an execution of the program. -/
def Continues (configuration : Configuration platform α) (first : Program Op Reply α)
    (origin : platform.World) : Prop :=
  Reaches platform first origin configuration.history configuration.program configuration.world

variable {configuration : Configuration platform α} {first : Program Op Reply α}
  {origin : platform.World}

/-- A rehearsed operation follows from the configuration before it, and if the policy has no reply
nothing happens. -/
theorem Continues.issue (continues : configuration.Continues first origin)
    (policy : Policy platform) : (configuration.issue policy).Continues first origin := by
  obtain ⟨history, program, world⟩ := configuration
  cases program with
  | done value => exact continues
  | iterate body state next => exact .unroll continues
  | perform op next =>
    unfold Configuration.issue
    simp only
    split
    · exact continues
    · split
      · exact continues
      · exact .issue continues (by assumption)

/-- So does a rehearsed move, where it is possible. -/
theorem Continues.move (continues : configuration.Continues first origin)
    (move : platform.Move) : (configuration.move move).Continues first origin := by
  unfold Configuration.move
  split
  · exact continues
  · exact Reaches.move continues (by assumption)

/-- So do several operations in a row, up to the given number. -/
theorem Continues.settle (continues : configuration.Continues first origin)
    (policy : Policy platform) (steps : Nat) :
    (configuration.settle policy steps).Continues first origin := by
  induction steps generalizing configuration with
  | zero => exact continues
  | succ steps inductionHypothesis => exact inductionHypothesis (continues.issue policy)

/-- So does whatever a cue asks for. -/
theorem Continues.follow (continues : configuration.Continues first origin)
    (cue : Cue platform) : (configuration.follow cue).Continues first origin := by
  cases cue with
  | reply policy => exact continues.issue policy
  | move move => exact continues.move move

/-- Every rehearsal is an execution. -/
theorem Continues.rehearse (continues : configuration.Continues first origin)
    (policy : Policy platform) (steps : Nat) (cues : List (Cue platform)) :
    (configuration.rehearse policy steps cues).Continues first origin := by
  induction cues generalizing configuration with
  | nil => exact continues.settle policy steps
  | cons cue rest inductionHypothesis =>
    exact inductionHypothesis ((continues.settle policy steps).follow cue)

/-- A rehearsal of a fresh configuration is an execution of its program. -/
theorem rehearse_reached (program : Program Op Reply α) (world : platform.World)
    (policy : Policy platform) (steps : Nat) (cues : List (Cue platform)) :
    ((fresh platform program world).rehearse policy steps cues).Continues program world := by
  have begun : (fresh platform program world).Continues program world := Reaches.start
  exact begun.rehearse policy steps cues

end Configuration

end Interaction
