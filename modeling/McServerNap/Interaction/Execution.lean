import McServerNap.Interaction.Program

/-!
# Executions of a program on a platform

A platform owns a world. It answers the operation a program issues, and it moves
on its own account in between: other parties act, time passes. Every execution
alternates the two in an arbitrary order. The platform sees which operation a
program is waiting for, so that an autonomous move may depend on it.

A history lists what happened, newest first. Unrolling a loop is bookkeeping of
the program and leaves no label.
-/

namespace Interaction

universe u

/-- How operations are answered and how the world moves on its own. An answer
that the world does not admit has no resulting world. A world may contain other
programs, so its universe is not fixed. -/
structure Platform (Op : Type) (Reply : Op → Type) where
  World : Type u
  Move : Type
  perform : World → (op : Op) → Reply op → Option World
  disturb : World → Option Op → Move → Option World

/-- One observable event of an execution. A move records the operation that was
waiting when it happened. -/
inductive Label (Op : Type) (Reply : Op → Type) (Move : Type) where
  | issued (op : Op) (reply : Reply op)
  | moved (waiting : Option Op) (move : Move)

variable {Op : Type} {Reply : Op → Type} {α : Type}

/-- The events of an execution, newest first. -/
abbrev History (platform : Platform Op Reply) := List (Label Op Reply platform.Move)

/-- The world that a history leads to. Labels determine it, whatever the program. -/
def Platform.replay (platform : Platform Op Reply) (origin : platform.World) :
    History platform → Option platform.World
  | [] => some origin
  | .issued op reply :: earlier =>
    (platform.replay origin earlier).bind fun world => platform.perform world op reply
  | .moved waiting move :: earlier =>
    (platform.replay origin earlier).bind fun world => platform.disturb world waiting move

/-- Replaying a longer history goes on from where the shorter one leads, by the operation. -/
theorem Platform.replay_issued {platform : Platform Op Reply} {origin world after : platform.World}
    {history : History platform} {op : Op} {reply : Reply op}
    (replayed : platform.replay origin history = some world)
    (performed : platform.perform world op reply = some after) :
    platform.replay origin (.issued op reply :: history) = some after := by
  rw [Platform.replay, replayed]
  exact performed

/-- Or by the move. -/
theorem Platform.replay_moved {platform : Platform Op Reply} {origin world after : platform.World}
    {history : History platform} {waiting : Option Op} {move : platform.Move}
    (replayed : platform.replay origin history = some world)
    (disturbed : platform.disturb world waiting move = some after) :
    platform.replay origin (.moved waiting move :: history) = some after := by
  rw [Platform.replay, replayed]
  exact disturbed

/-- Configurations of a program and its world reached with a given history. -/
inductive Reaches (platform : Platform Op Reply) (first : Program Op Reply α)
    (origin : platform.World) : History platform → Program Op Reply α → platform.World → Prop where
  | start : Reaches platform first origin [] first origin
  | issue {history : History platform} {op : Op} {next : Reply op → Program Op Reply α}
      {world after : platform.World} {reply : Reply op}
      (reached : Reaches platform first origin history (.perform op next) world)
      (performed : platform.perform world op reply = some after) :
      Reaches platform first origin (.issued op reply :: history) (next reply) after
  | move {history : History platform} {program : Program Op Reply α}
      {world after : platform.World} {move : platform.Move}
      (reached : Reaches platform first origin history program world)
      (disturbed : platform.disturb world program.pending move = some after) :
      Reaches platform first origin (.moved program.pending move :: history) program after
  | unroll {history : History platform} {β σ : Type} {body : σ → Program Op Reply (Turn σ β)}
      {state : σ} {next : β → Program Op Reply α} {world : platform.World}
      (reached : Reaches platform first origin history (.iterate body state next) world) :
      Reaches platform first origin history (Program.turn body state next) world

namespace Reaches

variable {platform : Platform Op Reply} {first middle last : Program Op Reply α}
  {origin passed world : platform.World} {earlier later : History platform}

/-- Executions compose; the later events are newer. -/
theorem trans (before : Reaches platform first origin earlier middle passed)
    (after : Reaches platform middle passed later last world) :
    Reaches platform first origin (later ++ earlier) last world := by
  induction after with
  | start => exact before
  | issue _ performed inductionHypothesis => exact .issue inductionHypothesis performed
  | move _ disturbed inductionHypothesis => exact .move inductionHypothesis disturbed
  | unroll _ inductionHypothesis => exact .unroll inductionHypothesis

/-- What every answer and every move of the platform keeps holds in each world
reached, whatever the program. -/
theorem invariant {holds : platform.World → Prop}
    (performed : ∀ {world op reply after}, holds world →
      platform.perform world op reply = some after → holds after)
    (disturbed : ∀ {world waiting move after}, holds world →
      platform.disturb world waiting move = some after → holds after)
    (initial : holds origin) (reached : Reaches platform first origin earlier middle world) :
    holds world := by
  induction reached with
  | start => exact initial
  | issue _ step inductionHypothesis => exact performed inductionHypothesis step
  | move _ step inductionHypothesis => exact disturbed inductionHypothesis step
  | unroll _ inductionHypothesis => exact inductionHypothesis

/-- An execution's world is the one that its history leads to. -/
theorem replayed (reached : Reaches platform first origin earlier middle world) :
    platform.replay origin earlier = some world := by
  induction reached with
  | start => rfl
  | issue _ performed inductionHypothesis => exact Platform.replay_issued inductionHypothesis performed
  | move _ disturbed inductionHypothesis => exact Platform.replay_moved inductionHypothesis disturbed
  | unroll _ inductionHypothesis => exact inductionHypothesis

/-- A history split at any point passes through a configuration there. Only the
labels of the later part are undone; unrolled loops stay with it. -/
theorem split (whole : Reaches platform first origin (later ++ earlier) last world) :
    ∃ middle passed, Reaches platform first origin earlier middle passed ∧
      Reaches platform middle passed later last world := by
  generalize complete : later ++ earlier = history at whole
  induction whole generalizing later with
  | start =>
    obtain ⟨rfl, rfl⟩ := List.append_eq_nil_iff.mp complete
    exact ⟨first, origin, .start, .start⟩
  | @issue history op next world after reply reached performed inductionHypothesis =>
    cases later with
    | nil => exact ⟨_, _, by simpa [← complete] using Reaches.issue reached performed, .start⟩
    | cons label rest =>
      obtain ⟨rfl, tail⟩ := List.cons.inj complete
      obtain ⟨middle, passed, before, after⟩ := inductionHypothesis tail
      exact ⟨middle, passed, before, .issue after performed⟩
  | @move history program world after move reached disturbed inductionHypothesis =>
    cases later with
    | nil => exact ⟨_, _, by simpa [← complete] using Reaches.move reached disturbed, .start⟩
    | cons label rest =>
      obtain ⟨rfl, tail⟩ := List.cons.inj complete
      obtain ⟨middle, passed, before, after⟩ := inductionHypothesis tail
      exact ⟨middle, passed, before, .move after disturbed⟩
  | unroll reached inductionHypothesis =>
    obtain ⟨middle, passed, before, after⟩ := inductionHypothesis complete
    exact ⟨middle, passed, before, .unroll after⟩

end Reaches

end Interaction
