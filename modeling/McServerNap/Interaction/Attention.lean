import McServerNap.Interaction.Monitor

/-!
# What a program waits for

A program that waits for an operation issues that one next, whatever the world does in
the meantime. A monitor does not see this: to it a move is one of the world's, made while
something permitted was waiting. An attentive platform remembers what was waiting when
the world last moved and until that is issued knows of nothing else. Each execution of a
program is one on the attentive platform as well, so that couplings may rely on it.
-/

namespace Interaction

variable {Op : Type} {Reply : Op → Type} {α : Type} [DecidableEq Op]

/-- The platform with the operation that was waiting when the world last moved. -/
def Platform.attentive (platform : Platform Op Reply) : Platform Op Reply where
  World := platform.World × Option Op
  Move := platform.Move
  perform marked op reply :=
    if marked.2 = none ∨ marked.2 = some op then
      (platform.perform marked.1 op reply).map fun after => (after, none)
    else none
  disturb marked waiting move :=
    if marked.2 = none ∨ marked.2 = waiting then
      (platform.disturb marked.1 waiting move).map fun after => (after, waiting)
    else none

variable {platform : Platform Op Reply} {monitor : Monitor Op Reply}
  {first program : Program Op Reply α} {origin world after : platform.World}
  {mark waiting : Option Op} {op : Op} {reply : Reply op} {move : platform.Move}
  {marked : platform.World × Option Op}

/-- The attentive platform answers only the operation that it remembers. -/
theorem Platform.attentive_performed
    (performed : platform.attentive.perform (world, mark) op reply = some marked) :
    (mark = none ∨ mark = some op) ∧
      ∃ after, platform.perform world op reply = some after ∧ marked = (after, none) := by
  simp only [Platform.attentive] at performed
  split at performed
  · rename_i expected
    obtain ⟨after, answered, rfl⟩ := Option.map_eq_some_iff.mp performed
    exact ⟨expected, after, answered, rfl⟩
  · cases performed

/-- A move of the attentive platform is a move of the platform, and remembers what was being
waited for. -/
theorem Platform.attentive_disturbed
    (disturbed : platform.attentive.disturb (world, mark) waiting move = some marked) :
    (mark = none ∨ mark = waiting) ∧
      ∃ after, platform.disturb world waiting move = some after ∧ marked = (after, waiting) := by
  simp only [Platform.attentive] at disturbed
  split at disturbed
  · rename_i expected
    obtain ⟨after, moved, rfl⟩ := Option.map_eq_some_iff.mp disturbed
    exact ⟨expected, after, moved, rfl⟩
  · cases disturbed

/-- Every execution is one on the attentive platform, and what that remembers is what
the program still waits for. -/
theorem Reaches.attentive {history : History platform}
    (reached : Reaches platform first origin history program world) :
    ∃ mark : Option Op, Reaches platform.attentive first (origin, none) history program (world, mark) ∧
      ∀ op, mark = some op → program.pending = some op := by
  induction reached with
  | start => exact ⟨none, .start, nofun⟩
  | @issue history op next world after reply _ performed inductionHypothesis =>
    obtain ⟨mark, reached, waits⟩ := inductionHypothesis
    have expected : mark = none ∨ mark = some op := by
      cases mark with
      | none => exact .inl rfl
      | some remembered =>
        have same : some op = some remembered := waits remembered rfl
        exact .inr same.symm
    refine ⟨none, .issue reached ?_, nofun⟩
    simp [Platform.attentive, expected, performed]
  | @move history program world after move _ disturbed inductionHypothesis =>
    obtain ⟨mark, reached, waits⟩ := inductionHypothesis
    have expected : mark = none ∨ mark = program.pending := by
      cases mark with
      | none => exact .inl rfl
      | some remembered => exact .inr (waits remembered rfl).symm
    refine ⟨program.pending, .move reached ?_, fun op same => same⟩
    simp [Platform.attentive, expected, disturbed]
  | unroll _ inductionHypothesis =>
    obtain ⟨mark, reached, waits⟩ := inductionHypothesis
    refine ⟨mark, .unroll reached, fun op same => ?_⟩
    cases waits op same

end Interaction
