import McServerNap.Interaction.Execution

/-!
# One platform standing for another

A platform may describe the surroundings of a program more closely than another one does. It is
stood for by the other when each of its answers is one of the other's and each of its moves
amounts to some moves of the other. A program then meets nothing on the closer platform that it
does not meet on the other one, with the same operations and the same replies.
-/

namespace Interaction

universe u v

variable {Op : Type} {Reply : Op → Type} {α : Type}

/-- Moves in a row. -/
def Platform.disturbs (platform : Platform.{u} Op Reply) (waiting : Option Op) :
    platform.World → List platform.Move → Option platform.World
  | world, [] => some world
  | world, move :: later =>
    (platform.disturb world waiting move).bind fun after => platform.disturbs waiting after later

/-- The operations of a history with their replies, newest first. -/
def issues {Move : Type} (history : List (Label Op Reply Move)) : List ((op : Op) × Reply op) :=
  history.filterMap fun label =>
    match label with
    | .issued op reply => some ⟨op, reply⟩
    | .moved _ _ => none

/-- An operation with its reply is part of what was issued. -/
@[simp] theorem issues_issued {Move : Type} (op : Op) (reply : Reply op)
    (history : List (Label Op Reply Move)) :
    issues (.issued op reply :: history) = ⟨op, reply⟩ :: issues history := rfl

/-- The moves of the surroundings are not. -/
@[simp] theorem issues_moved {Move : Type} (waiting : Option Op) (move : Move)
    (history : List (Label Op Reply Move)) :
    issues (.moved waiting move :: history) = issues history := rfl

/-- An execution goes on with any moves that are possible where it has come to. -/
theorem Reaches.disturbed {platform : Platform.{u} Op Reply} {first program : Program Op Reply α}
    {origin world after : platform.World} {history : History platform}
    (reached : Reaches platform first origin history program world) {moves : List platform.Move}
    (moved : platform.disturbs program.pending world moves = some after) :
    ∃ later, Reaches platform first origin later program after ∧
      issues later = issues history := by
  induction moves generalizing world history with
  | nil =>
    obtain rfl := Option.some.inj moved
    exact ⟨history, reached, rfl⟩
  | cons move rest inductionHypothesis =>
    obtain ⟨between, step, moved⟩ := Option.bind_eq_some_iff.mp moved
    obtain ⟨later, continued, same⟩ := inductionHypothesis (.move reached step) moved
    exact ⟨later, continued, same⟩

/-- Every answer and every move of the closer platform has its counterpart. -/
structure Simulation (closer : Platform.{u} Op Reply) (other : Platform.{v} Op Reply)
    (Related : closer.World → other.World → Prop) : Prop where
  performed : ∀ {world stands op reply after}, Related world stands →
    closer.perform world op reply = some after →
      ∃ later, other.perform stands op reply = some later ∧ Related after later
  disturbed : ∀ {world stands waiting move after}, Related world stands →
    closer.disturb world waiting move = some after →
      ∃ moves later, other.disturbs waiting stands moves = some later ∧ Related after later

/-- An execution on the closer platform is one on the other, of the same program with the same
operations and replies. -/
theorem Simulation.reaches {closer : Platform.{u} Op Reply} {other : Platform.{v} Op Reply}
    {Related : closer.World → other.World → Prop} (simulation : Simulation closer other Related)
    {first program : Program Op Reply α} {origin world : closer.World} {start : other.World}
    {history : History closer} (initial : Related origin start)
    (reached : Reaches closer first origin history program world) :
    ∃ later stands, Reaches other first start later program stands ∧
      issues later = issues history ∧ Related world stands := by
  induction reached with
  | start => exact ⟨[], start, .start, rfl, initial⟩
  | issue _ performed inductionHypothesis =>
    obtain ⟨later, stands, before, same, related⟩ := inductionHypothesis
    obtain ⟨after, answered, related⟩ := simulation.performed related performed
    exact ⟨_, after, .issue before answered, by rw [issues_issued, issues_issued, same], related⟩
  | move _ disturbed inductionHypothesis =>
    obtain ⟨later, stands, before, same, related⟩ := inductionHypothesis
    obtain ⟨moves, after, moved, related⟩ := simulation.disturbed related disturbed
    obtain ⟨events, continued, unchanged⟩ := before.disturbed moved
    exact ⟨events, after, continued, by rw [issues_moved, unchanged, same], related⟩
  | unroll _ inductionHypothesis =>
    obtain ⟨later, stands, before, same, related⟩ := inductionHypothesis
    exact ⟨later, stands, .unroll before, same, related⟩

end Interaction
