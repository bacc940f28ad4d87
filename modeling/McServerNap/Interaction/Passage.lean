import McServerNap.Interaction.Execution

/-!
# Passages between configurations

A passage leads a program and its world on, by some execution whose events are left
open except that each of them is allowed. The rules read a passage from its front: each
takes the passage that remains after one event. A program is so carried through its
operations in the order in which it issues them, also in a world that is known only by
a few of its parts, and an execution of any length is put together from repeated
passages.
-/

namespace Interaction

variable {Op : Type} {Reply : Op → Type} {α : Type}

/-- Some execution of allowed events leads from one configuration to the other. -/
def Passage (platform : Platform Op Reply) (allowed : Label Op Reply platform.Move → Prop)
    (first : Program Op Reply α) (origin : platform.World) (last : Program Op Reply α)
    (world : platform.World) : Prop :=
  ∃ history : History platform, (∀ label ∈ history, allowed label) ∧
    Reaches platform first origin history last world

namespace Passage

variable {platform : Platform Op Reply} {allowed : Label Op Reply platform.Move → Prop}
  {first middle last : Program Op Reply α} {origin passed world : platform.World}

/-- No event leads from a configuration to itself. -/
theorem refl (program : Program Op Reply α) (world : platform.World) :
    Passage platform allowed program world program world :=
  ⟨[], nofun, .start⟩

/-- Executions follow one another. -/
theorem trans (before : Passage platform allowed first origin middle passed)
    (after : Passage platform allowed middle passed last world) :
    Passage platform allowed first origin last world := by
  obtain ⟨earlier, allowedBefore, before⟩ := before
  obtain ⟨later, allowedAfter, after⟩ := after
  refine ⟨later ++ earlier, ?_, before.trans after⟩
  intro label listed
  rcases List.mem_append.mp listed with newer | older
  · exact allowedAfter label newer
  · exact allowedBefore label older

/-- One operation, then the rest. -/
theorem issue {op : Op} {next : Reply op → Program Op Reply α} {reply : Reply op}
    (performed : platform.perform origin op reply = some passed)
    (allows : allowed (.issued op reply))
    (rest : Passage platform allowed (next reply) passed last world) :
    Passage platform allowed (.perform op next) origin last world :=
  trans ⟨[.issued op reply], by simpa using allows, .issue .start performed⟩ rest

/-- One move, then the rest. -/
theorem move {move : platform.Move}
    (disturbed : platform.disturb origin first.pending move = some passed)
    (allows : allowed (.moved first.pending move))
    (rest : Passage platform allowed first passed last world) :
    Passage platform allowed first origin last world :=
  trans ⟨[.moved first.pending move], by simpa using allows, .move .start disturbed⟩ rest

/-- A loop's turn, then the rest. -/
theorem unroll {σ β : Type} {body : σ → Program Op Reply (Turn σ β)} {state : σ}
    {next : β → Program Op Reply α}
    (rest : Passage platform allowed (.turn body state next) origin last world) :
    Passage platform allowed (.iterate body state next) origin last world :=
  trans ⟨[], nofun, .unroll .start⟩ rest

variable (platform) in
/-- Passages back to the same program add up. What holds of the worlds in between may
count them. -/
theorem iterated (holds : Nat → platform.World → Prop)
    (turn : ∀ count world, holds count world → ∃ later, holds (count + 1) later ∧
      Passage platform allowed first world first later)
    (initial : holds 0 origin) (count : Nat) :
    ∃ world, holds count world ∧ Passage platform allowed first origin first world := by
  induction count with
  | zero => exact ⟨origin, initial, refl first origin⟩
  | succ count inductionHypothesis =>
    obtain ⟨between, reached, before⟩ := inductionHypothesis
    obtain ⟨later, holds, after⟩ := turn count between reached
    exact ⟨later, holds, before.trans after⟩

/-- A passage prolongs an execution by allowed events. -/
theorem prolongs {earlier : History platform}
    (before : Reaches platform first origin earlier middle passed)
    (passage : Passage platform allowed middle passed last world) :
    ∃ later : History platform, (∀ label ∈ later, allowed label) ∧
      Reaches platform first origin (later ++ earlier) last world := by
  obtain ⟨later, allows, after⟩ := passage
  exact ⟨later, allows, before.trans after⟩

end Passage

end Interaction
