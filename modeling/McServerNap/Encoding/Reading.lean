/-!
# Readers and the forms they accept

A reader takes items off the front of its input. It may stop with an error, and
keeps whatever state it has reached by then. A form says which items spell which
value; since a value may mention positions, a form also sees what was read before.

`Reads` relates the two: the reader succeeds exactly when its input begins with
the form, takes exactly the items of the form and returns the value they spell.
The relation composes, so the form of a whole message is read off from the forms
of its fields. A reader whose positions are bounded may fail for lack of room; the
budget is the largest number of items that its form spans.
-/

namespace Encoding

variable {σ ε τ α β : Type}

/-- The outcome of a reader and the state it leaves. -/
def outcome (reader : ExceptT ε (StateM σ) α) (state : σ) : Except ε α × σ := reader.run state

/-- Returning a value leaves the state. -/
@[simp] theorem outcome_pure (value : α) (state : σ) :
    outcome (pure value : ExceptT ε (StateM σ) α) state = (.ok value, state) := rfl

/-- So does failing. -/
@[simp] theorem outcome_throw (error : ε) (state : σ) :
    outcome (throw error : ExceptT ε (StateM σ) α) state = (.error error, state) := rfl

/-- So does looking at the state, which is the value. -/
@[simp] theorem outcome_get (state : σ) :
    outcome (get : ExceptT ε (StateM σ) σ) state = (.ok state, state) := rfl

/-- A state that is set is the next one. -/
@[simp] theorem outcome_set (later state : σ) :
    outcome (set later : ExceptT ε (StateM σ) PUnit) state = (.ok ⟨⟩, later) := rfl

/-- A state that is modified is the next one, and modifying never fails. -/
@[simp] theorem outcome_modify (change : σ → σ) (state : σ) :
    outcome (modify change : ExceptT ε (StateM σ) PUnit) state = (.ok ⟨⟩, change state) := rfl

/-- The second reader starts where the first one stopped, unless that failed. -/
theorem outcome_bind (reader : ExceptT ε (StateM σ) α) (next : α → ExceptT ε (StateM σ) β)
    (state : σ) :
    outcome (reader >>= next) state =
      match outcome reader state with
      | (.ok value, later) => outcome (next value) later
      | (.error error, later) => (.error error, later) := by
  change (reader.run >>= ExceptT.bindCont next : StateM σ _) state = _
  simp only [outcome]
  change (ExceptT.bindCont next (reader.run state).1 : StateM σ _) (reader.run state).2 = _
  cases reader.run state with
  | mk result later => cases result <;> rfl

/-- After a success the next step goes on with its value and its state. -/
theorem outcome_bind_ok (reader : ExceptT ε (StateM σ) α) (next : α → ExceptT ε (StateM σ) β)
    {state later : σ} {value : α} (read : outcome reader state = (.ok value, later)) :
    outcome (reader >>= next) state = outcome (next value) later := by
  rw [outcome_bind, read]

/-- After a failure nothing goes on. -/
theorem outcome_bind_error (reader : ExceptT ε (StateM σ) α) (next : α → ExceptT ε (StateM σ) β)
    {state later : σ} {error : ε} (failed : outcome reader state = (.error error, later)) :
    outcome (reader >>= next) state = (.error error, later) := by
  rw [outcome_bind, failed]

/-- A handler takes over where its reader failed, from the state that the reader has left. What
was read until then stays read. -/
theorem outcome_tryCatch (reader : ExceptT ε (StateM σ) α) (handler : ε → ExceptT ε (StateM σ) α)
    (state : σ) :
    outcome (tryCatch reader handler) state =
      match outcome reader state with
      | (.ok value, later) => (.ok value, later)
      | (.error error, later) => outcome (handler error) later := by
  change (match (reader.run state).1 with
    | .ok value => (pure (.ok value) : StateM σ (Except ε α))
    | .error error => handler error) (reader.run state).2 = _
  simp only [outcome]
  cases reader.run state with
  | mk result later => cases result <;> rfl

/-- A sequence succeeds when both of its readers do. The state between them is named, so that
facts about the first can be carried to the second. -/
theorem outcome_bind_eq_ok (reader : ExceptT ε (StateM σ) α)
    (next : α → ExceptT ε (StateM σ) β) {state last : σ} {value : β} :
    outcome (reader >>= next) state = (.ok value, last) ↔
      ∃ first later, outcome reader state = (.ok first, later) ∧
        outcome (next first) later = (.ok value, last) := by
  rw [outcome_bind]
  constructor
  · intro whole
    cases read : outcome reader state with
    | mk result later =>
      cases result with
      | ok first => exact ⟨first, later, rfl, by simpa only [read] using whole⟩
      | error error => simp only [read, Prod.mk.injEq, reduceCtorEq, false_and] at whole
  · rintro ⟨first, later, read, rest⟩
    rw [read]
    exact rest

variable {Stands : σ → List τ → List τ → Prop} {room : Nat}

/-- A reader accepts exactly a form. `Stands state before unread` places a state
between the items already read and those still to come. -/
structure Reads (Stands : σ → List τ → List τ → Prop) (room budget : Nat)
    (reader : ExceptT ε (StateM σ) α) (Form : List τ → List τ → α → Prop) : Prop where
  within : ∀ {before field value}, Form before field value → field.length ≤ budget
  sound : ∀ {state before unread value later}, before.length + budget < room →
    Stands state before unread → outcome reader state = (.ok value, later) →
      ∃ field rest, unread = field ++ rest ∧ Form before field value ∧
        Stands later (before ++ field) rest
  complete : ∀ {state before field rest value}, before.length + budget < room →
    Stands state before (field ++ rest) → Form before field value →
      ∃ later, outcome reader state = (.ok value, later) ∧ Stands later (before ++ field) rest

/-- The form of a sequence: one field after the other. -/
def Followed (First : List τ → List τ → α → Prop) (Second : α → List τ → List τ → β → Prop) :
    List τ → List τ → β → Prop :=
  fun before field value => ∃ left right middle, field = left ++ right ∧
    First before left middle ∧ Second middle (before ++ left) right value

/-- The form of a reader that takes nothing. -/
def Silent (holds : List τ → α → Prop) : List τ → List τ → α → Prop :=
  fun before field value => field = [] ∧ holds before value

/-- A field that takes nothing disappears from a sequence. -/
theorem silent_followed (holds : List τ → α → Prop)
    (Second : α → List τ → List τ → β → Prop) :
    Followed (Silent holds) Second =
      fun before field value => ∃ middle, holds before middle ∧ Second middle before field value := by
  funext before field value
  apply propext
  constructor
  · rintro ⟨left, right, middle, rfl, ⟨rfl, held⟩, second⟩
    exact ⟨middle, held, by simpa using second⟩
  · rintro ⟨middle, held, second⟩
    exact ⟨[], field, middle, rfl, ⟨rfl, held⟩, by simpa using second⟩

namespace Reads

/-- Returning a value reads the empty form: nothing is taken, and the form says only which value
is returned. -/
theorem pure (value : α) : Reads (ε := ε) Stands room 0 (pure value)
    (Silent fun _ returned => returned = value) where
  within := by
    rintro before field _ ⟨rfl, _⟩
    simp
  sound := by
    intro state before unread returned later _ placed read
    simp only [outcome_pure, Prod.mk.injEq, Except.ok.injEq] at read
    obtain ⟨rfl, rfl⟩ := read
    exact ⟨[], unread, rfl, ⟨rfl, rfl⟩, by simpa using placed⟩
  complete := by
    rintro state before field rest _ _ placed ⟨rfl, rfl⟩
    exact ⟨state, rfl, by simpa using placed⟩

/-- A reader that always fails reads the empty form. -/
theorem throw (error : ε) : Reads Stands room 0 (throw error : ExceptT ε (StateM σ) α)
    (Silent fun _ _ => False) where
  within := by
    rintro before field _ ⟨_, impossible⟩
    exact impossible.elim
  sound := by
    intro state before unread returned later _ _ read
    simp at read
  complete := by
    rintro state before field rest _ _ _ ⟨_, impossible⟩
    exact impossible.elim

variable {budget later : Nat} {reader : ExceptT ε (StateM σ) α}
  {next : α → ExceptT ε (StateM σ) β} {Form Form' : List τ → List τ → α → Prop}
  {Next : α → List τ → List τ → β → Prop}

/-- Budgets of a sequence add up, and its form is one form after the other. The
second reader has to be known only on values that the first form can spell. -/
theorem bind (first : Reads Stands room budget reader Form)
    (second : ∀ value, (∃ before field, Form before field value) →
      Reads Stands room later (next value) (Next value)) :
    Reads Stands room (budget + later) (reader >>= next) (Followed Form Next) where
  within := by
    rintro before field value ⟨left, right, middle, rfl, one, other⟩
    have leftFits := first.within one
    have rightFits := (second middle ⟨_, _, one⟩).within other
    simp only [List.length_append]
    omega
  sound := by
    intro state before unread value last roomy placed read
    obtain ⟨middle, between, readFirst, readSecond⟩ := (outcome_bind_eq_ok _ _).mp read
    obtain ⟨left, rest, rfl, formed, placedBetween⟩ := first.sound (by omega) placed readFirst
    have leftFits := first.within formed
    obtain ⟨right, rest', rfl, formed', placedLast⟩ := (second middle ⟨_, _, formed⟩).sound
      (by simp only [List.length_append]; omega) placedBetween readSecond
    exact ⟨left ++ right, rest', by simp, ⟨left, right, middle, rfl, formed, formed'⟩,
      by simpa using placedLast⟩
  complete := by
    rintro state before field rest value roomy placed ⟨left, right, middle, rfl, one, other⟩
    have leftFits := first.within one
    have apart : Stands state before (left ++ (right ++ rest)) := by simpa using placed
    obtain ⟨between, readFirst, placedBetween⟩ := first.complete (by omega) apart one
    obtain ⟨last, readSecond, placedLast⟩ := (second middle ⟨_, _, one⟩).complete
      (by simp only [List.length_append]; omega) placedBetween other
    refine ⟨last, ?_, by simpa using placedLast⟩
    exact (outcome_bind_eq_ok _ _).mpr ⟨middle, between, readFirst, readSecond⟩

/-- Equivalent forms are read alike. -/
theorem congr (reads : Reads Stands room budget reader Form)
    (same : ∀ before field value, Form before field value ↔ Form' before field value) :
    Reads Stands room budget reader Form' where
  within formed := reads.within ((same _ _ _).mpr formed)
  sound roomy placed read := by
    obtain ⟨field, rest, split, formed, placedLater⟩ := reads.sound roomy placed read
    exact ⟨field, rest, split, (same _ _ _).mp formed, placedLater⟩
  complete roomy placed formed := reads.complete roomy placed ((same _ _ _).mpr formed)

/-- A larger budget asks for more room than needed. -/
theorem relax (reads : Reads Stands room budget reader Form) (larger : budget ≤ later) :
    Reads Stands room later reader Form where
  within formed := Nat.le_trans (reads.within formed) larger
  sound roomy placed read := reads.sound (by omega) placed read
  complete roomy placed formed := reads.complete (by omega) placed formed

end Reads

end Encoding
