/-!
# Checks in a row

A computation that may fail succeeds when each of its steps does, and then with the value of
the last one. What a failure is called changes nothing about that.
-/

namespace Encoding

variable {ε δ α β : Type}

/-- A computation in two steps succeeds exactly when both do, the second with what the first
yields. -/
theorem except_bind_eq_ok {first : Except ε α} {next : α → Except ε β} {value : β} :
    first >>= next = .ok value ↔ ∃ middle, first = .ok middle ∧ next middle = .ok value := by
  cases first with
  | ok middle =>
    constructor
    · intro rest
      exact ⟨middle, rfl, rest⟩
    · rintro ⟨_, same, rest⟩
      cases same
      exact rest
  | error error =>
    constructor
    · intro failed
      cases failed
    · rintro ⟨_, failed, -⟩
      cases failed

/-- Returning a value yields that value. -/
@[simp] theorem except_pure_eq_ok {first value : α} :
    (pure first : Except ε α) = .ok value ↔ first = value := by
  constructor
  · intro same
    exact Except.ok.inj same
  · rintro rfl
    rfl

/-- An error is no success. -/
@[simp] theorem except_throw_eq_ok {error : ε} {value : α} :
    (throw error : Except ε α) = .ok value ↔ False := by
  constructor
  · intro failed
    cases failed
  · rintro ⟨⟩

/-- A changed result is the change of a result. -/
theorem except_map_eq_ok {first : Except ε α} {change : α → β} {value : β} :
    first.map change = .ok value ↔ ∃ middle, first = .ok middle ∧ change middle = value := by
  cases first with
  | ok middle => simp [Except.map]
  | error error => simp [Except.map]

/-- Renaming errors touches no success, so a step with a context succeeds exactly as the step
alone. -/
@[simp] theorem except_mapError_eq_ok {first : Except ε α} {rename : ε → δ} {value : α} :
    first.mapError rename = .ok value ↔ first = .ok value := by
  cases first with
  | ok middle =>
    constructor
    · intro succeeded
      cases succeeded
      rfl
    · intro succeeded
      cases succeeded
      rfl
  | error error =>
    constructor
    · intro failed
      cases failed
    · intro failed
      cases failed

/-- A step that is taken where there is something to take it on: it succeeds with nothing on
nothing, and with its own result on something. -/
theorem except_mapM_eq_ok {optional : Option α} {step : α → Except ε β} {value : Option β} :
    optional.mapM step = .ok value ↔
      Option.Rel (fun first last => step first = .ok last) optional value := by
  cases optional with
  | none =>
    rw [Option.mapM_none, except_pure_eq_ok]
    constructor
    · rintro rfl
      exact .none
    · rintro ⟨⟩
      rfl
  | some first =>
    have stepped : (some first).mapM step = step first >>= fun last => pure (some last) := by
      rw [Option.mapM_some, bind_pure_comp]
    simp only [stepped, except_bind_eq_ok, except_pure_eq_ok]
    constructor
    · rintro ⟨last, taken, rfl⟩
      exact .some taken
    · rintro ⟨taken⟩
      exact ⟨_, taken, rfl⟩

/-- A loop of checks passes when each of them does. -/
theorem except_forM_eq_ok {check : α → Except ε Unit} {elements : List α} :
    forM elements check = .ok () ↔ ∀ element ∈ elements, check element = .ok () := by
  induction elements with
  | nil => simp
  | cons element elements inductionHypothesis =>
    rw [List.forM_cons, except_bind_eq_ok, List.forall_mem_cons]
    constructor
    · rintro ⟨⟨⟩, first, others⟩
      exact ⟨first, inductionHypothesis.mp others⟩
    · rintro ⟨first, others⟩
      exact ⟨(), first, inductionHypothesis.mpr others⟩

end Encoding
