import PageCheck.Error

/-!
# Computations that can fail

A computation in two parts succeeds only if both of them do, and it fails with the error of the
first part that fails. Changing the error of a computation changes nothing else. Two computations
that do not hang on each other have the error of the first one that fails.
-/

namespace PageCheck

variable {ε ε' α β : Type}

/-- A computation in two parts succeeds only if both do. -/
theorem ok_of_bind {first : Except ε α} {next : α → Except ε β} {result : β}
    (hbind : first >>= next = .ok result) :
    ∃ value, first = .ok value ∧ next value = .ok result := by
  cases first with
  | error error => cases hbind
  | ok value => exact ⟨value, rfl, hbind⟩

/-- Changing the error of a computation does not make it succeed. -/
theorem ok_of_mapError {computation : Except ε α} {change : ε → ε'} {result : α}
    (hmap : computation.mapError change = .ok result) : computation = .ok result := by
  cases computation with
  | error error => cases hmap
  | ok value =>
    cases hmap
    rfl

/-- Changing the value of a computation does not make it succeed. -/
theorem ok_of_map {computation : Except ε α} {change : α → β} {result : β}
    (hmap : computation.map change = .ok result) :
    ∃ value, computation = .ok value ∧ change value = result := by
  cases computation with
  | error error => cases hmap
  | ok value =>
    cases hmap
    exact ⟨value, rfl, rfl⟩

/-- Nor does it keep it from succeeding. -/
theorem exists_map_eq_ok_iff {computation : Except ε α} {change : α → β} :
    (∃ result, computation.map change = .ok result) ↔ ∃ value, computation = .ok value := by
  cases computation <;> simp [Except.map]

/-- Changing the value of a computation does not make it fail. -/
theorem error_of_map {computation : Except ε α} {change : α → β} {error : ε}
    (hmap : computation.map change = .error error) : computation = .error error := by
  cases computation with
  | error failure =>
    cases hmap
    rfl
  | ok value => cases hmap

/-- A computation in two parts fails with an error if its first part does, or the second one after
the first. -/
theorem bind_eq_error_iff {first : Except ε α} {next : α → Except ε β} {error : ε} :
    first >>= next = .error error ↔
      first = .error error ∨ ∃ value, first = .ok value ∧ next value = .error error := by
  cases first <;> simp [bind, Except.bind]

/-- Changing the error of a computation changes the error with which it fails. -/
theorem mapError_eq_error_iff {computation : Except ε α} {change : ε → ε'} {result : ε'} :
    computation.mapError change = .error result ↔
      ∃ error, computation = .error error ∧ change error = result := by
  constructor
  · intro hfailed
    cases computation with
    | error error =>
      cases hfailed
      exact ⟨error, rfl, rfl⟩
    | ok value => cases hfailed
  · rintro ⟨error, rfl, rfl⟩
    rfl

/-! ### Errors -/

/-- The error of a computation, if it fails. -/
def failure? : Except ε α → Option ε
  | .ok _ => none
  | .error error => some error

/-- A computation succeeds if it has no error. -/
theorem failure?_eq_none_iff {computation : Except ε α} :
    failure? computation = none ↔ ∃ value, computation = .ok value := by
  cases computation <;> simp [failure?]

/-- A computation fails with the error that it has. -/
theorem failure?_eq_some_iff {computation : Except ε α} {error : ε} :
    failure? computation = some error ↔ computation = .error error := by
  cases computation <;> simp [failure?]

/-- Changing the value of a computation leaves its error. -/
theorem failure?_map (computation : Except ε α) (change : α → β) :
    failure? (computation.map change) = failure? computation := by
  cases computation <;> rfl

/-- What two computations give together has the error of the first one, or else that of the
second. -/
theorem failure?_both {γ : Type} (first : Except ε α) (second : Except ε β) (join : α → β → γ) :
    failure? (first >>= fun a => second >>= fun b => .ok (join a b)) =
      (failure? first).or (failure? second) := by
  cases first <;> cases second <;> rfl

end PageCheck
