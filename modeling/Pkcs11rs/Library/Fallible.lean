import Mathlib.Logic.Basic

/-!
# Fallible computations

Inversion rules for computations in `Except`: how a sequence of checks succeeds, and what
forgetting the error leaves.
-/

set_option autoImplicit false

namespace Pkcs11rs.Library

variable {ε ε' α β : Type}
variable {x : Except ε α}

variable {b : β}

/-- A sequence succeeds exactly if both parts do. -/
theorem bind_eq_ok {f : α → Except ε β} : (x >>= f) = .ok b ↔ ∃ a, x = .ok a ∧ f a = .ok b := by
  cases x with
  | error | ok => simp [Bind.bind, Except.bind]

variable {e : ε} {a : α}

/-- A check succeeds exactly if its condition is false and the rest succeeds. -/
theorem guard_eq_ok {p : Prop} [Decidable p] :
    (if p then .error e else x) = .ok a ↔ ¬ p ∧ x = .ok a := by
  by_cases h : p <;> simp [h]

/-- A requirement succeeds exactly if its condition is true. -/
theorem require_eq_ok {p : Prop} [Decidable p] :
    (if p then x else .error e) = .ok a ↔ p ∧ x = .ok a := by
  by_cases h : p <;> simp [h]

variable {f : α → β}

/-- A converted result. -/
theorem map_eq_ok : x.map f = .ok b ↔ ∃ a, x = .ok a ∧ f a = b := by
  cases x <;> simp [Except.map]

/-- A sequence fails with the error of the part that fails. -/
theorem bind_eq_error {f : α → Except ε β} :
    x.bind f = .error e ↔ x = .error e ∨ ∃ a, x = .ok a ∧ f a = .error e := by
  cases x <;> simp [Except.bind]

/-- A failure is not changed. -/
theorem map_eq_error : x.map f = .error e ↔ x = .error e := by
  cases x <;> simp [Except.map]

/-- Renaming the error does not change success. -/
@[simp]
theorem mapError_ok (f : ε → ε') (a : α) : (Except.ok a : Except ε α).mapError f = .ok a := rfl

/-- The error is renamed. -/
@[simp]
theorem mapError_error (f : ε → ε') (e : ε) :
    (Except.error e : Except ε α).mapError f = .error (f e) := rfl

/-- Successes stay. -/
theorem mapError_eq_ok_iff {f : ε → ε'} : x.mapError f = .ok a ↔ x = .ok a := by
  cases x <;> simp

/-- The error does not count. -/
theorem toOption_mapError (f : ε → ε') (x : Except ε α) : (x.mapError f).toOption = x.toOption := by
  cases x <;> rfl

/-- One thing after the other. -/
theorem toOption_bind (x : Except ε α) (f : α → Except ε β) :
    (x >>= f).toOption = x.toOption.bind fun a => (f a).toOption := by
  cases x <;> rfl

/-- The value is mapped. -/
theorem toOption_map (x : Except ε α) (f : α → β) : (x.map f).toOption = x.toOption.map f := by
  cases x <;> rfl

end Pkcs11rs.Library
