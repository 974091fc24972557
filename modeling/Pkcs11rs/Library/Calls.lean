import Mathlib.Logic.Basic

/-!
# Calls that leave a state behind

A call on a mutable object returns a value or an error, and leaves a state behind in both cases.
`Outcome` is the result of such a call, `Outcome.andThen` goes on after a successful call and passes an
error through.

`Outcome.Ends` says what holds after a call.  Its rules are those of sequential composition and of
consequence; a call is treated by giving what its parts end in.
-/

set_option autoImplicit false

namespace Pkcs11rs.Library

/-- What a call returns and the state that it leaves behind. -/
abbrev Outcome (ε σ α : Type) := Except ε α × σ

namespace Outcome

variable {ε σ α β : Type}

/-- Go on after a successful call. -/
def andThen (x : Outcome ε σ α) (f : α → σ → Outcome ε σ β) : Outcome ε σ β :=
  match x with
  | (.ok a, s) => f a s
  | (.error e, s) => (.error e, s)

/-- The call returns in a state as given, or fails in a state as given. -/
def Ends (x : Outcome ε σ α) (returns : α → σ → Prop) (fails : σ → Prop) : Prop :=
  match x with
  | (.ok a, s) => returns a s
  | (.error _, s) => fails s

variable {returns returns' : α → σ → Prop} {fails fails' : σ → Prop} {x : Outcome ε σ α}

/-- A call that returns. -/
@[simp] theorem ends_ok {a : α} {s : σ} :
    Ends ((.ok a, s) : Outcome ε σ α) returns fails ↔ returns a s := Iff.rfl

/-- A call that fails. -/
@[simp] theorem ends_error {e : ε} {s : σ} :
    Ends ((.error e, s) : Outcome ε σ α) returns fails ↔ fails s := Iff.rfl

/-- Sequential composition: what the first call ends in is what the second one starts from. -/
theorem Ends.andThen {after : β → σ → Prop} {f : α → σ → Outcome ε σ β} (hx : x.Ends returns fails)
    (hf : ∀ a s, returns a s → (f a s).Ends after fails) : (x.andThen f).Ends after fails := by
  obtain ⟨result, s⟩ := x
  cases result with
  | ok a => exact hf a s hx
  | error e => exact hx

/-- Consequence. -/
theorem Ends.imp (hx : x.Ends returns fails) (hreturns : ∀ a s, returns a s → returns' a s)
    (hfails : ∀ s, fails s → fails' s) : x.Ends returns' fails' := by
  obtain ⟨result, s⟩ := x
  cases result with
  | ok a => exact hreturns a s hx
  | error e => exact hfails s hx

/-- The state after the call, whatever it returns. -/
theorem Ends.state {P : σ → Prop} (hx : x.Ends (fun _ => P) P) : P x.2 := by
  obtain ⟨result, s⟩ := x
  cases result with
  | ok | error => exact hx

/-- The state after a call that returns. -/
theorem Ends.of_ok {a : α} (hx : x.Ends returns fails) (ha : x.1 = .ok a) : returns a x.2 := by
  obtain ⟨result, s⟩ := x
  cases ha
  exact hx

/-- A call whose parts all end the same way. -/
theorem ends_ite {c : Prop} [Decidable c] {y : Outcome ε σ α} (hx : c → x.Ends returns fails)
    (hy : ¬ c → y.Ends returns fails) : (if c then x else y).Ends returns fails := by
  split
  · exact hx ‹_›
  · exact hy ‹_›

end Outcome

end Pkcs11rs.Library
