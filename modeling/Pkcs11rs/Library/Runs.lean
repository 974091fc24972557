import Mathlib.Data.List.Basic

/-!
# Runs of a partial step function

A system is a step function `step : σ → ε → Option σ`; an event that is not enabled has no
successor.  `run` makes a list of events.  `Along step P s events` says that every event of
the run meets the condition `P` in the state where it happens.

`run_induction` is the invariant rule: what one step keeps under the condition, a whole run
along which the condition holds keeps.
-/

set_option autoImplicit false

namespace Pkcs11rs.Library

variable {σ ε : Type}

/-- Make the events one after the other. -/
def run (step : σ → ε → Option σ) : σ → List ε → Option σ
  | s, [] => some s
  | s, e :: events => (step s e).bind fun s' => run step s' events

/-- Every event meets the condition in the state where it happens. -/
def Along (step : σ → ε → Option σ) (P : σ → ε → Prop) : σ → List ε → Prop
  | _, [] => True
  | s, e :: events => P s e ∧ ∀ s', step s e = some s' → Along step P s' events

variable {step : σ → ε → Option σ} {P : σ → ε → Prop}

/-- **The invariant rule.** -/
theorem run_induction (I : σ → Prop) (hstep : ∀ s e s', I s → P s e → step s e = some s' → I s') :
    ∀ (events : List ε) (s s' : σ), I s → Along step P s events → run step s events = some s' →
      I s' := by
  intro events
  induction events with
  | nil =>
    intro s s' hs _ hrun
    cases hrun
    exact hs
  | cons e events ih =>
    intro s s' hs halong hrun
    obtain ⟨s₁, hs₁, hrest⟩ := Option.bind_eq_some_iff.mp hrun
    exact ih s₁ s' (hstep s e s₁ hs halong.1 hs₁) (halong.2 s₁ hs₁) hrest

/-- A run of two parts. -/
theorem run_append (step : σ → ε → Option σ) (s : σ) (xs ys : List ε) :
    run step s (xs ++ ys) = (run step s xs).bind fun s' => run step s' ys := by
  induction xs generalizing s with
  | nil => rfl
  | cons e xs ih =>
    simp only [List.cons_append, run, Option.bind_assoc]
    congr 1
    funext s'
    exact ih s'

/-- A system where every event is enabled makes every run. -/
theorem exists_run (hstep : ∀ s e, ∃ s', step s e = some s') (s : σ) (events : List ε) :
    ∃ s', run step s events = some s' := by
  induction events generalizing s with
  | nil => exact ⟨s, rfl⟩
  | cons e events ih =>
    obtain ⟨s₁, hs₁⟩ := hstep s e
    obtain ⟨s', hs'⟩ := ih s₁
    exact ⟨s', by rw [run, hs₁]; exact hs'⟩

/-- A condition along a run of two parts. -/
theorem along_append {s : σ} {xs ys : List ε} : Along step P s (xs ++ ys) ↔
      Along step P s xs ∧ ∀ s', run step s xs = some s' → Along step P s' ys := by
  induction xs generalizing s with
  | nil => simp [Along, run]
  | cons e xs ih =>
    simp only [List.cons_append, Along, run, ih]
    constructor
    · rintro ⟨he, hrest⟩
      refine ⟨⟨he, fun s' hs' => (hrest s' hs').1⟩, fun s' hs' => ?_⟩
      obtain ⟨s₁, hs₁, hrun⟩ := Option.bind_eq_some_iff.mp hs'
      exact (hrest s₁ hs₁).2 s' hrun
    · rintro ⟨⟨he, hxs⟩, hys⟩
      refine ⟨he, fun s₁ hs₁ => ⟨hxs s₁ hs₁, fun s' hs' => hys s' ?_⟩⟩
      rw [hs₁]
      exact hs'

variable {events : List ε}

/-- A condition that every event meets in every state holds along every run. -/
theorem along_of_forall {s : σ} (h : ∀ s, ∀ e ∈ events, P s e) : Along step P s events := by
  induction events generalizing s with
  | nil => trivial
  | cons e events ih =>
    refine ⟨h s e List.mem_cons_self, fun s' _ => ih ?_⟩
    exact fun s' e' he' => h s' e' (List.mem_cons_of_mem _ he')

/-- A weaker condition along the same run. -/
theorem along_mono {Q : σ → ε → Prop} (h : ∀ s e, P s e → Q s e) {s : σ}
    (halong : Along step P s events) : Along step Q s events := by
  induction events generalizing s with
  | nil => trivial
  | cons e events ih => exact ⟨h s e halong.1, fun s' hs' => ih (halong.2 s' hs')⟩

/-- A check of every event in the state where it happens. -/
def alongAll (step : σ → ε → Option σ) (check : σ → ε → Bool) : σ → List ε → Bool
  | _, [] => true
  | s, e :: events => check s e && (step s e).all fun s' => alongAll step check s' events

/-- A run along which a check succeeds that implies the condition in the states with `I`. -/
theorem along_of_alongAll {check : σ → ε → Bool} (I : σ → Prop)
    (hstep : ∀ s e s', I s → check s e = true → step s e = some s' → I s')
    (hcheck : ∀ s e, I s → check s e = true → P s e) {s : σ} (hs : I s)
    (h : alongAll step check s events = true) : Along step P s events := by
  induction events generalizing s with
  | nil => trivial
  | cons e events ih =>
    obtain ⟨he, hrest⟩ := (Bool.and_eq_true _ _).mp h
    refine ⟨hcheck s e hs he, fun s' hs' => ih (hstep s e s' hs he hs') ?_⟩
    simpa [hs'] using hrest

/-- A run along which a decidable condition is seen to hold. -/
theorem along_of_decide [∀ s e, Decidable (P s e)] {s : σ}
    (h : alongAll step (fun s e => decide (P s e)) s events = true) : Along step P s events :=
  along_of_alongAll (fun _ => True) (fun _ _ _ _ _ _ => trivial)
    (fun _ _ _ he => of_decide_eq_true he) trivial h

/-- A run that is seen to end in a state with a decidable property. -/
theorem exists_of_any {x : Option σ} {p : σ → Bool} (h : x.any p = true) :
    ∃ s, x = some s ∧ p s = true := by
  cases x with
  | none => cases h
  | some s => exact ⟨s, rfl, h⟩

end Pkcs11rs.Library
