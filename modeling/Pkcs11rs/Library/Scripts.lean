import Mathlib.Data.List.Basic
import Mathlib.Tactic.SplitIfs

/-!
# Scripts of requests

A `Script` makes requests of its environment one after the other, and each reply says only whether the
request has succeeded.  A handler gives a request its effect on a state; what the environment decides is in
an answer, so a run takes a list of answers, and a quiet one when the list has ended.

`Triple` is the statement with a condition before and after a script, over all answers that are permitted.
`triple_done`, `triple_request` and `triple_bind` are its rules, `triple_and` is the one for a script that
goes on only after a success, and `triple_of_request` is the one for a property that every request keeps.
-/

set_option autoImplicit false

namespace Pkcs11rs.Library

/-- A program that makes requests. -/
inductive Script (R α : Type) where
  | done (result : α)
  | request (first : R) (next : Bool → Script R α)

namespace Script

variable {R α β S A : Type}

/-- One script and then another. -/
def bind : Script R α → (α → Script R β) → Script R β
  | done result, rest => rest result
  | request first next, rest => request first fun ok => (next ok).bind rest

instance : Monad (Script R) where
  pure := done
  bind := bind

/-- Every request of a script has a property, whatever the replies are. -/
def All (p : R → Prop) : Script R α → Prop
  | done _ => True
  | request first next => p first ∧ ∀ ok, (next ok).All p

variable {p : R → Prop}

/-- A script that is done. -/
theorem all_done (result : α) : (done result : Script R α).All p := trivial

/-- A script that returns. -/
theorem all_pure (result : α) : (pure result : Script R α).All p := trivial

variable {script : Script R α} {rest : α → Script R β}

/-- One script after the other. -/
theorem all_bind (hscript : script.All p) (hrest : ∀ result, (rest result).All p) :
    (script >>= rest).All p := by
  induction script with
  | done result => exact hrest result
  | request first next ih => exact ⟨hscript.1, fun ok => ih ok (hscript.2 ok)⟩

/-- Either of two scripts. -/
theorem all_ite {c : Prop} [Decidable c] {yes no : Script R α} (hyes : yes.All p) (hno : no.All p) :
    (if c then yes else no).All p := by
  split_ifs
  · exact hyes
  · exact hno

/-- A script that goes on only after a success. -/
theorem all_and {first rest : Script R Bool} (hfirst : first.All p) (hrest : rest.All p) :
    (first >>= fun ok => if ok = true then rest else pure false).All p :=
  all_bind hfirst fun _ => all_ite hrest (all_pure false)

variable {s : S} {result : β}

section Run

variable (handle : S → R → A → Bool × S) (quiet : A)

/-- Make the requests; the answers that are left are returned with the state. -/
def run : Script R α → List A → S → α × List A × S
  | done result, answers, s => (result, answers, s)
  | request first next, answers, s =>
    let reply := handle s first (answers.headD quiet)
    (next reply.1).run answers.tail reply.2

/-- The answers are taken in order. -/
theorem run_bind (script : Script R α) (rest : α → Script R β) (answers : List A) (s : S) :
    (script >>= rest).run handle quiet answers s =
      (rest (script.run handle quiet answers s).1).run handle quiet
        (script.run handle quiet answers s).2.1 (script.run handle quiet answers s).2.2 := by
  induction script generalizing answers s with
  | done result => rfl
  | request first next ih => exact ih _ _ _

/-- The answers that are left are among those that were there. -/
theorem mem_of_mem_run {answers : List A} {a : A} (h : a ∈ (script.run handle quiet answers s).2.1) :
    a ∈ answers := by
  induction script generalizing answers s with
  | done result => exact h
  | request first next ih => exact List.mem_of_mem_tail (ih _ h)

variable (permits : A → Prop)

/-- From every state with `P`, under permitted answers, the script ends in a state with `Q`. -/
def Triple (P : S → Prop) (script : Script R α) (Q : α → S → Prop) : Prop :=
  ∀ (answers : List A) (s : S), (∀ a ∈ answers, permits a) → P s →
    Q (script.run handle quiet answers s).1 (script.run handle quiet answers s).2.2

variable {handle quiet permits} {P P' : S → Prop} {Q : β → S → Prop}

/-- The rule for a script that is done. -/
theorem triple_done (h : ∀ s, P s → Q result s) : Triple handle quiet permits P (done result) Q :=
  fun _ s _ hs => h s hs

/-- The rule for a result. -/
theorem triple_pure (h : ∀ s, P s → Q result s) : Triple handle quiet permits P (pure result) Q :=
  triple_done h

/-- A first request, from what its handler does. -/
theorem triple_request (hquiet : permits quiet) {M : Bool → S → Prop} {first : R}
    {next : Bool → Script R β}
    (hfirst : ∀ s a, permits a → P s → M (handle s first a).1 (handle s first a).2)
    (hnext : ∀ ok, Triple handle quiet permits (M ok) (next ok) Q) :
    Triple handle quiet permits P (request first next) Q := by
  intro answers s hanswers hs
  have hhead : permits (answers.headD quiet) := by
    cases answers with
    | nil => exact hquiet
    | cons a answers => exact hanswers a List.mem_cons_self
  exact hnext _ _ _ (fun a ha => hanswers a (List.mem_of_mem_tail ha)) (hfirst s _ hhead hs)

/-- Two scripts, with a condition between them. -/
theorem triple_bind {M : α → S → Prop} (hscript : Triple handle quiet permits P script M)
    (hrest : ∀ result, Triple handle quiet permits (M result) (rest result) Q) :
    Triple handle quiet permits P (script >>= rest) Q := by
  intro answers s hanswers hs
  rw [run_bind]
  exact hrest _ _ _ (fun a ha => hanswers a (mem_of_mem_run handle quiet ha))
    (hscript answers s hanswers hs)

/-- The rule for a choice. -/
theorem triple_ite {c : Prop} [Decidable c] {yes no : Script R β}
    (hyes : c → Triple handle quiet permits P yes Q)
    (hno : ¬ c → Triple handle quiet permits P no Q) :
    Triple handle quiet permits P (if c then yes else no) Q := by
  split_ifs with hc
  · exact hyes hc
  · exact hno hc

/-- The rule of consequence. -/
theorem triple_consequence {Q' : β → S → Prop} {script : Script R β}
    (h : Triple handle quiet permits P script Q) (hpre : ∀ s, P' s → P s)
    (hpost : ∀ result s, Q result s → Q' result s) : Triple handle quiet permits P' script Q' :=
  fun answers s hanswers hs => hpost _ _ (h answers s hanswers (hpre s hs))

variable {script : Script R β}

/-- What every request of a script keeps, the script keeps. -/
theorem triple_of_request (hquiet : permits quiet) (hall : script.All p)
    (hkeep : ∀ s first a, p first → permits a → P s → P (handle s first a).2)
    : Triple handle quiet permits P script fun _ => P := by
  induction script with
  | done result => exact triple_done fun s hs => hs
  | request first next ih =>
    refine triple_request (M := fun _ => P) hquiet ?_ fun ok => ih ok (hall.2 ok)
    exact fun s a ha hs => hkeep s first a hall.1 ha hs

/-- Every request is a request. -/
theorem all_true (script : Script R β) : script.All fun _ => True := by
  induction script with
  | done result => trivial
  | request first next ih => exact ⟨trivial, ih⟩

/-- What every request keeps, every script keeps. -/
theorem triple_of_every_request (hquiet : permits quiet)
    (hkeep : ∀ s first a, permits a → P s → P (handle s first a).2) :
    Triple handle quiet permits P script fun _ => P :=
  triple_of_request hquiet (all_true script) fun s first a _ => hkeep s first a

/-- One condition after a success, another after a failure. -/
def Outcome (Good Bad : S → Prop) (ok : Bool) (s : S) : Prop := if ok = true then Good s else Bad s

/-- A script that succeeds. -/
theorem outcome_true {Good Bad : S → Prop} : Outcome Good Bad true s ↔ Good s := Iff.rfl

/-- A script that fails. -/
theorem outcome_false {Good Bad : S → Prop} : Outcome Good Bad false s ↔ Bad s := by
  simp [Outcome]

variable {Good Bad M : S → Prop} {first rest : Script R Bool}

/-- What holds after every outcome. -/
theorem triple_outcome (h : Triple handle quiet permits P first fun _ => Good)
    (hbad : ∀ s, Good s → Bad s) : Triple handle quiet permits P first (Outcome Good Bad) := by
  refine triple_consequence h (fun s hs => hs) ?_
  intro ok s hs
  cases ok with
  | true => exact outcome_true.mpr hs
  | false => exact outcome_false.mpr (hbad s hs)

/-- **Going on after a success.** -/
theorem triple_and (hfirst : Triple handle quiet permits P first (Outcome M Bad))
    (hrest : Triple handle quiet permits M rest (Outcome Good Bad)) : Triple handle quiet permits P
      (first >>= fun ok => if ok = true then rest else pure false) (Outcome Good Bad) := by
  refine triple_bind hfirst ?_
  intro ok
  cases ok with
  | true => exact triple_consequence hrest (fun s hs => outcome_true.mp hs) fun _ _ hs => hs
  | false => exact triple_pure fun s hs => outcome_false.mpr (outcome_false.mp hs)

end Run

end Script

end Pkcs11rs.Library
