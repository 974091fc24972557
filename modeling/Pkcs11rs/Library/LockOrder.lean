import Mathlib.Data.Fintype.Basic
import Mathlib.Data.List.Basic
import Mathlib.Logic.Relation

/-!
# Locks and lock orders

Threads take locks of a type `L`, shared or exclusively, and give them back.  A thread that wants a lock
waits until nobody has it in a conflicting mode; an attempt (`tryAcquire`) never waits and goes on in one
of two ways.  Whether a reader may pass a writer that waits is left open: it may go on, and it counts as
waiting.

`Deadlocked` says that a thread waits for itself, directly or through others.  If every thread takes its
locks along a transitive and irreflexive relation (`Disciplined`), no run reaches such a state
(`not_deadlocked`).
-/

set_option autoImplicit false

namespace Pkcs11rs.Library

/-- How a lock is held. -/
inductive LockMode where
  | shared
  | exclusive
  deriving DecidableEq

/-- Two holders exclude each other. -/
def LockMode.Conflicts (m m' : LockMode) : Prop := m = .exclusive ∨ m' = .exclusive

instance (m m' : LockMode) : Decidable (m.Conflicts m') :=
  inferInstanceAs (Decidable (_ ∨ _))

/-- What a thread does with locks. -/
inductive LockProgram (L : Type) where
  | done
  | acquire (lock : L) (mode : LockMode) (rest : LockProgram L)
  /-- An attempt, with what follows when it succeeds and when it fails. -/
  | tryAcquire (lock : L) (mode : LockMode) (taken missed : LockProgram L)
  | release (lock : L) (rest : LockProgram L)

/-- The locks that a thread has, the last one first, and what it will do. -/
structure LockThread (L : Type) where
  held : List (L × LockMode)
  remaining : LockProgram L

/-- A thread between two calls. -/
def LockThread.idle {L : Type} : LockThread L := ⟨[], .done⟩

section Steps

variable {L T : Type}
variable (s : T → LockThread L)

/-- Some thread has the lock in a conflicting mode. -/
def Blocked (lock : L) (mode : LockMode) : Prop :=
  ∃ t, ∃ entry ∈ (s t).held, entry.1 = lock ∧ mode.Conflicts entry.2

/-- The thread wants the lock and does not get it: a thread has it, or a writer is before it. -/
def Waiting (t : T) (lock : L) : Prop :=
  ∃ mode rest, (s t).remaining = .acquire lock mode rest ∧
    (Blocked s lock mode ∨
      ∃ u rest', (s u).remaining = .acquire lock .exclusive rest' ∧ Blocked s lock .exclusive)

/-- A thread waits for a lock that another one, or itself, has. -/
def WaitsFor (t t' : T) : Prop :=
  ∃ lock, Waiting s t lock ∧ ∃ entry ∈ (s t').held, entry.1 = lock

/-- A thread waits for itself, or a cycle of threads wait for each other. -/
def Deadlocked : Prop := ∃ t, Relation.TransGen (WaitsFor s) t t

variable [DecidableEq L]

/-- A lock is given back. -/
def without (held : List (L × LockMode)) (lock : L) : List (L × LockMode) :=
  held.eraseP fun entry => entry.1 = lock

/-- The lock that was taken last is the one that is given back. -/
@[simp]
theorem without_cons_self (held : List (L × LockMode)) (lock : L) (mode : LockMode) :
    without ((lock, mode) :: held) lock = held := by
  simp [without]

/-- One step of a thread; an idle thread starts one of the given calls. -/
inductive LockStep (calls : LockProgram L → Prop) (s : T → LockThread L) (t : T) :
    LockThread L → Prop
  | start {call : LockProgram L} (hidle : s t = .idle) (hcall : calls call) :
      LockStep calls s t ⟨[], call⟩
  | acquire {lock : L} {mode : LockMode} {rest : LockProgram L}
      (hnext : (s t).remaining = .acquire lock mode rest) (free : ¬ Blocked s lock mode) :
      LockStep calls s t ⟨(lock, mode) :: (s t).held, rest⟩
  | taken {lock : L} {mode : LockMode} {taken missed : LockProgram L}
      (hnext : (s t).remaining = .tryAcquire lock mode taken missed)
      (free : ¬ Blocked s lock mode) :
      LockStep calls s t ⟨(lock, mode) :: (s t).held, taken⟩
  | missed {lock : L} {mode : LockMode} {taken missed : LockProgram L}
      (hnext : (s t).remaining = .tryAcquire lock mode taken missed) :
      LockStep calls s t ⟨(s t).held, missed⟩
  | release {lock : L} {rest : LockProgram L} (hnext : (s t).remaining = .release lock rest) :
      LockStep calls s t ⟨without (s t).held lock, rest⟩

/-- The states that a run of the threads reaches, when no thread has a lock at the start. -/
inductive LockReachable [DecidableEq T] (calls : LockProgram L → Prop) : (T → LockThread L) → Prop
  | initial : LockReachable calls fun _ => .idle
  | step {s : T → LockThread L} {t : T} {next : LockThread L} (hs : LockReachable calls s)
      (hstep : LockStep calls s t next) : LockReachable calls (Function.update s t next)

/-- Locks are acquired after every lock that is held. -/
def Disciplined (R : L → L → Prop) : List (L × LockMode) → LockProgram L → Prop
  | _, .done => True
  | held, .acquire lock mode rest =>
    (∀ entry ∈ held, R entry.1 lock) ∧ Disciplined R ((lock, mode) :: held) rest
  | held, .tryAcquire lock mode taken missed =>
    Disciplined R ((lock, mode) :: held) taken ∧ Disciplined R held missed
  | held, .release lock rest => Disciplined R (without held lock) rest

end Steps

section Order

variable {L T : Type} [DecidableEq L] {R : L → L → Prop} {calls : LockProgram L → Prop}

/-- Giving back the lock that was taken last. -/
theorem disciplined_release_self {held : List (L × LockMode)} {lock : L} {mode : LockMode}
    {rest : LockProgram L} (hrest : Disciplined R held rest) :
    Disciplined R ((lock, mode) :: held) (.release lock rest) := by
  change Disciplined R (without ((lock, mode) :: held) lock) rest
  rw [without_cons_self]
  exact hrest

variable {s : T → LockThread L}

/-- One step of a disciplined thread. -/
theorem Disciplined.step (hcalls : ∀ call, calls call → Disciplined R [] call) {t : T}
    {next : LockThread L} (h : Disciplined R (s t).held (s t).remaining)
    (hstep : LockStep calls s t next) : Disciplined R next.held next.remaining := by
  cases hstep with
  | start hidle hcall => exact hcalls _ hcall
  | acquire hnext free =>
    rw [hnext] at h
    exact h.2
  | taken hnext free =>
    rw [hnext] at h
    exact h.1
  | missed hnext =>
    rw [hnext] at h
    exact h.2
  | release hnext =>
    rw [hnext] at h
    exact h

/-- In every reachable state every thread is disciplined. -/
theorem LockReachable.disciplined [DecidableEq T]
    (hcalls : ∀ call, calls call → Disciplined R [] call) (hs : LockReachable calls s) (t : T) :
    Disciplined R (s t).held (s t).remaining := by
  induction hs generalizing t with
  | initial => trivial
  | @step s t' next hs hstep ih =>
    by_cases heq : t = t'
    · subst heq
      rw [Function.update_self]
      exact (ih t).step hcalls hstep
    · rw [Function.update_of_ne heq]
      exact ih t

variable {lock' : L}

/-- A thread that is waited for waits for a later lock, if it waits at all. -/
theorem lock_of_waitsFor (hdisciplined : ∀ t, Disciplined R (s t).held (s t).remaining) {t t' : T}
    (hwaits : WaitsFor s t t') (hnext : Waiting s t' lock') :
    ∃ lock, Waiting s t lock ∧ R lock lock' := by
  obtain ⟨lock, hwaiting, entry, hmem, rfl⟩ := hwaits
  obtain ⟨mode, rest, hremaining, -⟩ := hnext
  have hdisc := hdisciplined t'
  rw [hremaining] at hdisc
  exact ⟨entry.1, hwaiting, hdisc.1 entry hmem⟩

/-- Along a chain of waiting threads the locks go up. -/
theorem lock_of_waits (htrans : ∀ a b c, R a b → R b c → R a c)
    (hdisciplined : ∀ t, Disciplined R (s t).held (s t).remaining) {t t' : T}
    (hwaits : Relation.TransGen (WaitsFor s) t t') (hnext : Waiting s t' lock') :
    ∃ lock, Waiting s t lock ∧ R lock lock' := by
  induction hwaits generalizing lock' with
  | single hone => exact lock_of_waitsFor hdisciplined hone hnext
  | tail hchain hone ih =>
    obtain ⟨lock₁, hnext₁, hR₁⟩ := lock_of_waitsFor hdisciplined hone hnext
    obtain ⟨lock, hfirst, hR⟩ := ih hnext₁
    exact ⟨lock, hfirst, htrans _ _ _ hR hR₁⟩

omit [DecidableEq L] in
/-- A thread waits for one lock at a time. -/
theorem Waiting.unique {t : T} {lock : L} (h : Waiting s t lock) (h' : Waiting s t lock') :
    lock = lock' := by
  obtain ⟨mode, rest, hnext, -⟩ := h
  obtain ⟨mode', rest', hnext', -⟩ := h'
  rw [hnext] at hnext'
  injection hnext'

/-- **No deadlock under a lock order.** -/
theorem not_deadlocked [DecidableEq T] (htrans : ∀ a b c, R a b → R b c → R a c)
    (hirrefl : ∀ a, ¬ R a a) (hcalls : ∀ call, calls call → Disciplined R [] call)
    (hs : LockReachable calls s) : ¬ Deadlocked s := by
  rintro ⟨t, hcycle⟩
  obtain ⟨u, ⟨lock, hwaiting, -⟩, -⟩ := Relation.TransGen.head'_iff.mp hcycle
  obtain ⟨lock', hwaiting', hR⟩ := lock_of_waits htrans (hs.disciplined hcalls) hcycle hwaiting
  have heq : lock' = lock := hwaiting'.unique hwaiting
  rw [heq] at hR
  exact hirrefl lock hR

end Order

section Schedules

variable {L T : Type} [DecidableEq L] [DecidableEq T]

instance [Fintype T] (s : T → LockThread L) (lock : L) (mode : LockMode) :
    Decidable (Blocked s lock mode) :=
  inferInstanceAs (Decidable (∃ t, ∃ entry ∈ (s t).held, entry.1 = lock ∧ mode.Conflicts entry.2))

/-- The next step of a thread that is not idle; it is `none` when the thread waits. -/
def lockAdvance [Fintype T] (s : T → LockThread L) (t : T) : Option (LockThread L) :=
  match (s t).remaining with
  | .done => none
  | .acquire lock mode rest =>
    if Blocked s lock mode then none else some ⟨(lock, mode) :: (s t).held, rest⟩
  | .tryAcquire lock mode taken missed =>
    if Blocked s lock mode then some ⟨(s t).held, missed⟩
    else some ⟨(lock, mode) :: (s t).held, taken⟩
  | .release lock rest => some ⟨without (s t).held lock, rest⟩

/-- The threads of a schedule take their steps. -/
def lockSchedule [Fintype T] (s : T → LockThread L) : List T → Option (T → LockThread L)
  | [] => some s
  | t :: schedule => (lockAdvance s t).bind fun next => lockSchedule (Function.update s t next) schedule

variable {calls : LockProgram L → Prop}

omit [DecidableEq T] in
/-- What the schedule does is a step. -/
theorem lockStep_of_lockAdvance [Fintype T] {s : T → LockThread L} {t : T} {next : LockThread L}
    (h : lockAdvance s t = some next) : LockStep calls s t next := by
  unfold lockAdvance at h
  split at h
  case h_1 => cases h
  case h_2 lock mode rest hnext =>
    split at h
    · cases h
    · cases h
      exact .acquire hnext ‹_›
  case h_3 lock mode taken missed hnext =>
    split at h
    · cases h
      exact .missed hnext
    · cases h
      exact .taken hnext ‹_›
  case h_4 lock rest hnext =>
    cases h
    exact .release hnext

/-- A schedule stays among the reachable states. -/
theorem LockReachable.schedule [Fintype T] {s s' : T → LockThread L} (hs : LockReachable calls s)
    {schedule : List T} (h : lockSchedule s schedule = some s') : LockReachable calls s' := by
  induction schedule generalizing s with
  | nil =>
    cases h
    exact hs
  | cons t schedule ih =>
    obtain ⟨next, hnext, hrest⟩ := Option.bind_eq_some_iff.mp h
    exact ih (hs.step (lockStep_of_lockAdvance hnext)) hrest

end Schedules

end Pkcs11rs.Library
