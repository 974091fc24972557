import Pkcs11rs.Library.Runs
import Pkcs11rs.Model.FairQueue
import Mathlib.Data.List.Pairwise

/-!
# Turns on an I2C bus

Of a worker, the others see its bus, its queue and the token of its turn (`BusQueues.view`).  The tokens of a
queue are those of the turns on it that are not dropped, in the order in which they were enqueued
(`Placed`); a queue stays in `QUEUES` as long as a worker has it, so the workers on one bus share one.  The
worker with the turn is the first of its queue, and a worker that sleeps is not (`Ranked`), since a turn that
is dropped wakes all.

So at most one worker has the turn on a bus, turns are granted in the order of the queue, a turn that is
dropped leaves no token, and the first of a queue is always able to go on (`bus_turns_are_fair`).
-/

set_option autoImplicit false

namespace Pkcs11rs.Analysis

open Pkcs11rs.Library Pkcs11rs.Model TurnPhase BusQueues Function

variable {b : BusIdentity} {q t : ℕ} {phase : TurnPhase} {s' : BusQueues} {s : BusQueues}
  {w token : ℕ} {a : BusWorker}

/-! ### What the workers see of each other -/

/-- The bus, the queue and the token of a worker. -/
def turnView (a : BusWorker) : BusIdentity × ℕ × Option ℕ := (a.bus, a.queue, a.phase.token)

/-- The bus, the queue and the token of every worker. -/
def view (s : BusQueues) (w : ℕ) : Option (BusIdentity × ℕ × Option ℕ) :=
  (mapGet s.workers w).map turnView

/-- The view of a worker. -/
theorem view_of_get (h : mapGet s.workers w = some a) : view s w = some (turnView a) := by
  rw [view, h]
  rfl

/-- A view is that of a worker. -/
theorem get_of_view {v : BusIdentity × ℕ × Option ℕ} (h : view s w = some v) :
    ∃ a, mapGet s.workers w = some a ∧ turnView a = v :=
  Option.map_eq_some_iff.mp h

/-- The worker whose turn has a token. -/
theorem turn_of_view (h : view s w = some (b, q, some t)) :
    ∃ a, mapGet s.workers w = some a ∧ a.queue = q ∧ a.phase.token = some t := by
  obtain ⟨a, hget, ha⟩ := get_of_view h
  exact ⟨a, hget, congrArg (fun v => v.2.1) ha, congrArg (fun v => v.2.2) ha⟩

/-- One worker is written. -/
theorem view_insert {t : BusQueues} (h : t.workers = mapInsert s.workers w a) (w' : ℕ) :
    view t w' = if w' = w then some (turnView a) else view s w' := by
  rw [view, h, mapGet_mapInsert]
  split_ifs
  · rfl
  · rfl

/-- A phase with the same token. -/
theorem view_setPhase (hget : mapGet s.workers w = some a) (hphase : phase.token = a.phase.token) :
    view (s.setPhase w a phase) = view s := by
  funext w'
  rw [view_insert (s := s) (w := w) (a := { a with phase := phase }) rfl]
  split_ifs with hw
  · rw [hw, view_of_get hget, turnView, turnView, hphase]
  · rfl

/-- A notification keeps the token. -/
theorem token_notified (phase : TurnPhase) : phase.notified.token = phase.token := by
  cases phase <;> rfl

/-- It gives the bus to nobody. -/
theorem notified_eq_held : phase.notified = .held t ↔ phase = .held t := by
  cases phase <;> simp [notified]

/-- It wakes. -/
theorem notified_ne_asleep (phase : TurnPhase) (t : ℕ) : phase.notified ≠ .asleep t := by
  cases phase <;> simp [notified]

/-- A worker after `notify_all`. -/
def notifiedOn (queue : ℕ) (a : BusWorker) : BusWorker :=
  if a.queue = queue then { a with phase := a.phase.notified } else a

/-- The workers after a notification. -/
theorem get_notifyAll (workers : List (ℕ × BusWorker)) (queue w : ℕ) :
    mapGet (notifyAll workers queue) w = (mapGet workers w).map (notifiedOn queue) :=
  mapGet_map workers (notifiedOn queue) w

/-- A notification does not show in the view. -/
theorem turnView_notifiedOn (queue : ℕ) (a : BusWorker) : turnView (notifiedOn queue a) = turnView a := by
  unfold notifiedOn
  split_ifs
  · rw [turnView, turnView, token_notified]
  · rfl

/-- A turn that is dropped is gone from the view; a notification is not seen there. -/
theorem view_drop (s : BusQueues) (w : ℕ) (a : BusWorker) (token w' : ℕ) :
    view (s.drop w a token) w' = if w' = w then some (a.bus, a.queue, none) else view s w' := by
  rw [view, drop, mapGet_mapInsert, get_notifyAll]
  split_ifs
  · rfl
  · rw [view, Option.map_map]
    congr 1
    funext b
    exact turnView_notifiedOn a.queue b

/-- A worker leaves. -/
theorem view_leave (s : BusQueues) (w w' : ℕ) :
    view { s with workers := mapRemove s.workers w } w' = if w' = w then none else view s w' := by
  rw [view, mapGet_mapRemove]
  split_ifs
  · rfl
  · rfl

/-! ### The tokens of a queue -/

/-- The tokens of the queues are those of the turns, and the workers on one bus share its queue. -/
@[grind cases]
structure Placed (s : BusQueues) : Prop where
  entries : ∀ q t, t ∈ s.turns q ↔ ∃ w b, view s w = some (b, q, some t)
  owner : ∀ {w w' b b' q q' t}, view s w = some (b, q, some t) → view s w' = some (b', q', some t) →
    w = w'
  sorted : ∀ q, (s.turns q).Pairwise (· < ·)
  bounded : ∀ {w b q t}, view s w = some (b, q, some t) → t < s.nextToken
  shared : ∀ {w b q o}, view s w = some (b, q, o) → mapGet s.queues b = some q
  distinct : ∀ {b b' q}, mapGet s.queues b = some q → mapGet s.queues b' = some q → b = b'
  numbered : ∀ {b q}, mapGet s.queues b = some q → q < s.nextQueue
  nodup : (keys s.queues).Nodup

/-- Nothing that the workers see changes. -/
theorem Placed.of_view (h : Placed s) (hview : view s' = view s) (hturns : s'.turns = s.turns)
    (hqueues : s'.queues = s.queues) (htoken : s'.nextToken = s.nextToken)
    (hqueue : s'.nextQueue = s.nextQueue) : Placed s' := by
  refine ⟨?_, ?_, ?_, ?_, ?_, ?_, ?_, ?_⟩
  · rw [hturns, hview]
    exact h.entries
  · rw [hview]
    exact h.owner
  · rw [hturns]
    exact h.sorted
  · rw [hview, htoken]
    exact h.bounded
  · rw [hview, hqueues]
    exact h.shared
  · rw [hqueues]
    exact h.distinct
  · rw [hqueues, hqueue]
    exact h.numbered
  · rw [hqueues]
    exact h.nodup

/-- A token is in its queue. -/
theorem Placed.mem (h : Placed s) (hget : mapGet s.workers w = some a)
    (htoken : a.phase.token = some t) : t ∈ s.turns a.queue := by
  refine (h.entries a.queue t).mpr ⟨w, a.bus, ?_⟩
  rw [view_of_get hget, turnView, htoken]

/-- A queue that a worker has is not removed from `QUEUES`. -/
theorem Placed.get_kept (h : Placed s) {o : Option ℕ} (hview : view s w = some (b, q, o)) :
    mapGet (s.queues.filter fun entry => s.alive entry.2) b = some q := by
  obtain ⟨a, hget, ha⟩ := get_of_view hview
  have hqueue := h.shared hview
  cases ha
  refine (mapGet_eq_some_iff (nodup_keys_filter h.nodup _)).mpr ?_
  refine List.mem_filter.mpr ⟨mapGet_mem hqueue, ?_⟩
  exact List.any_eq_true.mpr ⟨(w, a), mapGet_mem hget, by simp⟩

/-- What is left of `QUEUES` was there. -/
theorem Placed.get_of_kept (h : Placed s)
    (hkept : mapGet (s.queues.filter fun entry => s.alive entry.2) b = some q) :
    mapGet s.queues b = some q :=
  (mapGet_eq_some_iff h.nodup).mpr (List.mem_filter.mp (mapGet_mem hkept)).1

/-- A worker arrives. -/
theorem Placed.busQueue (h : Placed s) (hnew : mapGet s.workers w = none) (bus : BusIdentity)
    (deadline : ℕ) : Placed (s.busQueue w bus deadline) := by
  have hnone : view s w = none := by rw [view, hnew]; rfl
  have hstill := fun {w b q o} => h.get_kept (w := w) (b := b) (q := q) (o := o)
  have hwas := fun {b q} => h.get_of_kept (b := b) (q := q)
  have hnodup := nodup_keys_filter h.nodup (fun entry => s.alive entry.2)
  unfold BusQueues.busQueue
  dsimp only
  generalize s.queues.filter (fun entry => s.alive entry.2) = kept at *
  rcases hkept : mapGet kept bus with _ | queue
  · -- a new queue, whose number no worker has
    have hview := view_insert (s := s) (t := { s with
        queues := mapInsert kept bus s.nextQueue
        turns := update s.turns s.nextQueue []
        workers := mapInsert s.workers w ⟨bus, s.nextQueue, deadline, .admitted⟩
        nextQueue := s.nextQueue + 1 }) rfl
    have hqueues := mapGet_mapInsert kept bus s.nextQueue
    simp only [turnView, token] at hview
    refine ⟨?_, ?_, ?_, ?_, ?_, ?_, ?_, nodup_keys_mapInsert hnodup _ _⟩ <;> grind
  · have hview := view_insert (s := s) (t := { s with
        queues := kept
        workers := mapInsert s.workers w ⟨bus, queue, deadline, .admitted⟩ }) rfl
    simp only [turnView, token] at hview
    refine ⟨?_, ?_, h.sorted, ?_, ?_, ?_, ?_, hnodup⟩ <;> grind

section

variable (h : Placed s) (hget : mapGet s.workers w = some a)

include h hget

/-- A new token comes after all others. -/
theorem Placed.enqueue (hphase : a.phase = .admitted) : Placed (s.enqueue w a) := by
  have hold : view s w = some (a.bus, a.queue, none) := by
    rw [view_of_get hget, turnView, hphase]
    rfl
  have hview : ∀ w', view (s.enqueue w a) w' =
      if w' = w then some (a.bus, a.queue, some s.nextToken) else view s w' :=
    view_insert (a := { a with phase := .queued s.nextToken }) rfl
  have hturns : ∀ q, (s.enqueue w a).turns q =
      if q = a.queue then s.turns q ++ [s.nextToken] else s.turns q := by
    simp_all [BusQueues.enqueue, Function.update_apply]
  have hnext : (s.enqueue w a).nextToken = s.nextToken + 1 := rfl
  refine ⟨by grind, by grind, ?_, by grind, ?_, h.distinct, h.numbered, h.nodup⟩
  · grind
  · intro w' b q o hv
    show mapGet s.queues b = some q
    grind

/-- A turn that is dropped leaves no token. -/
theorem Placed.drop (htoken : a.phase.token = some token) : Placed (s.drop w a token) := by
  have hold : view s w = some (a.bus, a.queue, some token) := by
    rw [view_of_get hget, turnView, htoken]
  have hview := view_drop s w a token
  have hturns : ∀ q, (s.drop w a token).turns q = if q = a.queue then (s.turns q).erase token
      else s.turns q := by simp_all [BusQueues.drop, Function.update_apply]
  have hmem : ∀ q t, t ∈ (s.turns q).erase token ↔ t ≠ token ∧ t ∈ s.turns q :=
    fun q t => List.Nodup.mem_erase_iff ((h.sorted q).imp Nat.ne_of_lt)
  have hnext : (s.drop w a token).nextToken = s.nextToken := rfl
  refine ⟨by grind, by grind, ?_, by grind, ?_, h.distinct, h.numbered, h.nodup⟩
  · grind [List.erase_sublist]
  · intro w' b q o hv
    show mapGet s.queues b = some q
    grind

/-- A worker leaves its place. -/
theorem Placed.leave (hphase : a.phase = .dropped) :
    Placed { s with workers := mapRemove s.workers w } := by
  have hview := view_leave s w
  have hw : view s w = some (a.bus, a.queue, none) := by
    rw [view_of_get hget, turnView, hphase]
    rfl
  refine ⟨by grind, by grind, h.sorted, by grind, by grind, h.distinct, h.numbered, h.nodup⟩

end

/-! ### Who is first -/

/-- The worker with the turn is the first of its queue, one that sleeps is not, and no turn was granted to a
token that was enqueued after one that still waits. -/
@[grind cases]
structure Ranked (s : BusQueues) : Prop where
  first : ∀ {w a t}, mapGet s.workers w = some a → a.phase = .held t →
    (s.turns a.queue).head? = some t
  behind : ∀ {w a t}, mapGet s.workers w = some a → a.phase = .asleep t →
    (s.turns a.queue).head? ≠ some t
  issued : ∀ {b g}, (b, g) ∈ s.granted → g < s.nextToken
  passed : ∀ {b g w a t}, (b, g) ∈ s.granted → mapGet s.workers w = some a → a.bus = b →
    a.phase.token = some t → g < t ∨ g = t ∧ a.phase = .held t
  ordered : ∀ b, ((s.granted.filter fun entry => entry.1 = b).map (·.2)).Pairwise (· < ·)

/-- The first token is not later than another one. -/
theorem Placed.head_le (h : Placed s) {first : ℕ} (hfirst : (s.turns q).head? = some first)
    (hmem : t ∈ s.turns q) : first ≤ t := by
  have hsorted := h.sorted q
  rcases hlist : s.turns q with _ | ⟨x, rest⟩
  · rw [hlist] at hmem
    cases hmem
  · rw [hlist] at hfirst hmem hsorted
    cases hfirst
    rcases List.mem_cons.mp hmem with rfl | hrest
    · exact Nat.le_refl _
    · exact Nat.le_of_lt (List.rel_of_pairwise_cons hsorted hrest)

/-- One worker is written, with a phase that has no turn yet or the token of the one before. -/
theorem Ranked.of_insert (h : Ranked s) (hplaced : Placed s)
    (hworkers : s'.workers = mapInsert s.workers w a)
    (hturns : ∀ q t, t ∈ s.turns q → (s'.turns q).head? = (s.turns q).head?)
    (hgranted : s'.granted = s.granted) (hnext : s.nextToken ≤ s'.nextToken)
    (hheld : ∀ t, a.phase ≠ .held t)
    (hasleep : ∀ t, a.phase = .asleep t → (s'.turns a.queue).head? ≠ some t)
    (hpassed : ∀ g t, (a.bus, g) ∈ s.granted → a.phase.token = some t → g < t) : Ranked s' := by
  have hget := mapGet_mapInsert s.workers w a
  have hmem : ∀ {w' a' t}, mapGet s.workers w' = some a' → a'.phase.token = some t →
      (s'.turns a'.queue).head? = (s.turns a'.queue).head? :=
    fun hget' htoken => hturns _ _ (hplaced.mem hget' htoken)
  have hheld' : ∀ t, (held t).token = some t := fun _ => rfl
  have hasleep' : ∀ t, (asleep t).token = some t := fun _ => rfl
  refine ⟨by grind, by grind, by grind, by grind, ?_⟩
  rw [hgranted]
  exact h.ordered

section Steps

variable {s : BusQueues} {w : ℕ} {a : BusWorker} {token : ℕ}

section

variable (h : Ranked s)

include h

/-- The ranks when a worker arrives. -/
theorem Ranked.busQueue (hplaced : Placed s) (bus : BusIdentity) (deadline : ℕ) :
    Ranked (s.busQueue w bus deadline) := by
  have hnext : ∀ q t, t ∈ s.turns q → q ≠ s.nextQueue := by grind
  unfold BusQueues.busQueue
  dsimp only
  rcases mapGet (s.queues.filter fun entry => s.alive entry.2) bus with _ | queue
  · refine h.of_insert hplaced rfl (fun q t hin => ?_) rfl (Nat.le_refl _) (by simp) (by simp)
      (by simp [token])
    dsimp only
    rw [update_of_ne (hnext q t hin)]
  · exact h.of_insert hplaced rfl (fun q t _ => rfl) rfl (Nat.le_refl _) (by simp) (by simp)
      (by simp [token])

/-- The ranks when it takes a token. -/
theorem Ranked.enqueue (hplaced : Placed s) : Ranked (s.enqueue w a) := by
  refine h.of_insert hplaced rfl (fun q t hin => ?_) rfl (Nat.le_succ _) (by simp) (by simp) ?_
  · simp only [BusQueues.enqueue, Function.update_apply]
    split_ifs with hq
    · subst hq
      rw [List.head?_append_of_ne_nil _ (List.ne_nil_of_mem hin)]
    · rfl
  · intro g t hg htoken
    cases htoken
    exact h.issued hg

section

variable (hplaced : Placed s) (hget : mapGet s.workers w = some a)

include hplaced hget

/-- A phase with the same token, that is neither the turn nor, for the first of the queue, sleep. -/
theorem Ranked.setPhase (htoken : a.phase.token = some token) (hphase : phase.token = some token)
    (hheld : ∀ t, a.phase ≠ .held t) (hheld' : ∀ t, phase ≠ .held t)
    (hasleep : phase = .asleep token → (s.turns a.queue).head? ≠ some token) :
    Ranked (s.setPhase w a phase) := by
  refine h.of_insert hplaced rfl (fun q t _ => rfl) rfl (Nat.le_refl _) hheld' ?_ ?_
  · rintro t rfl
    cases hphase
    exact hasleep rfl
  · intro g t hg ht
    cases hphase.symm.trans ht
    -- a worker that does not have the turn has not been passed over
    grind

/-- The turn is granted to the first of the queue, whose token is later than those granted before. -/
theorem Ranked.grant (hphase : a.phase = .queued token)
    (hfirst : (s.turns a.queue).head? = some token) :
    Ranked { s.setPhase w a (.held token) with granted := s.granted ++ [(a.bus, token)] } := by
  have htoken : a.phase.token = some token := by rw [hphase]; rfl
  have hview : ∀ {w' a' t}, mapGet s.workers w' = some a' → a'.phase.token = some t →
      view s w' = some (a'.bus, a'.queue, some t) := by
    intro w' a' t hget' htoken'
    rw [view_of_get hget', turnView, htoken']
  -- another turn on the bus is on the same queue, and behind the first one
  have hbehind : ∀ {w' a' t}, mapGet s.workers w' = some a' → a'.bus = a.bus →
      a'.phase.token = some t → w' = w ∨ token < t := by
    intro w' a' t hget' hbus htoken'
    have hle : token ≤ t := hplaced.head_le hfirst (by grind)
    grind
  have hworkers := mapGet_mapInsert s.workers w { a with phase := .held token }
  have hheld : (TurnPhase.held token).token = some token := rfl
  refine ⟨?_, ?_, ?_, ?_, ?_⟩
  · simp only [BusQueues.setPhase, hworkers]
    grind
  · simp only [BusQueues.setPhase, hworkers]
    grind
  · intro b g hg
    show g < s.nextToken
    grind
  · simp only [BusQueues.setPhase, hworkers]
    grind
  · intro b
    have hordered := h.ordered b
    grind

/-- A turn that is dropped wakes the workers of its queue. -/
theorem Ranked.drop (htoken : a.phase.token = some token) : Ranked (s.drop w a token) := by
  have hcases : ∀ {w' a'}, mapGet (s.drop w a token).workers w' = some a' →
      (w' = w ∧ a'.phase = .dropped) ∨
        w' ≠ w ∧ ∃ b, mapGet s.workers w' = some b ∧ a' = notifiedOn a.queue b := by
    grind [drop, mapGet_mapInsert, get_notifyAll, Option.map_eq_some_iff]
  have hqueue : ∀ b, (notifiedOn a.queue b).queue = b.queue :=
    fun b => congrArg (·.2.1) (turnView_notifiedOn a.queue b)
  have hheld : ∀ {b t}, (notifiedOn a.queue b).phase = .held t ↔ b.phase = .held t := by
    intro b t
    unfold notifiedOn
    split_ifs
    · exact notified_eq_held
    · exact Iff.rfl
  refine ⟨?_, ?_, h.issued, ?_, h.ordered⟩
  · intro w' a' t hget' hphase
    rcases hcases hget' with ⟨_, hdropped⟩ | ⟨hw, b, hb, rfl⟩
    · rw [hdropped] at hphase
      cases hphase
    · rw [hheld] at hphase
      have hfirst := h.first hb hphase
      rw [hqueue]
      simp only [BusQueues.drop, Function.update_apply]
      split_ifs with hq
      · -- the first of the queue is not the one that is dropped
        have hne : t ≠ token := by
          rintro rfl
          have hv : view s w' = some (b.bus, b.queue, some t) := by
            rw [view_of_get hb, turnView, hphase]
            rfl
          have hv' : view s w = some (a.bus, a.queue, some t) := by
            rw [view_of_get hget, turnView, htoken]
          exact hw (hplaced.owner hv hv')
        rw [hq] at hfirst
        obtain ⟨rest, hlist⟩ := List.head?_eq_some_iff.mp hfirst
        rw [hlist, List.erase_cons_tail (by simpa using hne)]
        rfl
      · exact hfirst
  · intro w' a' t hget' hphase
    rcases hcases hget' with ⟨_, hdropped⟩ | ⟨hw, b, hb, rfl⟩
    · rw [hdropped] at hphase
      cases hphase
    · by_cases hq : b.queue = a.queue
      · -- nobody sleeps on the queue
        rw [notifiedOn, if_pos hq] at hphase
        exact absurd hphase (notified_ne_asleep _ _)
      · have hsame : notifiedOn a.queue b = b := if_neg hq
        rw [hsame] at hphase ⊢
        simp only [BusQueues.drop, Function.update_of_ne hq]
        exact h.behind hb hphase
  · intro b' g w' a' t hg hget' hbus htoken'
    rcases hcases hget' with ⟨_, hdropped⟩ | ⟨hw, b, hb, rfl⟩
    · rw [hdropped] at htoken'
      cases htoken'
    · have hview := turnView_notifiedOn a.queue b
      rw [hheld]
      exact h.passed hg hb ((congrArg (·.1) hview).symm.trans hbus)
        ((congrArg (·.2.2) hview).symm.trans htoken')

end

/-- The ranks when it leaves. -/
theorem Ranked.leave : Ranked { s with workers := mapRemove s.workers w } := by
  have hget : ∀ {w' a'}, mapGet (mapRemove s.workers w) w' = some a' →
      mapGet s.workers w' = some a' := by
    intro w' a' hget'
    rw [mapGet_mapRemove] at hget'
    split_ifs at hget'
    exact hget'
  exact ⟨fun hget' => h.first (hget hget'), fun hget' => h.behind (hget hget'), h.issued,
    fun hg hget' => h.passed hg (hget hget'), h.ordered⟩

end

end Steps

/-! ### Runs -/

/-- What holds after every step. -/
structure QueueInvariant (s : BusQueues) : Prop where
  placed : Placed s
  ranked : Ranked s

/-- The queues are empty at first. -/
theorem queueInvariant_initial : QueueInvariant .initial := by
  refine ⟨⟨?_, ?_, fun _ => List.Pairwise.nil, ?_, ?_, ?_, ?_, List.nodup_nil⟩,
    ⟨?_, ?_, ?_, ?_, fun _ => List.Pairwise.nil⟩⟩ <;>
    simp [view, initial, mapGet]

/-- A worker waits. -/
theorem QueueInvariant.wait (h : QueueInvariant s) (hget : mapGet s.workers w = some a)
    (hphase : a.phase = .queued token) : QueueInvariant (s.wait w a token) := by
  have htoken : a.phase.token = some token := by rw [hphase]; rfl
  have hheld : ∀ t, a.phase ≠ .held t := by
    intro t hheld
    rw [hphase] at hheld
    cases hheld
  have hplaced : ∀ {phase : TurnPhase}, phase.token = some token → Placed (s.setPhase w a phase) := by
    intro phase hsame
    exact h.placed.of_view (view_setPhase hget (hsame.trans htoken.symm)) rfl rfl rfl rfl
  unfold BusQueues.wait
  split_ifs with hlate hfirst
  · exact ⟨hplaced rfl, h.ranked.setPhase h.placed hget htoken rfl hheld (by simp) (by simp)⟩
  · refine ⟨?_, h.ranked.grant h.placed hget hphase hfirst⟩
    have hturn : Placed (s.setPhase w a (.held token)) := hplaced rfl
    exact hturn.of_view rfl rfl rfl rfl rfl
  · exact ⟨hplaced rfl, h.ranked.setPhase h.placed hget htoken rfl hheld (by simp) fun _ => hfirst⟩

/-- A worker drops its token. -/
theorem QueueInvariant.drop (h : QueueInvariant s) (hget : mapGet s.workers w = some a)
    (htoken : a.phase.token = some token) : QueueInvariant (s.drop w a token) :=
  ⟨h.placed.drop hget htoken, h.ranked.drop h.placed hget htoken⟩

/-- One step keeps the invariant. -/
theorem QueueInvariant.step (h : QueueInvariant s) {event : QueueEvent}
    (hstep : s.step event = some s') : QueueInvariant s' := by
  cases event with
  | busQueue w bus deadline =>
    simp only [BusQueues.step] at hstep
    split_ifs at hstep with hnew
    cases hstep
    have hnone : mapGet s.workers w = none := mapGet_eq_none_iff.mpr fun hk => hnew (mapHas_iff.mpr hk)
    exact ⟨h.placed.busQueue hnone bus deadline, h.ranked.busQueue h.placed bus deadline⟩
  | enqueue w =>
    obtain ⟨a, hget, ha⟩ := Option.bind_eq_some_iff.mp hstep
    cases hphase : a.phase <;> simp only [hphase, reduceCtorEq] at ha
    cases ha
    exact ⟨h.placed.enqueue hget hphase, h.ranked.enqueue h.placed⟩
  | wait w =>
    obtain ⟨a, hget, ha⟩ := Option.bind_eq_some_iff.mp hstep
    cases hphase : a.phase <;> simp only [hphase, reduceCtorEq] at ha
    cases ha
    exact h.wait hget hphase
  | wake w =>
    obtain ⟨a, hget, ha⟩ := Option.bind_eq_some_iff.mp hstep
    cases hphase : a.phase with
    | asleep token =>
      simp only [hphase, Option.some.injEq] at ha
      subst ha
      have htoken : a.phase.token = some token := by rw [hphase]; rfl
      exact ⟨h.placed.of_view (view_setPhase hget htoken.symm) rfl rfl rfl rfl,
        h.ranked.setPhase h.placed hget htoken rfl (by simp [hphase]) (by simp) (by simp)⟩
    | admitted | queued | expired | held | dropped =>
      simp only [hphase, reduceCtorEq] at ha
  | drop w =>
    obtain ⟨a, hget, ha⟩ := Option.bind_eq_some_iff.mp hstep
    cases hphase : a.phase <;> simp only [hphase, reduceCtorEq] at ha
    all_goals
      cases ha
      exact h.drop hget (by rw [hphase]; rfl)
  | leave w =>
    obtain ⟨a, hget, ha⟩ := Option.bind_eq_some_iff.mp hstep
    cases hphase : a.phase <;> simp only [hphase, reduceCtorEq] at ha
    cases ha
    exact ⟨h.placed.leave hget hphase, h.ranked.leave⟩
  | tick =>
    cases hstep
    exact ⟨h.placed.of_view rfl rfl rfl rfl rfl,
      ⟨h.ranked.first, h.ranked.behind, h.ranked.issued, h.ranked.passed, h.ranked.ordered⟩⟩

/-- The worker with the turn is the only one on its bus. -/
theorem QueueInvariant.alone (h : QueueInvariant s) {w' : ℕ} {b : BusWorker} {t' : ℕ}
    (hget : mapGet s.workers w = some a) (hget' : mapGet s.workers w' = some b)
    (hbus : a.bus = b.bus) (hheld : a.phase = .held t) (hheld' : b.phase = .held t') : w = w' := by
  have hv : view s w = some (a.bus, a.queue, some t) := by
    rw [view_of_get hget, turnView, hheld]
    rfl
  have hv' : view s w' = some (b.bus, b.queue, some t') := by
    rw [view_of_get hget', turnView, hheld']
    rfl
  have hfirst := h.ranked.first hget hheld
  have hfirst' := h.ranked.first hget' hheld'
  have hplaced := h.placed
  grind

/-- A turn can be dropped, and its token is gone then. -/
theorem QueueInvariant.not_mem_drop (h : QueueInvariant s) (hget : mapGet s.workers w = some a)
    (htoken : a.phase.token = some t) (hstep : s.step (.drop w) = some s') :
    t ∉ s'.turns a.queue := by
  have hdrop : s' = s.drop w a t := by
    simp only [BusQueues.step, hget, Option.bind_some] at hstep
    cases hphase : a.phase <;> rw [hphase] at hstep htoken <;> cases htoken
    · exact (Option.some.inj hstep).symm
    · cases hstep
    · exact (Option.some.inj hstep).symm
    · exact (Option.some.inj hstep).symm
  have hnodup : (s.turns a.queue).Nodup := (h.placed.sorted a.queue).imp Nat.ne_of_lt
  rw [hdrop, BusQueues.drop]
  simp only [update_self]
  exact hnodup.not_mem_erase

/-- The first of a queue has the turn, or drops it, or is awake and gets it. -/
theorem QueueInvariant.first_goes_on (h : QueueInvariant s) (hfirst : (s.turns q).head? = some t) :
    ∃ w a, mapGet s.workers w = some a ∧ a.queue = q ∧
      (a.phase = .held t ∨ (a.phase = .expired t ∧ ∃ s', s.step (.drop w) = some s') ∨
        a.phase = .queued t ∧ ∃ s' a', s.step (.wait w) = some s' ∧ mapGet s'.workers w = some a' ∧
          a'.phase = if s.now < a.deadline then .held t else .expired t) := by
  obtain ⟨w, b, hv⟩ := (h.placed.entries q t).mp (List.mem_of_head? hfirst)
  obtain ⟨a, hget, hqueue, htoken⟩ := turn_of_view hv
  subst hqueue
  refine ⟨w, a, hget, rfl, ?_⟩
  rcases hphase : a.phase with _ | token | token | token | token | _ <;> rw [hphase] at htoken <;>
    cases htoken
  · grind [BusQueues.step, BusQueues.wait, Nat.not_le, BusQueues.setPhase, mapGet_mapInsert,
      Nat.not_lt]
  · exact absurd hfirst (h.ranked.behind hget hphase)
  · simp [BusQueues.step, *]
  · exact .inl rfl

/-- **Turns on a bus are fair.**  After every interleaving of the steps of any number of workers: at most one
worker has the turn on a bus; turns were granted in the order in which their tokens were enqueued, and none
to a token later than one that still waits; every token of a queue has a worker whose turn is not dropped, and
a drop takes the token away; and the first of a queue has the turn, is about to drop it after its deadline,
or is awake and gets it, so a turn that is dropped does not block those behind it. -/
theorem bus_turns_are_fair (events : List QueueEvent) (s : BusQueues)
    (hrun : run BusQueues.step .initial events = some s) :
    (∀ w w' a b t t', mapGet s.workers w = some a → mapGet s.workers w' = some b → a.bus = b.bus →
      a.phase = .held t → b.phase = .held t' → w = w') ∧
    (∀ bus, ((s.granted.filter fun entry => entry.1 = bus).map (·.2)).Pairwise (· < ·)) ∧
    (∀ g w a t, mapGet s.workers w = some a → (a.bus, g) ∈ s.granted → a.phase.token = some t →
      g ≤ t) ∧
    (∀ q, ∀ t ∈ s.turns q, ∃ w a, mapGet s.workers w = some a ∧ a.queue = q ∧
      a.phase.token = some t) ∧
    (∀ w a t s', mapGet s.workers w = some a → a.phase.token = some t →
      s.step (.drop w) = some s' → t ∉ s'.turns a.queue) ∧
    ∀ q t, (s.turns q).head? = some t → ∃ w a, mapGet s.workers w = some a ∧ a.queue = q ∧
      (a.phase = .held t ∨ (a.phase = .expired t ∧ ∃ s', s.step (.drop w) = some s') ∨
        a.phase = .queued t ∧ ∃ s' a', s.step (.wait w) = some s' ∧ mapGet s'.workers w = some a' ∧
          a'.phase = if s.now < a.deadline then .held t else .expired t) := by
  have hs : QueueInvariant s := by
    refine run_induction (P := fun _ _ => True) QueueInvariant ?_ events .initial s
      queueInvariant_initial (along_of_forall fun _ _ _ => trivial) hrun
    exact fun s event s' hinv _ hstep => hinv.step hstep
  refine ⟨?_, hs.ranked.ordered, ?_, ?_, ?_, fun q t hfirst => hs.first_goes_on hfirst⟩
  · exact fun w w' a b t t' hget hget' hbus hheld hheld' => hs.alone hget hget' hbus hheld hheld'
  · intro g w a t hget hg htoken
    rcases hs.ranked.passed hg hget rfl htoken with hless | ⟨hsame, _⟩
    · exact Nat.le_of_lt hless
    · exact Nat.le_of_eq hsame
  · intro q t hmem
    obtain ⟨w, b, hv⟩ := (hs.placed.entries q t).mp hmem
    obtain ⟨a, hget, hqueue, htoken⟩ := turn_of_view hv
    exact ⟨w, a, hget, hqueue, htoken⟩
  · exact fun w a t s' hget htoken hstep => hs.not_mem_drop hget htoken hstep

/-- Three workers on one adapter: the first has the turn, the second gives up while it waits, and the third,
which slept behind both, is woken when the first one is done and gets the turn. -/
def crowded : List QueueEvent :=
  [.busQueue 1 (.adapter 7) 9, .enqueue 1, .busQueue 2 (.adapter 7) 1, .enqueue 2,
    .busQueue 3 (.adapter 7) 9,
    .enqueue 3, .wait 1, .wait 2, .wait 3, .tick, .wake 2, .wait 2, .drop 2, .wait 3, .drop 1, .wait 3]

/-- Three workers, one of which gives up. -/
theorem bus_turns_are_fair_crowded :
    ∃ s, run BusQueues.step .initial crowded = some s ∧
      s.turns 0 = [2] ∧ s.granted = [(.adapter 7, 0), (.adapter 7, 2)] ∧
      (∀ w w' a b t t', mapGet s.workers w = some a → mapGet s.workers w' = some b →
        a.bus = b.bus → a.phase = .held t → b.phase = .held t' → w = w') ∧
      ∃ w a, mapGet s.workers w = some a ∧ a.queue = 0 ∧ a.phase.token = some 2 := by
  obtain ⟨s, hrun, hturns, hgranted⟩ : ∃ s, run BusQueues.step .initial crowded = some s ∧
      s.turns 0 = [2] ∧ s.granted = [(.adapter 7, 0), (.adapter 7, 2)] := ⟨_, rfl, by decide, by decide⟩
  obtain ⟨halone, _, _, howned, _, _⟩ := bus_turns_are_fair crowded s hrun
  refine ⟨s, hrun, hturns, hgranted, halone, howned 0 2 ?_⟩
  rw [hturns]
  exact List.mem_singleton_self 2

end Pkcs11rs.Analysis
