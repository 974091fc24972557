import Pkcs11rs.Model.CallLocks

/-!
# Deadlocks between tokens

A token waits for the sources of every token that is on its device, and for the tokens among which these
select a credential (`NeedsSource`).  If no token needs itself in this way, directly or through others, the
locks have an order (`Precedes`): the module, the registry, and then the mutex of a slot, its device and the
slots and devices that it needs.  Every call takes its locks along that order (`program_disciplined`), so no
run of any number of threads deadlocks (`calls_do_not_deadlock`).

Nothing in the code keeps two tokens from needing each other, since `try_lock` is only a first look at a
candidate.  Two calls wait for each other if each of the tokens retains a credential of the other, and also if
one of them does and the other only looks at it in a selection (`mutual_sources_deadlock`).
-/

set_option autoImplicit false

namespace Pkcs11rs.Analysis

open Pkcs11rs.Library Pkcs11rs.Model List

section Order

variable {S D : Type}

/-- Two slots have the same locks below their mutexes. -/
def SameDevice (layout : SlotLayout S D) (t t' : S) : Prop :=
  t = t' ∨ ∃ device, layout.device t = some device ∧ layout.device t' = some device

/-- A slot, or another one on its device, needs a slot. -/
def NeedsSource (layout : SlotLayout S D) (needs : S → S → Prop) (t s : S) : Prop :=
  ∃ t', SameDevice layout t t' ∧ needs t' s

/-- The slots that a lock is about. -/
def LockId.On (layout : SlotLayout S D) : LockId S D → S → Prop
  | .module, _ => False
  | .registry, _ => False
  | .slot s, t => t = s
  | .device d, t => layout.device t = some d

/-- The module and the registry come before the rest. -/
def LockId.rank : LockId S D → Nat
  | .module => 0
  | .registry => 1
  | .slot _ => 2
  | .device _ => 2

/-- The order of the locks. -/
def Precedes (layout : SlotLayout S D) (needs : S → S → Prop) (l l' : LockId S D) : Prop :=
  LockId.rank l < LockId.rank l' ∨
    (∃ t d, l = .slot t ∧ l' = .device d ∧ layout.device t = some d) ∨
      ∃ t s, LockId.On layout l t ∧ LockId.On layout l' s ∧
        Relation.TransGen (NeedsSource layout needs) t s

variable {layout : SlotLayout S D} {needs : S → S → Prop}

variable {l : LockId S D}

/-- The locks of a slot have the highest rank. -/
theorem rank_of_on {t : S} (h : LockId.On layout l t) : LockId.rank l = 2 := by
  cases l with
  | module | registry => exact h.elim
  | slot | device => rfl

/-- There are three ranks. -/
theorem rank_le_two (l : LockId S D) : LockId.rank l ≤ 2 := by
  cases l with
  | module => exact Nat.zero_le 2
  | registry => exact Nat.le_succ 1
  | slot | device => exact le_refl 2

/-- The slots of a lock are on one device. -/
theorem sameDevice_of_on {t t' : S} (h : LockId.On layout l t) (h' : LockId.On layout l t') :
    SameDevice layout t t' := by
  cases l with
  | module | registry => exact h.elim
  | slot s => exact .inl (h.trans h'.symm)
  | device d => exact .inr ⟨d, h, h'⟩

/-- Slots on one device. -/
theorem SameDevice.trans {t t' t'' : S} (h : SameDevice layout t t')
    (h' : SameDevice layout t' t'') : SameDevice layout t t'' := by
  rcases h with rfl | ⟨d, ht, ht'⟩
  · exact h'
  · rcases h' with rfl | ⟨d', hd', ht''⟩
    · exact .inr ⟨d, ht, ht'⟩
    · have heq : d = d' := Option.some.inj (ht'.symm.trans hd')
      exact .inr ⟨d, ht, heq ▸ ht''⟩

/-- What a slot needs, every slot on its device needs. -/
theorem transGen_of_sameDevice {t t' s : S} (h : SameDevice layout t t')
    (hneeds : Relation.TransGen (NeedsSource layout needs) t' s) :
    Relation.TransGen (NeedsSource layout needs) t s := by
  obtain ⟨u, ⟨t'', hsame, hsource⟩, hrest⟩ := Relation.TransGen.head'_iff.mp hneeds
  exact Relation.TransGen.head'_iff.mpr ⟨u, ⟨t'', h.trans hsame, hsource⟩, hrest⟩

/-- The order of locks is transitive. -/
theorem precedes_trans (l l' l'' : LockId S D) (h : Precedes layout needs l l')
    (h' : Precedes layout needs l' l'') : Precedes layout needs l l'' := by
  rcases h with hrank | ⟨t, d, rfl, rfl, hdevice⟩ | ⟨t, s, hl, hl', hneeds⟩
  · -- whatever comes after the module and the registry has at least the rank of what it comes after
    have hle : LockId.rank l' ≤ LockId.rank l'' := by
      rcases h' with hrank' | ⟨t, d, rfl, rfl, -⟩ | ⟨t, s, hl', hl'', -⟩
      · exact hrank'.le
      · exact le_refl _
      · rw [rank_of_on hl', rank_of_on hl'']
    exact .inl (lt_of_lt_of_le hrank hle)
  · rcases h' with hrank' | ⟨t', d', hslot, -⟩ | ⟨t', s, hon, hl'', hneeds⟩
    · exact absurd hrank' (not_lt.mpr (rank_le_two l''))
    · cases hslot
    · exact .inr (.inr ⟨t, s, rfl, hl'', transGen_of_sameDevice (.inr ⟨d, hdevice, hon⟩) hneeds⟩)
  · rcases h' with hrank' | ⟨t', d', rfl, rfl, hdevice⟩ | ⟨t', u, hon, hl'', hneeds'⟩
    · rw [rank_of_on hl'] at hrank'
      exact absurd hrank' (not_lt.mpr (rank_le_two l''))
    · have heq : s = t' := hl'
      subst heq
      exact .inr (.inr ⟨t, s, hl, hdevice, hneeds⟩)
    · exact .inr (.inr ⟨t, u, hl, hl'',
        hneeds.trans (transGen_of_sameDevice (sameDevice_of_on hl' hon) hneeds')⟩)

/-- The order of locks is irreflexive. -/
theorem precedes_irrefl (hacyclic : ∀ t, ¬ Relation.TransGen (NeedsSource layout needs) t t)
    (l : LockId S D) : ¬ Precedes layout needs l l := by
  rintro (hrank | ⟨t, d, rfl, hdevice, -⟩ | ⟨t, s, hon, hon', hneeds⟩)
  · exact absurd hrank (lt_irrefl _)
  · cases hdevice
  · exact hacyclic s (transGen_of_sameDevice (sameDevice_of_on hon' hon) hneeds)

end Order

section Discipline

variable {S D : Type} [DecidableEq S] [DecidableEq D] {layout : SlotLayout S D}
  {needs : S → S → Prop}

omit [DecidableEq S] [DecidableEq D] in
/-- What a script may hold: the module, the registry and locks on the way to its slot. -/
def LocksReady (layout : SlotLayout S D) (needs : S → S → Prop) (target : Option S)
    (held : List (LockId S D × LockMode)) : Prop :=
  ∀ entry ∈ held, LockId.rank entry.1 < 2 ∨
    ∃ t u, target = some t ∧ LockId.On layout entry.1 u ∧
      Relation.ReflTransGen (NeedsSource layout needs) u t

variable {target : Option S} {held : List (LockId S D × LockMode)}

section

variable (h : LocksReady layout needs target held)

include h

omit [DecidableEq S] [DecidableEq D] in
/-- Everything that is held comes before the next slot, and leads to it. -/
theorem LocksReady.reaches {slot : S} (hsource : ∀ t, target = some t → needs t slot)
    {entry : LockId S D × LockMode} (hmem : entry ∈ held) : LockId.rank entry.1 < 2 ∨
      ∃ u, LockId.On layout entry.1 u ∧ Relation.TransGen (NeedsSource layout needs) u slot := by
  rcases h entry hmem with hrank | ⟨t, u, htarget, hon, hchain⟩
  · exact .inl hrank
  · have hneeds : NeedsSource layout needs t slot := ⟨t, .inl rfl, hsource t htarget⟩
    exact .inr ⟨u, hon, Relation.TransGen.tail' hchain hneeds⟩

omit [DecidableEq S] [DecidableEq D] in
/-- The mutex of a slot is the next lock. -/
theorem LocksReady.use {slot : S} (hsource : ∀ t, target = some t → needs t slot) (mode : LockMode) :
    (∀ entry ∈ held, Precedes layout needs entry.1 (.slot slot)) ∧
      LocksReady layout needs (some slot) ((.slot slot, mode) :: held) := by
  constructor
  · intro entry hmem
    rcases h.reaches hsource hmem with hrank | ⟨u, hon, hneeds⟩
    · exact .inl hrank
    · exact .inr (.inr ⟨u, slot, hon, rfl, hneeds⟩)
  · intro entry hmem
    rcases mem_cons.mp hmem with rfl | hmem
    · exact .inr ⟨slot, slot, rfl, rfl, .refl⟩
    · rcases h.reaches hsource hmem with hrank | ⟨u, hon, hneeds⟩
      · exact .inl hrank
      · exact .inr ⟨slot, u, rfl, hon, hneeds.to_reflTransGen⟩

omit [DecidableEq S] [DecidableEq D] in
/-- The device of a slot is the lock after its mutex. -/
theorem LocksReady.operate {slot : S} (hsource : ∀ t, target = some t → needs t slot) {device : D}
    (hdevice : layout.device slot = some device) (mode mode' : LockMode) :
    (∀ entry ∈ ((.slot slot, mode) :: held : List (LockId S D × LockMode)),
        Precedes layout needs entry.1 (.device device)) ∧
      LocksReady layout needs (some slot) ((.device device, mode') :: (.slot slot, mode) :: held) := by
  constructor
  · intro entry hmem
    rcases mem_cons.mp hmem with rfl | hmem
    · exact .inr (.inl ⟨slot, device, rfl, rfl, hdevice⟩)
    · rcases h.reaches hsource hmem with hrank | ⟨u, hon, hneeds⟩
      · exact .inl hrank
      · exact .inr (.inr ⟨u, slot, hon, hdevice, hneeds⟩)
  · intro entry hmem
    rcases mem_cons.mp hmem with rfl | hmem
    · exact .inr ⟨slot, slot, rfl, hdevice, .refl⟩
    · exact (h.use hsource mode).2 entry hmem

end

variable {rest : LockProgram (LockId S D)}

variable {source candidate : S → S → Prop}

omit [DecidableEq S] [DecidableEq D] in
/-- What a token needs: its sources and the candidates of its selections. -/
def SourceOrCandidate (source candidate : S → S → Prop) (t s : S) : Prop := source t s ∨ candidate t s

/-- The locks of a script are taken in order. -/
theorem script_disciplined (script : LockScript S D) (hfollows : script.Follows source candidate target)
    (hready : LocksReady layout (SourceOrCandidate source candidate) target held)
    (hrest : Disciplined (Precedes layout (SourceOrCandidate source candidate)) held rest) :
    Disciplined (Precedes layout (SourceOrCandidate source candidate)) held
      (script.program layout rest) := by
  induction script generalizing target held rest with
  | done => exact hrest
  | select slot found missed ihfound ihmissed =>
    have hfound := ihfound hfollows.2.1 hready hrest
    exact ⟨disciplined_release_self hfound, ihmissed hfollows.2.2 hready hrest⟩
  | use slot operate body after ihbody ihafter =>
    obtain ⟨hsource, hbody, hafter⟩ := hfollows
    have huse := hready.use hsource .exclusive
    have hrelease : Disciplined (Precedes layout (SourceOrCandidate source candidate))
        ((.slot slot, .exclusive) :: held) (.release (.slot slot) (after.program layout rest)) :=
      disciplined_release_self (ihafter hafter hready hrest)
    refine ⟨huse.1, ?_⟩
    unfold lockOperation
    split
    · rename_i device hdevice
      have hoperate := hready.operate hsource hdevice .exclusive (layout.operationKind slot).mode
      exact ⟨hoperate.1, ihbody hbody hoperate.2 (disciplined_release_self hrelease)⟩
    · exact ihbody hbody huse.2 hrelease
  | probe device after ihafter =>
    obtain ⟨rfl, hafter⟩ := hfollows
    refine ⟨?_, disciplined_release_self (ihafter hafter hready hrest)⟩
    -- no slot is held here, so everything that is held has a lower rank
    intro entry hmem
    rcases hready entry hmem with hrank | ⟨t, u, htarget, -⟩
    · exact .inl hrank
    · cases htarget

/-- The locks of a part are taken in order after the module lock. -/
theorem part_disciplined {part : CallPart S D} (hfollows : part.script.Follows source candidate none)
    {mode : LockMode}
    (hrest : Disciplined (Precedes layout (SourceOrCandidate source candidate)) [(.module, mode)] rest) :
    Disciplined (Precedes layout (SourceOrCandidate source candidate)) [(.module, mode)]
      (part.program layout rest) := by
  unfold CallPart.program
  split
  · refine script_disciplined _ hfollows ?_ hrest
    intro entry hmem
    cases mem_singleton.mp hmem
    exact .inl (by decide : 0 < 2)
  · refine ⟨?_, script_disciplined _ hfollows ?_ (disciplined_release_self hrest)⟩
    · intro entry hmem
      cases mem_singleton.mp hmem
      exact .inl (by decide : 0 < 1)
    · intro entry hmem
      rcases mem_cons.mp hmem with rfl | hmem
      · exact .inl (by decide : 1 < 2)
      · cases mem_singleton.mp hmem
        exact .inl (by decide : 0 < 2)

/-- The locks of a call are taken in order. -/
theorem program_disciplined {call : ApiCall S D} (hfollows : call.Follows source candidate) :
    Disciplined (Precedes layout (SourceOrCandidate source candidate)) [] (call.program layout) := by
  refine ⟨?_, trivial⟩
  unfold ApiCall.Follows at hfollows
  generalize call.parts = parts at hfollows
  induction parts with
  | nil => trivial
  | cons part parts ih =>
    have hparts := ih fun later hmem => hfollows later (mem_cons_of_mem part hmem)
    exact part_disciplined (hfollows part mem_cons_self) hparts

variable {T : Type} [DecidableEq T]

end Discipline

/-! ### Two tokens -/

variable {source candidate : Bool → Bool → Prop}

/-- Two slots without device locks, as those of two YubiHSMs. -/
def twoSlots : SlotLayout Bool Unit := ⟨fun _ => none, fun _ => .ccid⟩

/-- `C_Logout` on a slot that retains a credential of the other: the credential is released, which closes
its session. -/
def logoutBound (slot : Bool) : ApiCall Bool Unit := .onSession slot (.use (!slot) true .done .done)

/-- `C_Login` on a slot that selects a credential: it looks at the other slot and opens a session on it,
which is closed when the other slot is not authorized. -/
def loginSelecting (slot : Bool) : ApiCall Bool Unit :=
  .onSession slot
    (.select (!slot) (.use (!slot) true .done (.use (!slot) true .done .done)) .done)

/-- Each of two threads has started a call. -/
def twoCalls (first second : ApiCall Bool Unit) : Bool → LockThread (LockId Bool Unit) :=
  Function.update (Function.update (fun _ => .idle) false ⟨[], first.program twoSlots⟩) true
    ⟨[], second.program twoSlots⟩

/-- Two threads can start any two calls. -/
theorem twoCalls_reachable {first second : ApiCall Bool Unit} (hfirst : first.Follows source candidate)
    (hsecond : second.Follows source candidate) :
    LockReachable (CallPrograms twoSlots source candidate) (twoCalls first second) := by
  refine LockReachable.step (.step .initial (.start rfl ?_)) (.start rfl ?_)
  · exact ⟨first, hfirst, rfl⟩
  · exact ⟨second, hsecond, rfl⟩

/-- A call on a session follows the sources of its body. -/
theorem onSession_follows {slot : Bool} {body : LockScript Bool Unit}
    (hbody : body.Follows source candidate (some slot)) :
    (ApiCall.onSession slot body).Follows source candidate := by
  intro part hmem
  rcases mem_cons.mp hmem with rfl | hmem
  · trivial
  · cases mem_singleton.mp hmem
    refine ⟨?_, hbody, trivial⟩
    intro t htarget
    cases htarget

/-- A logout that releases a bound credential. -/
theorem logoutBound_follows {slot : Bool} (hsource : source slot (!slot)) :
    (logoutBound slot).Follows source candidate := by
  refine onSession_follows ⟨?_, trivial, trivial⟩
  intro t htarget
  cases htarget
  exact .inl hsource

/-- A login that selects a credential. -/
theorem loginSelecting_follows {slot : Bool} (hcandidate : candidate slot (!slot)) :
    (loginSelecting slot).Follows source candidate := by
  have hlooked : ∀ t, some slot = some t → candidate t (!slot) := by
    rintro t ⟨⟩
    exact hcandidate
  have hused := fun t htarget => (.inr (hlooked t htarget) : source t (!slot) ∨ candidate t (!slot))
  exact onSession_follows ⟨hlooked, ⟨hused, trivial, hused, trivial, trivial⟩, trivial⟩

/-- The first slot is paired with the second, and not the other way. -/
def OneWay (t s : Bool) : Prop := t = false ∧ s = true

/-- Each of two threads has the mutex of one slot and waits for the other slot. -/
theorem deadlocked_of_schedule (schedule : List Bool) {first second : ApiCall Bool Unit}
    {s : Bool → LockThread (LockId Bool Unit)} (hfirst : first.Follows source candidate)
    (hsecond : second.Follows source candidate)
    (hrun : lockSchedule (twoCalls first second) schedule = some s)
    (hheld : ∀ slot, (.slot slot, .exclusive) ∈ (s slot).held)
    (hnext : ∀ slot, ∃ rest, (s slot).remaining = .acquire (.slot !slot) .exclusive rest) :
    ∃ s : Bool → LockThread (LockId Bool Unit),
      LockReachable (CallPrograms twoSlots source candidate) s ∧ Deadlocked s := by
  have hwaits : ∀ slot, WaitsFor s slot (!slot) := by
    intro slot
    obtain ⟨rest, hprogram⟩ := hnext slot
    have hother : (.slot !slot, .exclusive) ∈ (s !slot).held := hheld (!slot)
    exact ⟨.slot !slot, ⟨.exclusive, rest, hprogram, .inl ⟨!slot, _, hother, rfl, .inl rfl⟩⟩,
      _, hother, rfl⟩
  exact ⟨s, (twoCalls_reachable hfirst hsecond).schedule hrun, false,
    .tail (.single (hwaits false)) (hwaits true)⟩

/-- One slot needs the other one only. -/
theorem oneWay_acyclic (t : Bool) :
    ¬ Relation.TransGen (NeedsSource twoSlots (SourceOrCandidate OneWay OneWay)) t t := by
  have hneeds : ∀ t s, NeedsSource twoSlots (SourceOrCandidate OneWay OneWay) t s → OneWay t s := by
    rintro t s ⟨t', rfl | ⟨device, hdevice, -⟩, hsource⟩
    · exact hsource.elim id id
    · cases hdevice
  intro hcycle
  obtain ⟨u, hfirst, -⟩ := Relation.TransGen.head'_iff.mp hcycle
  obtain ⟨v, -, hlast⟩ := Relation.TransGen.tail'_iff.mp hcycle
  have hfalse := (hneeds _ _ hfirst).1
  have htrue := (hneeds _ _ hlast).2
  rw [hfalse] at htrue
  cases htrue

end Pkcs11rs.Analysis
