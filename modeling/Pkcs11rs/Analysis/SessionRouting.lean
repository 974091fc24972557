import Pkcs11rs.Analysis.SessionCleanup
import Pkcs11rs.Model.SessionRouting

/-!
# Routes and sessions agree

`Routes` is what matters about a module here: which handles the slots have, where the registry
routes them, and what the threads are about to do.  `RouteMove` are the changes that a section can
make to it, and `step_moves` says that every section makes one of them.

`RoutingInvariant` holds between any two sections as long as no `C_CloseAllSessions` empties a slot
in which another thread has opened a session that it has not registered yet.
`session_routes_match` is the result: routes and sessions are the same when no call is in progress.
-/

set_option autoImplicit false

namespace Pkcs11rs.Analysis

open Pkcs11rs.Library Pkcs11rs.Model Function SlotContext ModuleContext

variable {s : Ulong} {k : SessionHandle} {p : Pending} {reply last : Option SessionReply}
  {handles : List SessionHandle} {result : SessionReply} {ctx : SlotContext}

/-! ## Sessions and routes -/

/-- The handles that a thread is about to work on. -/
def pendingHandles : Pending → List SessionHandle
  | .idle _ => []
  | .opening _ handle => [handle]
  | .withdrawing _ handle _ => [handle]
  | .closing _ handle => [handle]
  | .unregistering handles _ => handles

/-- Sessions, routes and threads. -/
structure Routes (τ : Type) where
  has : Ulong → SessionHandle → Prop
  route : SessionHandle → Option Ulong
  pending : τ → Pending
  /-- Every handle given out so far is below this number. -/
  bound : ℕ

/-- The routes of a module. -/
def routesOf {τ : Type} (m : ModuleContext τ) : Routes τ where
  has := fun slot handle => ∃ ctx, mapGet m.slots slot = some ctx ∧ IsOpen ctx handle
  route := mapGet m.sessionSlots
  pending := m.pending
  bound := if m.nextSession = 0 then 2 ^ 64 else m.nextSession.toNat

section Moves

variable {τ : Type} [DecidableEq τ]

/-- What a section can do. -/
inductive RouteMove (v v' : Routes τ) (t : τ) : Prop where
  /-- A call returns that has changed nothing. -/
  | replied (reply : Option SessionReply)
      (hpending : (∃ last, v.pending t = .idle last) ∨ ∃ s k, v.pending t = .closing s k)
      (hhas : v'.has = v.has) (hroute : v'.route = v.route) (hbound : v'.bound = v.bound)
      (hpending' : v'.pending = Function.update v.pending t (.idle reply))
  | opened (s : Ulong) (k : SessionHandle) (hpending : ∃ last, v.pending t = .idle last)
      (hnew : k.toNat = v.bound) (hhas : ∀ s' k', v'.has s' k' ↔ v.has s' k' ∨ s' = s ∧ k' = k)
      (hroute : v'.route = v.route) (hbound : v'.bound = v.bound + 1)
      (hpending' : v'.pending = Function.update v.pending t (.opening s k))
  | registered (s : Ulong) (k : SessionHandle) (reply : Option SessionReply)
      (hpending : v.pending t = .opening s k) (hhas : v'.has = v.has)
      (hroute : v'.route = Function.update v.route k (some s)) (hbound : v'.bound = v.bound)
      (hpending' : v'.pending = Function.update v.pending t (.idle reply))
  | refused (s : Ulong) (k : SessionHandle) (hpending : v.pending t = .opening s k)
      (hreason : v.route k ≠ none ∨ ∀ k', ¬ v.has s k')
  | withdrawn (s : Ulong) (k : SessionHandle) (e : Rv) (hpending : v.pending t = .withdrawing s k e)
  /-- The slot of a session to close has been found. -/
  | found (s : Ulong) (k : SessionHandle) (hpending : ∃ last, v.pending t = .idle last)
      (hfound : v.route k = some s) (hhas : v'.has = v.has) (hroute : v'.route = v.route)
      (hbound : v'.bound = v.bound)
      (hpending' : v'.pending = Function.update v.pending t (.closing s k))
  | closed (s : Ulong) (k : SessionHandle) (result : SessionReply)
      (hpending : v.pending t = .closing s k) (hsession : v.has s k)
      (hhas : ∀ s' k', v'.has s' k' ↔ v.has s' k' ∧ ¬ (s' = s ∧ k' = k))
      (hroute : v'.route = v.route) (hbound : v'.bound = v.bound)
      (hpending' : v'.pending = Function.update v.pending t (.unregistering [k] result))
  /-- `C_CloseAllSessions` does not get into its slot section. -/
  | skipped (result : SessionReply) (hpending : ∃ last, v.pending t = .idle last)
      (hhas : v'.has = v.has) (hroute : v'.route = v.route) (hbound : v'.bound = v.bound)
      (hpending' : v'.pending = Function.update v.pending t (.unregistering [] result))
  | closedAll (s : Ulong) (handles : List SessionHandle) (result : SessionReply)
      (hpending : ∃ last, v.pending t = .idle last) (hhandles : ∀ k, k ∈ handles ↔ v.has s k)
      (hunopened : ∀ t' k, v.pending t' ≠ .opening s k)
      (hhas : ∀ s' k', v'.has s' k' ↔ v.has s' k' ∧ s' ≠ s)
      (hroute : v'.route = v.route) (hbound : v'.bound = v.bound)
      (hpending' : v'.pending = Function.update v.pending t (.unregistering handles result))
  | unregistered (handles : List SessionHandle) (result : SessionReply)
      (reply : Option SessionReply) (hpending : v.pending t = .unregistering handles result)
      (hhas : v'.has = v.has)
      (hroute : ∀ k, v'.route k = if k ∈ handles then none else v.route k)
      (hbound : v'.bound = v.bound)
      (hpending' : v'.pending = Function.update v.pending t (.idle reply))

/-! ## The invariant -/

/-- What holds between two sections. -/
@[grind cases]
structure RoutingInvariant (v : Routes τ) : Prop where
  below : ∀ s k, v.has s k → k.toNat < v.bound
  routeBelow : ∀ k s, v.route k = some s → k.toNat < v.bound
  pendingBelow : ∀ t, ∀ k ∈ pendingHandles (v.pending t), k.toNat < v.bound
  alone : ∀ s s' k, v.has s k → v.has s' k → s = s'
  opening : ∀ t s k, v.pending t = .opening s k →
    v.has s k ∧ v.route k = none ∧ ∀ t', k ∈ pendingHandles (v.pending t') → t' = t
  standing : ∀ t s k e, v.pending t ≠ .withdrawing s k e
  routed : ∀ s k, v.has s k → v.route k = some s ∨ ∃ t, v.pending t = .opening s k
  live : ∀ k s, v.route k = some s →
    v.has s k ∨ ∃ t handles result, v.pending t = .unregistering handles result ∧ k ∈ handles
  gone : ∀ t handles result, v.pending t = .unregistering handles result →
    ∀ k ∈ handles, ∀ s, ¬ v.has s k

variable {v v' : Routes τ} {t : τ}

/-- One thread goes on. -/
theorem pending_update (h : v'.pending = update v.pending t p) (t' : τ) :
    v'.pending t' = if t' = t then p else v.pending t' := by
  rw [h, update_apply]

namespace RoutingInvariant

section

variable (h : RoutingInvariant v)

include h

/-- A session is opened. -/
theorem opened (hidle : ∃ last, v.pending t = .idle last) (hnew : k.toNat = v.bound)
    (hhas : ∀ s' k', v'.has s' k' ↔ v.has s' k' ∨ s' = s ∧ k' = k) (hroute : v'.route = v.route)
    (hbound : v'.bound = v.bound + 1) (hpending : v'.pending = update v.pending t (.opening s k)) :
    RoutingInvariant v' := by
  have hthreads := pending_update hpending
  -- the handle is new, so nothing is known about it yet
  have hold : ∀ k' : SessionHandle, k'.toNat < v.bound → k' ≠ k := by grind
  have hunrouted : v.route k = none := by
    cases hk : v.route k with
    | none => rfl
    | some s' => exact absurd rfl (hold k (h.routeBelow k s' hk))
  constructor <;> grind [pendingHandles]

/-- A thread goes on, and sessions and routes stay. -/
theorem moved (hopening : ∀ s k, v.pending t ≠ .opening s k)
    (hunregistering : ∀ handles result, v.pending t ≠ .unregistering handles result)
    (hp : (∃ reply, p = .idle reply) ∨ (∃ s k, p = .closing s k ∧ v.route k = some s) ∨
      ∃ result, p = .unregistering [] result) (hhas : v'.has = v.has) (hroute : v'.route = v.route)
    (hbound : v'.bound = v.bound) (hpending : v'.pending = update v.pending t p) :
    RoutingInvariant v' := by
  have hthreads := pending_update hpending
  -- the handles of the thread are routed
  have hhandles : ∀ k ∈ pendingHandles p, ∃ s, v.route k = some s := by grind [pendingHandles]
  replace hhas : ∀ s k, v'.has s k ↔ v.has s k := fun s k => by rw [hhas]
  replace hroute : ∀ k, v'.route k = v.route k := fun k => by rw [hroute]
  constructor <;> grind

/-- `register_session` after the slot section of `C_OpenSession`. -/
theorem registered (hopening : v.pending t = .opening s k) (hhas : v'.has = v.has)
    (hroute : v'.route = update v.route k (some s)) (hbound : v'.bound = v.bound)
    (hpending : v'.pending = update v.pending t (.idle reply)) : RoutingInvariant v' := by
  have hthreads := pending_update hpending
  have hroutes : ∀ k', v'.route k' = if k' = k then some s else v.route k' := fun k' => by
    rw [hroute, update_apply]
  replace hhas : ∀ s k, v'.has s k ↔ v.has s k := fun s k => by rw [hhas]
  constructor <;> grind [pendingHandles]

/-- Sessions leave a slot. -/
theorem left (hopening : ∀ s k, v.pending t ≠ .opening s k)
    (hunregistering : ∀ handles result, v.pending t ≠ .unregistering handles result)
    (hsessions : ∀ k ∈ handles, v.has s k)
    (hunopened : ∀ k ∈ handles, ∀ t', v.pending t' ≠ .opening s k)
    (hhas : ∀ s' k', v'.has s' k' ↔ v.has s' k' ∧ ¬ (s' = s ∧ k' ∈ handles))
    (hroute : v'.route = v.route) (hbound : v'.bound = v.bound)
    (hpending : v'.pending = update v.pending t (.unregistering handles result)) :
    RoutingInvariant v' := by
  have hthreads := pending_update hpending
  replace hroute : ∀ k, v'.route k = v.route k := fun k => by rw [hroute]
  constructor <;> grind [pendingHandles]

/-- `unregister_session` for the sessions that have left. -/
theorem unregistered (hunregistering : v.pending t = .unregistering handles result)
    (hhas : v'.has = v.has) (hroute : ∀ k, v'.route k = if k ∈ handles then none else v.route k)
    (hbound : v'.bound = v.bound) (hpending : v'.pending = update v.pending t (.idle reply)) :
    RoutingInvariant v' := by
  have hthreads := pending_update hpending
  replace hhas : ∀ s k, v'.has s k ↔ v.has s k := fun s k => by rw [hhas]
  constructor <;> grind [pendingHandles]

end

end RoutingInvariant

/-- **Every section keeps the invariant.** -/
theorem RouteMove.invariant (hmove : RouteMove v v' t) (h : RoutingInvariant v) :
    RoutingInvariant v' := by
  cases hmove with
  | replied reply hplace hhas hroute hbound hpending =>
    refine h.moved ?_ ?_ (.inl ⟨reply, rfl⟩) hhas hroute hbound hpending
    · grind
    · grind
  | opened s k hidle hnew hhas hroute hbound hpending =>
    exact h.opened hidle hnew hhas hroute hbound hpending
  | registered s k reply hopening hhas hroute hbound hpending =>
    exact h.registered hopening hhas hroute hbound hpending
  | refused s k hopening hreason =>
    -- the session is in the slot and its handle is not routed
    grind
  | withdrawn s k e hwithdraw => exact absurd hwithdraw (h.standing t s k e)
  | found s k hidle hfound hhas hroute hbound hpending =>
    obtain ⟨last, hidle⟩ := hidle
    refine h.moved ?_ ?_ (.inr (.inl ⟨s, k, rfl, hfound⟩)) hhas hroute hbound hpending <;>
      rw [hidle] <;> exact nofun
  | closed s k result hclosing hsession hhas hroute hbound hpending =>
    have hhas' : ∀ s' k', v'.has s' k' ↔ v.has s' k' ∧ ¬ (s' = s ∧ k' ∈ [k]) := by
      intro s' k'
      rw [hhas, List.mem_singleton]
    refine h.left ?_ ?_ (fun k' hk' => ?_) (fun k' hk' t' hopen => ?_) hhas' hroute hbound hpending
    · rw [hclosing]
      exact nofun
    · rw [hclosing]
      exact nofun
    · rw [List.mem_singleton.mp hk']
      exact hsession
    -- the handle was routed when its slot was looked up
    · rw [List.mem_singleton.mp hk'] at hopen
      have hsame := (h.opening t' s k hopen).2.2 t
        (by rw [hclosing]; exact List.mem_singleton_self k)
      rw [← hsame, hclosing] at hopen
      cases hopen
  | skipped result hidle hhas hroute hbound hpending =>
    obtain ⟨last, hidle⟩ := hidle
    refine h.moved ?_ ?_ (.inr (.inr ⟨result, rfl⟩)) hhas hroute hbound hpending <;>
      rw [hidle] <;> exact nofun
  | closedAll s handles result hidle hhandles hunopened hhas hroute hbound hpending =>
    obtain ⟨last, hidle⟩ := hidle
    have hhas' : ∀ s' k', v'.has s' k' ↔ v.has s' k' ∧ ¬ (s' = s ∧ k' ∈ handles) := by grind
    refine h.left ?_ ?_ (fun k hk => (hhandles k).mp hk) (fun k _ t' => hunopened t' k) hhas' hroute
      hbound hpending <;> rw [hidle] <;> exact nofun
  | unregistered handles result reply hunregistering hhas hroute hbound hpending =>
    exact h.unregistered hunregistering hhas hroute hbound hpending

omit [DecidableEq τ] in
/-- Routes and sessions agree when no call is in progress. -/
theorem RoutingInvariant.routes_eq (h : RoutingInvariant v)
    (hquiet : ∀ t, ∃ reply, v.pending t = .idle reply) (s : Ulong) (k : SessionHandle) :
    v.route k = some s ↔ v.has s k := by
  constructor
  · intro hroute
    rcases h.live k s hroute with hsession | ⟨t, handles, result, ht, -⟩
    · exact hsession
    · obtain ⟨reply, hidle⟩ := hquiet t
      rw [hidle] at ht
      cases ht
  · intro hsession
    rcases h.routed s k hsession with hroute | ⟨t, ht⟩
    · exact hroute
    · obtain ⟨reply, hidle⟩ := hquiet t
      rw [hidle] at ht
      cases ht

end Moves

/-! ## The sections -/

section SlotSections

variable {ctx : SlotContext}

/-- A lost login closes no session. -/
theorem isOpen_reconciled (ctx : SlotContext) (lost : Bool) (c : SessionHandle) :
    IsOpen (ctx.reconcileLoginState.lose lost) c ↔ IsOpen ctx c := by
  unfold IsOpen keys
  rw [reconciled_keys]

/-- What the slot section of `C_OpenSession` does to the sessions. -/
theorem openSession_sessions (ctx : SlotContext) (flags : OpenFlags) {answers : OpenAnswers}
    (hregistered : answers.registered = .ok ()) :
    (∃ error ctx₁, ctx.openSession flags answers = (.error error, ctx₁) ∧
        (∀ c, IsOpen ctx₁ c ↔ IsOpen ctx c) ∧ ctx₁.nextSession = ctx.nextSession) ∨
      ∃ handle ctx₁, ctx.openSession flags answers = (.ok handle, ctx₁) ∧
        handle.toNat = sessionBound ctx ∧ sessionBound ctx₁ = sessionBound ctx + 1 ∧
        ∀ c, IsOpen ctx₁ c ↔ IsOpen ctx c ∨ c = handle := by
  have hstart := isOpen_reconciled ctx answers.lost
  have hnext : (ctx.reconcileLoginState.lose answers.lost).nextSession = ctx.nextSession := by
    unfold lose reconcileLoginState clearLoginState mapSessions
    split_ifs <;> rfl
  have hlose : ∀ c, IsOpen ((ctx.reconcileLoginState.lose answers.lost).lose answers.lostAfter) c ↔
      IsOpen ctx c := by
    intro c
    rw [← hstart c]
    generalize ctx.reconcileLoginState.lose answers.lost = ctx₁
    unfold lose
    split_ifs <;> rfl
  have hnext' : ((ctx.reconcileLoginState.lose answers.lost).lose answers.lostAfter).nextSession =
      ctx.nextSession := by grind [lose]
  unfold openSession
  dsimp only
  split_ifs
  · exact .inl ⟨_, ctx, rfl, fun _ => Iff.rfl, rfl⟩
  · exact .inl ⟨_, ctx, rfl, fun _ => Iff.rfl, rfl⟩
  · exact .inl ⟨_, _, rfl, hstart, hnext⟩
  · exact .inl ⟨_, _, rfl, hlose, hnext'⟩
  · split
    · exact .inl ⟨_, _, rfl, hlose, hnext'⟩
    · rename_i handle ctx₁ halloc
      obtain ⟨hnew, hbound, -, hsessions⟩ := allocateSession_spec halloc
      grind [sessionBound, IsOpen, setSession, mem_keys_mapInsert]

/-- What the slot section of `C_CloseSession` does to the sessions. -/
theorem closeSession_sessions {session : SessionHandle} {found : SessionContext}
    (hfound : ctx.getSession session = .ok found) (answers : LogoutAnswers) (c : SessionHandle) :
    IsOpen (ctx.closeSession session answers).2 c ↔ IsOpen ctx c ∧ c ≠ session := by
  have hstart := isOpen_reconciled ctx answers.lost
  have hremove : ∀ ctx₁ : SlotContext, (∀ c, IsOpen ctx₁ c ↔ IsOpen ctx c) →
      (IsOpen ({ ctx₁ with sessions := mapRemove ctx₁.sessions session }.publish
        (ctx₁.state.closeSession session)) c ↔ IsOpen ctx c ∧ c ≠ session) := by
    intro ctx₁ hctx₁
    rw [isOpen_publish, ← hctx₁ c]
    exact mem_keys_mapRemove
  grind [closeSession, closing_isOpen]

end SlotSections

section Steps

variable {τ : Type} {m : ModuleContext τ}

/-- The sessions after a slot section. -/
theorem has_setSlot {s' : Ulong} :
    (∃ ctx', mapGet (m.setSlot s ctx).slots s' = some ctx' ∧ IsOpen ctx' k) ↔
      if s' = s then IsOpen ctx k else (routesOf m).has s' k := by
  unfold setSlot
  rw [mapGet_mapInsert]
  split_ifs
  · simp
  · exact Iff.rfl

/-- A section that leaves the sessions of its slot as they are. -/
theorem has_setSlot_same {ctx' : SlotContext} (hslot : mapGet m.slots s = some ctx)
    (hsame : ∀ k, IsOpen ctx' k ↔ IsOpen ctx k) :
    (routesOf (m.setSlot s ctx')).has = (routesOf m).has := by
  funext s' k
  refine propext (has_setSlot.trans ?_)
  split_ifs with heq
  · subst heq
    rw [hsame]
    constructor
    · exact fun hk => ⟨ctx, hslot, hk⟩
    · rintro ⟨ctx₁, hctx₁, hk⟩
      rw [hslot] at hctx₁
      exact Option.some.inj hctx₁ ▸ hk
  · rfl

/-- The sessions of a slot. -/
theorem has_iff (hslot : mapGet m.slots s = some ctx) (k : SessionHandle) :
    (routesOf m).has s k ↔ IsOpen ctx k := by
  constructor
  · rintro ⟨ctx₁, hctx₁, hk⟩
    rw [hslot] at hctx₁
    exact Option.some.inj hctx₁ ▸ hk
  · exact fun hk => ⟨ctx, hslot, hk⟩

/-- The slot that is found. -/
theorem slotContext_ok {entry : Except Rv Unit} (h : m.slotContext s entry = .ok ctx) :
    mapGet m.slots s = some ctx := by
  unfold ModuleContext.slotContext at h
  grind [bind_eq_ok]

variable [DecidableEq τ]

variable {t : τ}

/-- The slot section of `C_OpenSession`. -/
theorem openSection_moves (hidle : m.pending t = .idle last) (s : Ulong) (flags : OpenFlags)
    (answers : OpenAnswers) (entry : Except Rv Unit) :
    RouteMove (routesOf m) (routesOf (m.openSection t s flags answers entry)) t := by
  unfold openSection
  cases hslot : m.slotContext s entry with
  | error error => exact .replied _ (.inl ⟨last, hidle⟩) rfl rfl rfl rfl
  | ok ctx =>
    have hctx := slotContext_ok hslot
    have hregistered : ({ answers with registered := .ok () } : OpenAnswers).registered = .ok () :=
      rfl
    dsimp only
    rcases openSession_sessions { ctx with nextSession := m.nextSession } flags hregistered with
      ⟨error, ctx₁, hopen, hsame, hnext⟩ | ⟨handle, ctx₁, hopen, hnew, hbound, hsessions⟩
    · rw [hopen]
      have hbound : sessionBound ctx₁ = sessionBound { ctx with nextSession := m.nextSession } := by
        unfold sessionBound
        rw [hnext]
      exact .replied _ (.inl ⟨last, hidle⟩) (has_setSlot_same hctx hsame) rfl hbound rfl
    · rw [hopen]
      refine .opened s handle ⟨last, hidle⟩ hnew (fun s' k' => ?_) rfl hbound rfl
      refine has_setSlot.trans ?_
      by_cases heq : s' = s
      · subst heq
        rw [if_pos rfl, hsessions, has_iff hctx]
        exact or_congr_right ⟨fun hk => ⟨rfl, hk⟩, And.right⟩
      · rw [if_neg heq]
        exact ⟨.inl, fun hk => hk.resolve_right fun hnot => heq hnot.1⟩

/-- The slot section of `C_CloseSession`. -/
theorem closeSection_moves (hclosing : m.pending t = .closing s k) (answers : LogoutAnswers)
    (entry : Except Rv Unit) :
    RouteMove (routesOf m) (routesOf (m.closeSection t s k answers entry)) t := by
  unfold closeSection
  cases hslot : m.slotContext s entry with
  | error error => exact .replied _ (.inr ⟨s, k, hclosing⟩) rfl rfl rfl rfl
  | ok ctx =>
    have hctx := slotContext_ok hslot
    dsimp only
    cases hfound : ctx.getSession k with
    | error error => exact .replied _ (.inr ⟨s, k, hclosing⟩) rfl rfl rfl rfl
    | ok found =>
      have hopen : IsOpen ctx k := mem_keys_of_mem (isOpen_of_getSession hfound)
      refine .closed s k _ hclosing ((has_iff hctx k).mpr hopen) (fun s' k' => ?_) rfl rfl rfl
      refine has_setSlot.trans ?_
      grind [closeSession_sessions, has_iff]

/-- The slot section of `C_CloseAllSessions`. -/
theorem closeAllSection_moves (hidle : m.pending t = .idle last)
    (hunopened : ∀ t' k, m.pending t' ≠ .opening s k) (answers : LogoutAnswers)
    (entry : Except Rv Unit) :
    RouteMove (routesOf m) (routesOf (m.closeAllSection t s answers entry)) t := by
  unfold closeAllSection
  cases hslot : m.slotContext s entry with
  | error error => exact .skipped _ ⟨last, hidle⟩ rfl rfl rfl rfl
  | ok ctx =>
    have hctx := slotContext_ok hslot
    refine .closedAll s (keys ctx.sessions) _ ⟨last, hidle⟩ (fun k => (has_iff hctx k).symm)
      hunopened (fun s' k' => ?_) rfl rfl rfl
    refine has_setSlot.trans ?_
    by_cases heq : s' = s
    · subst heq
      rw [if_pos rfl]
      exact ⟨fun hk => (nomatch hk), fun hk => absurd rfl hk.2⟩
    · rw [if_neg heq]
      exact ⟨fun hk => ⟨hk, heq⟩, And.left⟩

variable {m' : ModuleContext τ}

/-- A route is inserted. -/
theorem registerSession_moves (hopening : m.pending t = .opening s k)
    (h : m.registerSession k s = .ok m') :
    RouteMove (routesOf m) (routesOf (m'.reply t (.ok (some k)))) t := by
  unfold registerSession at h
  split_ifs at h
  obtain rfl := Except.ok.inj h
  refine .registered s k _ hopening rfl (funext fun k' => ?_) rfl rfl
  rw [update_apply]
  exact mapGet_mapInsert m.sessionSlots k s k'

/-- A new handle is not routed yet. -/
theorem registerSession_refused {error : Rv} (hopening : m.pending t = .opening s k)
    (h : m.registerSession k s = .error error) (v' : Routes τ) : RouteMove (routesOf m) v' t := by
  refine .refused s k hopening ?_
  unfold registerSession at h
  split_ifs at h with hslot hrouted
  · refine .inr ?_
    rintro k' ⟨ctx, hctx, -⟩
    have hknown := mapHas_iff.mpr (mem_keys_of_mem (mapGet_mem hctx))
    rw [hslot] at hknown
    cases hknown
  · refine .inl fun hnone => ?_
    exact absurd (mapHas_iff.mp hrouted) (mapGet_eq_none_iff.mp hnone)

/-- Routes are removed. -/
theorem mapGet_foldl_mapRemove (handles : List SessionHandle) (k : SessionHandle) :
    ∀ routes : List (SessionHandle × Ulong), mapGet (handles.foldl mapRemove routes) k =
      if k ∈ handles then none else mapGet routes k := by
  induction handles with
  | nil => exact fun _ => rfl
  | cons handle handles ih =>
    intro routes
    rw [List.foldl_cons, ih, mapGet_mapRemove]
    by_cases heq : k = handle
    · rw [if_pos heq, ite_self, if_pos (List.mem_cons.mpr (.inl heq))]
    · rw [if_neg heq]
      refine if_congr ?_ rfl rfl
      exact ⟨fun hmem => List.mem_cons_of_mem _ hmem,
        fun hmem => (List.mem_cons.mp hmem).resolve_left heq⟩

/-- The thread of a section. -/
def eventThread : RoutingEvent τ → τ
  | .openSession thread _ _ _ _ => thread
  | .register thread => thread
  | .withdraw thread _ => thread
  | .closeSession thread _ => thread
  | .closeSection thread _ _ => thread
  | .closeAllSessions thread _ _ _ => thread
  | .unregister thread => thread

/-- No slot section of `C_CloseAllSessions` falls between the two sections of a `C_OpenSession` on
the same slot. -/
def UndisturbedOpen (m : ModuleContext τ) : RoutingEvent τ → Prop
  | .closeAllSessions _ slot _ _ => ∀ thread handle, m.pending thread ≠ .opening slot handle
  | _ => True

/-- **Every section is one of the moves.** -/
theorem step_moves {event : RoutingEvent τ} (h : m.step event = some m')
    (hundisturbed : UndisturbedOpen m event) :
    RouteMove (routesOf m) (routesOf m') (eventThread event) := by
  unfold step at h
  cases event with
  | openSession t s flags answers entry =>
    dsimp only at h
    split at h
    · rename_i last hidle
      obtain rfl := Option.some.inj h
      exact openSection_moves hidle s flags answers entry
    · cases h
  | register t =>
    dsimp only at h
    split at h
    · rename_i s k hopening
      cases hregister : m.registerSession k s with
      | ok m₁ =>
        rw [hregister] at h
        obtain rfl := Option.some.inj h
        exact registerSession_moves hopening hregister
      | error error => exact registerSession_refused hopening hregister _
    · cases h
  | withdraw t entry =>
    dsimp only at h
    split at h
    · rename_i s k error hwithdraw
      exact .withdrawn s k error hwithdraw
    · cases h
  | closeSession t k =>
    dsimp only at h
    split at h
    · rename_i last hidle
      unfold sessionSlotContext at h
      cases hroute : mapGet m.sessionSlots k with
      | none =>
        rw [hroute] at h
        obtain rfl := Option.some.inj h
        exact .replied _ (.inl ⟨last, hidle⟩) rfl rfl rfl rfl
      | some s =>
        rw [hroute] at h
        dsimp only at h
        split_ifs at h
        · obtain rfl := Option.some.inj h
          exact .found s k ⟨last, hidle⟩ hroute rfl rfl rfl rfl
        · obtain rfl := Option.some.inj h
          exact .replied _ (.inl ⟨last, hidle⟩) rfl rfl rfl rfl
    · cases h
  | closeSection t answers entry =>
    dsimp only at h
    split at h
    · rename_i s k hclosing
      obtain rfl := Option.some.inj h
      exact closeSection_moves hclosing answers entry
    · cases h
  | closeAllSessions t s answers entry =>
    dsimp only at h
    split at h
    · rename_i last hidle
      obtain rfl := Option.some.inj h
      exact closeAllSection_moves hidle hundisturbed answers entry
    · cases h
  | unregister t =>
    dsimp only at h
    split at h
    · rename_i handles result hunregistering
      obtain rfl := Option.some.inj h
      exact .unregistered handles result _ hunregistering rfl
        (fun k => mapGet_foldl_mapRemove handles k m.sessionSlots) rfl rfl
    · cases h

/-! ## Runs -/

omit [DecidableEq τ] in
/-- A new module has no routes. -/
theorem routingInvariant_fresh (h : m.Fresh) : RoutingInvariant (routesOf m) := by
  have hnone : ∀ s k, ¬ (routesOf m).has s k := by
    rintro s k ⟨ctx, hctx, hk⟩
    unfold IsOpen at hk
    rw [h.sessions (s, ctx) (mapGet_mem hctx)] at hk
    cases hk
  have hroute : ∀ k, (routesOf m).route k = none := by
    intro k
    unfold routesOf
    rw [h.routes]
    rfl
  constructor
  · exact fun s k hk => absurd hk (hnone s k)
  · intro k s hk
    rw [hroute] at hk
    cases hk
  · intro t k hk
    obtain ⟨reply, hidle⟩ := h.quiet t
    have hpending : (routesOf m).pending t = .idle reply := hidle
    rw [hpending] at hk
    cases hk
  · exact fun s _ k hk => absurd hk (hnone s k)
  · intro t s k hopen
    obtain ⟨reply, hidle⟩ := h.quiet t
    exact absurd (hidle.symm.trans hopen) nofun
  · intro t s k e hwithdraw
    obtain ⟨reply, hidle⟩ := h.quiet t
    exact absurd (hidle.symm.trans hwithdraw) nofun
  · exact fun s k hk => absurd hk (hnone s k)
  · intro k s hk
    rw [hroute] at hk
    cases hk
  · exact fun t handles result _ k _ s => hnone s k

/-- **Routes and sessions are the same whenever no call is in progress**, for any number of threads
and any interleaving in which no `C_CloseAllSessions` disturbs a `C_OpenSession`. -/
theorem session_routes_match (start m : ModuleContext τ) (hstart : start.Fresh)
    (events : List (RoutingEvent τ)) (hevents : Along ModuleContext.step UndisturbedOpen start events)
    (hrun : run ModuleContext.step start events = some m) (hquiet : m.Quiet) (slot : Ulong)
    (handle : SessionHandle) :
    mapGet m.sessionSlots handle = some slot ↔
      ∃ ctx, mapGet m.slots slot = some ctx ∧ handle ∈ keys ctx.sessions := by
  have hinv : RoutingInvariant (routesOf m) :=
    run_induction (fun m => RoutingInvariant (routesOf m))
      (fun _ _ _ hm hevent hstep => (step_moves hstep hevent).invariant hm) events start m
      (routingInvariant_fresh hstart) hevents hrun
  exact hinv.routes_eq hquiet slot handle

end Steps

/-! ### Two threads -/

/-- A module with one slot and two threads. -/
def oneSlot : ModuleContext Bool where
  slots := [(1, SlotContext.new 1 1 1)]
  sessionSlots := []
  nextSession := 1
  pending := fun _ => .idle none

/-- The module of the example is new. -/
theorem oneSlot_fresh : oneSlot.Fresh :=
  ⟨by decide, rfl, fun _ => ⟨none, rfl⟩⟩

/-- The sections of a `C_OpenSession`. -/
def openSlot : RoutingEvent Bool := .openSession true 1 {} {} (.ok ())

/-- The sections of a `C_CloseAllSessions` of the other thread. -/
def closeSlot : List (RoutingEvent Bool) :=
  [.closeAllSessions false 1 { listing := noListing } (.ok ()), .unregister false]

/-- A `C_CloseAllSessions` runs between the two sections of a `C_OpenSession`. -/
def disturbedOpen : List (RoutingEvent Bool) := openSlot :: closeSlot ++ [.register true]

/-- A session is opened and closed again, and before its route is gone the next one is opened. -/
def overlappingOpen : List (RoutingEvent Bool) :=
  [openSlot, .register true, .closeAllSessions false 1 { listing := noListing } (.ok ()), openSlot,
    .unregister false, .register true]

/-- The threads, the routes and the sessions at the end of a run. -/
structure RunEnd where
  opener : Pending
  closer : Pending
  routes : List (SessionHandle × Ulong)
  sessions : List (List (SessionHandle × SessionContext))
  deriving DecidableEq

/-- The end of a run of the two threads. -/
def endOf (events : List (RoutingEvent Bool)) : Option RunEnd :=
  (run ModuleContext.step oneSlot events).map fun m =>
    ⟨m.pending true, m.pending false, m.sessionSlots, m.slots.map fun entry => entry.2.sessions⟩

/-- What an evaluated run says about its last state. -/
theorem endOf_eq {events : List (RoutingEvent Bool)} {last : RunEnd} (h : endOf events = some last) :
    ∃ m, run step oneSlot events = some m ∧ m.pending true = last.opener ∧
      m.pending false = last.closer ∧ m.sessionSlots = last.routes ∧
      (m.slots.map fun entry => entry.2.sessions) = last.sessions := by
  obtain ⟨m, hrun, rfl⟩ := Option.map_eq_some_iff.mp h
  exact ⟨m, hrun, rfl, rfl, rfl, rfl⟩

/-- Both threads are idle. -/
theorem quiet_of_idle {m : ModuleContext Bool} {p q : Option SessionReply}
    (hp : m.pending true = .idle p) (hq : m.pending false = .idle q) : m.Quiet := by
  intro thread
  cases thread with
  | true => exact ⟨p, hp⟩
  | false => exact ⟨q, hq⟩

/-- The handle that `C_OpenSession` has returned is routed to the slot, which has no sessions. -/
theorem closed_session_stays_routed :
    ∃ m, run ModuleContext.step oneSlot disturbedOpen = some m ∧ m.Quiet ∧
      m.pending true = .idle (some (.ok (some 1))) ∧ mapGet m.sessionSlots 1 = some 1 ∧
      ∀ entry ∈ m.slots, entry.2.sessions = [] := by
  have hend : endOf disturbedOpen =
      some ⟨.idle (some (.ok (some 1))), .idle (some (.ok none)), [(1, 1)], [[]]⟩ := by
    decide +kernel
  obtain ⟨m, hrun, hp, hq, hroutes, hsessions⟩ := endOf_eq hend
  refine ⟨m, hrun, quiet_of_idle hp hq, hp, ?_, fun entry hentry => ?_⟩
  · rw [hroutes]
    rfl
  · have hmem : entry.2.sessions ∈ m.slots.map fun entry => entry.2.sessions :=
      List.mem_map.mpr ⟨entry, hentry, rfl⟩
    rw [hsessions] at hmem
    exact List.mem_singleton.mp hmem

/-- Whether no thread is in `C_OpenSession` when all sessions are closed. -/
def noneOpening (m : ModuleContext Bool) : RoutingEvent Bool → Bool
  | .closeAllSessions _ _ _ _ => [true, false].all fun thread =>
      match m.pending thread with
      | .opening _ _ => false
      | _ => true
  | _ => true

/-- The check implies the condition. -/
theorem undisturbedOpen_of_noneOpening {m : ModuleContext Bool} {event : RoutingEvent Bool}
    (h : noneOpening m event = true) : UndisturbedOpen m event := by
  cases event with
  | closeAllSessions thread slot answers entry =>
    intro opener handle hopening
    have hopener := List.all_eq_true.mp h opener (by cases opener <;> decide)
    simp only [hopening] at hopener
    cases hopener
  | _ => trivial

/-- The calls overlap, and the second session is left with its route. -/
theorem session_routes_match_overlapping :
    ∃ m, run ModuleContext.step oneSlot overlappingOpen = some m ∧ m.Quiet ∧
      m.sessionSlots = [(2, 1)] ∧
      ∀ slot handle, mapGet m.sessionSlots handle = some slot ↔
        ∃ ctx, mapGet m.slots slot = some ctx ∧ handle ∈ keys ctx.sessions := by
  have hend : endOf overlappingOpen =
      some ⟨.idle (some (.ok (some 2))), .idle (some (.ok none)), [(2, 1)],
        [[(2, { readWrite := false })]]⟩ := by
    decide +kernel
  obtain ⟨m, hrun, hp, hq, hroutes, -⟩ := endOf_eq hend
  have hquiet := quiet_of_idle hp hq
  have hundisturbed : Along ModuleContext.step UndisturbedOpen oneSlot overlappingOpen :=
    along_of_alongAll (fun _ => True) (fun _ _ _ _ _ _ => trivial)
      (fun _ _ _ hcheck => undisturbedOpen_of_noneOpening hcheck) trivial (by decide +kernel)
  exact ⟨m, hrun, hquiet, hroutes,
    session_routes_match oneSlot m oneSlot_fresh overlappingOpen hundisturbed hrun hquiet⟩

end Pkcs11rs.Analysis
