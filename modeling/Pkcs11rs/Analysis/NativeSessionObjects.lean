import Pkcs11rs.Library.Runs
import Pkcs11rs.Model.NativeSessionObjects

/-!
# Native session objects and their secure session

While sessions are not recreated and native session objects are private, an object goes with the secure
session that returned its handle (`NativeInvariant`): a call sees it only while that session is there, and
the next login clears it before there is a new one.  So every handle is sent over the session that returned
it, no two objects have the same handle, and none is found after its session is lost
(`native_handles_stay_with_session`).

Both conditions are needed (`native_handle_leaves_session`): a recreated session gets the command again
with the handle of the old one, and an object that is not private is there after a new login.
-/

set_option autoImplicit false

namespace Pkcs11rs.Analysis

open Pkcs11rs.Library Pkcs11rs.Model NativeSlot SessionCell NativeObject

variable {session : ℕ} {carried : List DeviceHandle} {native : DeviceHandle}

/-! ### The invariant -/

/-- The handle belongs to the secure session that is there, if there is one. -/
def BelongsTo (s : NativeSlot) (native : DeviceHandle) : Prop :=
  ∀ session, s.currentSession = some session → native.origin = session

/-- What holds after every call. -/
@[grind cases]
structure NativeInvariant (s : NativeSlot) : Prop where
  noRecipe : s.recreateSessions = false ∧
    ∀ session role native recreate, s.cell = .active session role native recreate →
      recreate = false ∧ session < s.nextSession
  issued : ∀ native ∈ s.issued, native.origin < s.nextSession
  recorded : s.cell.isUser = true → s.loginRole = true
  cleared : s.loginRole = false → s.objects = [] ∧ ∀ entry ∈ s.sessions, entry.2 = none
  handles : (keys s.objects).Nodup ∧ ∀ entry ∈ s.objects, entry.1 < s.nextObject
  objects : ∀ entry ∈ s.objects, entry.2.private_ = true ∧ entry.2.token = false ∧
    entry.2.native ∈ s.issued
  verifies : ∀ entry ∈ s.sessions, ∀ operation, entry.2 = some operation →
    operation.requiresLogin = true
  current : s.cell.isUser = true → (∀ entry ∈ s.objects, BelongsTo s entry.2.native) ∧
    ∀ entry ∈ s.sessions, ∀ operation, entry.2 = some operation → BelongsTo s operation.native
  oneOrigin : ∃ origin, ∀ entry ∈ s.objects, entry.2.native.origin = origin
  distinct : ∀ first ∈ s.objects, ∀ second ∈ s.objects,
    first.2.native = second.2.native → first.1 = second.1
  sent : ∀ entry ∈ s.sent, entry.session = entry.native.origin

/-- A new slot has no native objects. -/
theorem nativeInvariant_initial : NativeInvariant (.initial false) := by
  constructor
  case oneOrigin => exact ⟨0, by simp [initial]⟩
  all_goals grind [initial, isUser, keys]

section Calls

variable {s s' : NativeSlot}

/-! ### What a command does -/

/-- The slot after a command: its session is there or lost, and the handles went over that session. -/
structure Sends (s : NativeSlot) (carried : List DeviceHandle) (s' : NativeSlot) : Prop where
  fields : ∃ cell sent, s' = { s with cell := cell, sent := s.sent ++ sent } ∧
    (cell = s.cell ∨ cell = .loggedOut ∨ cell = .invalidatedUser) ∧
      ∀ entry ∈ sent, entry.native ∈ carried ∧ s.currentSession = some entry.session

/-- A command is sent. -/
theorem send_sends (hs : NativeInvariant s) (carried : List DeviceHandle)
    (exchange : Exchange) : Sends s carried (s.send carried exchange).1 := by
  have hnothing : Sends s carried s := by
    refine ⟨s.cell, [], ?_, .inl rfl, ?_⟩
    · rw [List.append_nil]
    · intro entry hmem
      cases hmem
  unfold send
  cases hcell : s.cell with
  | loggedOut | invalidatedUser => exact hnothing
  | active session role native recreate =>
    have hrecreate : recreate = false := (hs.noRecipe.2 _ _ _ _ hcell).1
    have hcurrent : s.currentSession = some session := by
      rw [currentSession, hcell]
    have hlogged : ∀ entry ∈ carried.map fun native => (⟨session, native⟩ : SentHandle),
        entry.native ∈ carried ∧ s.currentSession = some entry.session := by simp [*]
    have hlost : Sends s carried { s.log session carried with cell := .lost role } := by
      exact ⟨.lost role, _, rfl, .inr (by cases role <;> simp [lost]), hlogged⟩
    cases exchange.first with
    | refused => exact hnothing
    | answered ok =>
      exact ⟨s.cell, _, rfl, .inl rfl, hlogged⟩
    | broken => exact hlost
    | expired => simp [*]

/-- A command whose handles belong to the session keeps the invariant. -/
theorem NativeInvariant.sends (hs : NativeInvariant s) (hsends : Sends s carried s')
    (hbelongs : ∀ native ∈ carried, BelongsTo s native) : NativeInvariant s' := by
  obtain ⟨cell, sent, rfl, hcell, hsent⟩ := hsends
  have huser : cell.isUser = true → cell = s.cell := by
    intro htrue
    rcases hcell with rfl | rfl | rfl
    · rfl
    · cases htrue
    · cases htrue
  have hbelongs' : ∀ native, BelongsTo s native →
      BelongsTo { s with cell := cell, sent := s.sent ++ sent } native := by
    grind [BelongsTo, currentSession]
  constructor
  case oneOrigin => exact hs.oneOrigin
  all_goals grind [BelongsTo]

/-- After a command a handle still belongs to the session. -/
theorem BelongsTo.sends (h : BelongsTo s native) (hsends : Sends s carried s') :
    BelongsTo s' native := by
  obtain ⟨cell, sent, rfl, hcell, -⟩ := hsends
  grind [BelongsTo, currentSession]

/-- A command over handles that belong to the session. -/
theorem NativeInvariant.send (hs : NativeInvariant s)
    (hbelongs : ∀ native ∈ carried, BelongsTo s native) (exchange : Exchange) :
    NativeInvariant (s.send carried exchange).1 :=
  hs.sends (send_sends hs carried exchange) hbelongs

/-! ### Visible objects -/

/-- Who is logged in. -/
theorem loggedIn_iff : s.loggedIn = true ↔ s.loginRole = true ∧ s.cell.isUser = true := by
  rw [loggedIn, Bool.and_eq_true]

/-- An object that a call finds is private, so the user is logged in and it belongs to the session. -/
theorem NativeInvariant.resolved (hs : NativeInvariant s) {object : ℕ}
    {stored : NativeObject} (h : s.resolve object = some stored) :
    (object, stored) ∈ s.objects ∧ s.loggedIn = true ∧ BelongsTo s stored.native := by
  obtain ⟨hget, hvisible⟩ := Option.filter_eq_some_iff.mp h
  grind [mapGet_mem, loggedIn_iff]

/-- There is a current session whenever a private object is visible. -/
theorem currentSession_of_loggedIn (h : s.loggedIn = true) :
    ∃ session, s.currentSession = some session := by
  have huser := (loggedIn_iff.mp h).2
  unfold currentSession
  cases hcell : s.cell with
  | loggedOut | invalidatedUser => rw [hcell] at huser; cases huser
  | active session role native recreate => exact ⟨session, rfl⟩

/-- The session that is there has a number that was given. -/
theorem currentSession_lt (hs : NativeInvariant s) (h : s.currentSession = some session) :
    session < s.nextSession := by
  grind [currentSession]

/-! ### Clearing -/

section

variable (hs : NativeInvariant s)

include hs

/-- All native objects are private session objects. -/
theorem filter_private :
    s.objects.filter (fun entry => entry.2.token || !entry.2.private_) = [] := by
  refine List.filter_eq_nil_iff.mpr ?_
  intro entry hmem
  obtain ⟨hprivate, htoken, -⟩ := hs.objects entry hmem
  simp [hprivate, htoken]

/-- Without a session for a user, whatever session there is or is not. -/
theorem NativeInvariant.closed {cell : SessionCell}
    (hcell : cell = .loggedOut ∨ cell = .invalidatedUser) :
    NativeInvariant { s with cell := cell } := by
  have hsends : Sends s [] { s with cell := cell } := by
    refine ⟨cell, [], ?_, .inr hcell, ?_⟩
    · rw [List.append_nil]
    · intro entry hmem
      cases hmem
  refine hs.sends hsends ?_
  intro native hmem
  cases hmem

/-- The secure session is closed. -/
theorem NativeInvariant.closeActiveSession : NativeInvariant s.closeActiveSession :=
  hs.closed (.inl rfl)

/-- Clearing the login removes every native object and every operation. -/
theorem NativeInvariant.clearLoginState (huser : s.cell.isUser = false) :
    NativeInvariant s.clearLoginState := by
  have hobjects : s.clearLoginState.objects = [] := filter_private hs
  constructor
  case oneOrigin => exact ⟨0, by simp [hobjects]⟩
  all_goals grind [keys, clearLoginState]

/-- It is closed and the login ends. -/
theorem NativeInvariant.closeAndClear : NativeInvariant s.closeActiveSession.clearLoginState :=
  hs.closeActiveSession.clearLoginState rfl

/-- A lost login is noticed. -/
theorem NativeInvariant.reconcile : NativeInvariant s.reconcile := by
  unfold NativeSlot.reconcile
  split_ifs
  · exact hs.closeAndClear
  · exact hs

end

/-- After a comparison a recorded login has its session. -/
theorem reconcile_recorded (s : NativeSlot) :
    s.reconcile.loginRole = true → s.reconcile.cell.isUser = true := by
  grind [reconcile, clearLoginState]

/-! ### Objects and operations -/

/-- An entry after an insertion. -/
theorem mem_mapInsert_cases {κ α : Type} [DecidableEq κ] {m : List (κ × α)} {k : κ} {v : α}
    {p : κ × α} (h : p ∈ mapInsert m k v) : p = (k, v) ∨ p ∈ m := by
  rcases List.mem_cons.mp h with heq | hmem
  · exact .inl heq
  · exact .inr (mapRemove_subset m k hmem)

section

variable (hs : NativeInvariant s)

include hs

/-- A new object with a handle that the session has just returned. -/
theorem NativeInvariant.insert (hlogged : s.loggedIn = true)
    (hcurrent : s.currentSession = some native.origin) (hfresh : native ∉ s.issued)
    (creator : Option ℕ) : NativeInvariant
      (NativeSlot.insert { s with issued := native :: s.issued } ⟨native, false, true, creator⟩) := by
  obtain ⟨hrole, huser⟩ := loggedIn_iff.mp hlogged
  have hcases : ∀ entry ∈ mapInsert s.objects s.nextObject (⟨native, false, true, creator⟩ :
      NativeObject), entry = (s.nextObject, ⟨native, false, true, creator⟩) ∨ entry ∈ s.objects :=
    fun entry hmem => mem_mapInsert_cases hmem
  have horigin := currentSession_lt hs hcurrent
  have hkeys := nodup_keys_mapInsert hs.handles.1 s.nextObject ⟨native, false, true, creator⟩
  have hbelongs : ∀ other : DeviceHandle, BelongsTo s other ↔ other.origin = native.origin := by
    grind [BelongsTo]
  have hsame : ∀ other : DeviceHandle, BelongsTo (NativeSlot.insert { s with issued := native :: s.issued }
      ⟨native, false, true, creator⟩) other ↔ BelongsTo s other := fun _ => Iff.rfl
  -- the new handle is not one of those that the objects have
  constructor
  case oneOrigin => exact ⟨native.origin, by grind [NativeSlot.insert]⟩
  all_goals grind [NativeSlot.insert]

/-- Fewer objects. -/
theorem NativeInvariant.fewer {objects : List (ℕ × NativeObject)} (hsub : objects.Sublist s.objects) :
    NativeInvariant { s with objects := objects } := by
  have hsubset := hsub.subset
  obtain ⟨origin, horigin⟩ := hs.oneOrigin
  constructor
  case oneOrigin => exact ⟨origin, fun entry hmem => horigin entry (hsubset hmem)⟩
  case cleared =>
    intro hnone
    obtain ⟨hobjects, hsessions⟩ := hs.cleared hnone
    exact ⟨List.sublist_nil.mp (hobjects ▸ hsub), hsessions⟩
  all_goals grind [BelongsTo, keys, currentSession]

/-- An object is removed. -/
theorem NativeInvariant.remove (object : ℕ) : NativeInvariant (s.remove object) :=
  hs.fewer List.filter_sublist

/-- Other operations: each is new and belongs to the session, or was there. -/
theorem NativeInvariant.withSessions {sessions : List (ℕ × Option NativeVerify)}
    (hsessions : ∀ entry ∈ sessions, entry ∈ s.sessions ∨ entry.2 = none ∨
      ∃ operation, entry.2 = some operation ∧ operation.requiresLogin = true ∧
        s.loggedIn = true ∧ BelongsTo s operation.native) :
    NativeInvariant { s with sessions := sessions } := by
  constructor
  case oneOrigin => exact hs.oneOrigin
  all_goals grind [BelongsTo, currentSession, loggedIn_iff]

/-- An operation ends. -/
theorem NativeInvariant.setVerify_none (session : ℕ) :
    NativeInvariant (s.setVerify session none) := by
  refine hs.withSessions ?_
  simp_all

end

/-! ### The calls -/

/-- The device does not return a handle twice in one secure session. -/
def FreshHandle (s : NativeSlot) (handle : UInt64) : Prop :=
  ∀ native ∈ s.issued, s.currentSession = some native.origin → native.handle ≠ handle

/-- Native objects are private. -/
def Confined (s : NativeSlot) : NativeEvent → Prop
  | .create _ _ private_ _ handle _ => private_ = true ∧ FreshHandle s handle
  | _ => True

/-- A native object is not copied. -/
theorem copy_refused (s : NativeSlot) (session object : ℕ) (readWrite : Bool)
    (token private_ : Option Bool) : s.copy session object readWrite token private_ = s := by
  grind [copy, copyable]

/-- A session that is there after a command was there before it. -/
theorem Sends.same (h : Sends s carried s') (hcurrent : s'.currentSession = some session) :
    s'.cell = s.cell ∧ s'.loginRole = s.loginRole ∧ s'.issued = s.issued ∧
      s.currentSession = some session := by
  obtain ⟨cell, sent, rfl, rfl | rfl | rfl, -⟩ := h
  · exact ⟨rfl, rfl, rfl, hcurrent⟩
  · cases hcurrent
  · cases hcurrent

section

variable (hs : NativeInvariant s)

include hs

/-- The device returns a handle. -/
theorem NativeInvariant.issue (hcurrent : s.currentSession = some native.origin) :
    NativeInvariant { s with issued := native :: s.issued } := by
  have horigin := currentSession_lt hs hcurrent
  exact { hs with issued := by grind, objects := by grind }

/-- An object is published. -/
theorem NativeInvariant.publish (hlogged : s.loggedIn = true)
    (hcurrent : s.currentSession = some native.origin) (hfresh : native ∉ s.issued) (session : ℕ)
    (publication : NativeSlot.Publication) : NativeInvariant
      (publish { s with issued := native :: s.issued } session true native publication) := by
  have hissued := hs.issue hcurrent
  have hbelongs : ∀ other ∈ [native], BelongsTo { s with issued := native :: s.issued } other := by
    intro other hmem
    cases List.mem_singleton.mp hmem
    intro current hthere
    exact Option.some.inj (hcurrent.symm.trans hthere)
  cases publication with
  | discard delete => exact hissued.send hbelongs delete
  | software read delete =>
    have hread := send_sends hissued [native] read
    exact (hissued.sends hread hbelongs).send
      (fun other hmem => (hbelongs other hmem).sends hread) delete
  | native => exact hs.insert hlogged hcurrent hfresh (some session)

/-- An object is created. -/
theorem NativeInvariant.create {handle : UInt64} (hfresh : FreshHandle s handle) (session : ℕ)
    (sources : List ℕ) (exchange : Exchange) (publication : NativeSlot.Publication) :
    NativeInvariant (s.create session sources true exchange handle publication) := by
  unfold NativeSlot.create
  split_ifs with hguard
  · obtain ⟨-, hprivate, -⟩ := hguard
    have hlogged : s.loggedIn = true := hprivate rfl
    have hbelongs : ∀ native ∈ (sources.filterMap s.resolve).map NativeObject.native,
        BelongsTo s native := by
      intro native hmem
      obtain ⟨stored, hstored, rfl⟩ := List.mem_map.mp hmem
      obtain ⟨source, -, hresolved⟩ := List.mem_filterMap.mp hstored
      exact (hs.resolved hresolved).2.2
    have hsends := send_sends hs ((sources.filterMap s.resolve).map NativeObject.native) exchange
    have hafter := hs.sends hsends hbelongs
    revert hsends hafter
    cases s.send ((sources.filterMap s.resolve).map NativeObject.native) exchange with
    | mk s' ok =>
      intro hsends hafter
      cases ok with
      | false => exact hafter
      | true =>
        dsimp only at hsends hafter ⊢
        cases hcurrent : s'.currentSession with
        | none => exact hafter
        | some origin =>
          obtain ⟨hcell, hrole, hissued, hbefore⟩ := hsends.same hcurrent
          have hlogged' : s'.loggedIn = true := by
            rw [NativeSlot.loggedIn, hcell, hrole]
            exact hlogged
          refine hafter.publish hlogged' hcurrent ?_ session publication
          rw [hissued]
          intro hmem
          exact hfresh _ hmem hbefore rfl
  · exact hs

section

variable (session object : ℕ)

/-- `C_DestroyObject`. -/
theorem NativeInvariant.destroy (permitted : Bool) (exchange : Exchange) :
    NativeInvariant (s.destroy session object permitted exchange) := by
  unfold NativeSlot.destroy
  cases hresolved : s.resolve object with
  | none => exact hs
  | some stored =>
    dsimp only
    split_ifs
    · have hafter : NativeInvariant (s.send [stored.native] exchange).1 := by
        refine hs.send ?_ exchange
        intro native hmem
        cases List.mem_singleton.mp hmem
        exact (hs.resolved hresolved).2.2
      revert hafter
      cases s.send [stored.native] exchange with
      | mk s' ok =>
        intro hafter
        cases ok with
        | true => exact hafter.remove object
        | false => exact hafter
    · exact hs

/-- The value is read. -/
theorem NativeInvariant.getValue (readable : Bool) (exchange : Exchange) :
    NativeInvariant (s.getValue session object readable exchange) := by
  unfold NativeSlot.getValue
  cases hresolved : s.resolve object with
  | none => exact hs
  | some stored =>
    split_ifs
    · refine hs.send ?_ exchange
      intro native hmem
      cases List.mem_singleton.mp hmem
      exact (hs.resolved hresolved).2.2
    · exact hs

/-- `C_VerifyInit`. -/
theorem NativeInvariant.verifyInit : NativeInvariant (s.verifyInit session object) := by
  unfold NativeSlot.verifyInit
  cases hresolved : s.resolve object with
  | none => exact hs
  | some stored =>
    obtain ⟨hmem, hlogged, hbelongs⟩ := hs.resolved hresolved
    split_ifs
    · refine hs.withSessions ?_
      intro entry hentry
      rcases mem_mapInsert_cases hentry with rfl | hold
      · exact .inr (.inr ⟨_, rfl, (hs.objects _ hmem).1, hlogged, hbelongs⟩)
      · exact .inl hold
    · exact hs

end

/-- `C_Verify`. -/
theorem NativeInvariant.verify (session : ℕ) (exchange : Exchange) :
    NativeInvariant (s.verify session exchange) := by
  unfold NativeSlot.verify
  split
  · rename_i operation hget
    have hmem := mapGet_mem hget
    have htaken := hs.setVerify_none session
    dsimp only
    split_ifs with hguard
    · exact htaken.reconcile
    · -- the operation needs a login, so the user is logged in and the handle belongs to the session
      have hlogin := hs.verifies _ hmem operation rfl
      have hlogged : s.loggedIn = true := by
        by_contra hnot
        exact hguard ⟨hlogin, hnot⟩
      refine htaken.send ?_ exchange
      intro native hnative
      cases List.mem_singleton.mp hnative
      exact (hs.current (loggedIn_iff.mp hlogged).2).2 _ hmem operation rfl
  · exact hs

/-- `C_Logout`. -/
theorem NativeInvariant.logout (closed : Bool) : NativeInvariant (s.logout closed) := by
  unfold NativeSlot.logout
  dsimp only
  split_ifs
  · unfold logoutSlot
    split_ifs
    · exact hs.reconcile.closeAndClear
    · exact hs.reconcile.closeActiveSession
  · exact hs.reconcile

/-- A new session, of a user whose slot has nothing from before or of public discovery. -/
theorem NativeInvariant.established {recorded : Bool} {role : YubiHsmSessionRole}
    (hrole : (role = .user ∧ recorded = true ∧ s.loginRole = false) ∨
      (role = .publicDiscovery ∧ recorded = s.loginRole)) (native : Bool) : NativeInvariant
      { s with
        cell := .active s.nextSession role native s.recreateSessions
        nextSession := s.nextSession + 1
        loginRole := recorded } := by
  have huser : (active s.nextSession role native s.recreateSessions).isUser = true →
      role = .user := by cases role <;> simp [isUser]
  constructor
  case oneOrigin => exact hs.oneOrigin
  all_goals grind

/-- `C_Login`. -/
theorem NativeInvariant.login (authenticated native refreshed : Bool) :
    NativeInvariant (s.login authenticated native refreshed) := by
  unfold NativeSlot.login
  dsimp only
  -- the recorded login was compared with the session, so there is none
  have hnone : ¬ s.reconcile.loggedIn = true → s.reconcile.loginRole = false := by
    grind [loggedIn_iff, reconcile_recorded]
  split_ifs with hlogged hauth hrefreshed
  · exact hs.reconcile
  · exact hs.reconcile.closeActiveSession.established (.inl ⟨rfl, rfl, hnone hlogged⟩) native
  · exact (hs.reconcile.closeActiveSession.established (.inl ⟨rfl, rfl, hnone hlogged⟩) native).closeAndClear
  · exact hs.reconcile.closeActiveSession

/-- The last session goes. -/
theorem NativeInvariant.logoutLast : NativeInvariant s.logoutLast := by
  unfold NativeSlot.logoutLast
  split_ifs
  · exact hs.closeAndClear
  · exact hs

/-- The deletions of a session that is closed; each may lose the secure session. -/
theorem NativeInvariant.deleteCreated {created : List (ℕ × DeviceHandle)}
    (hbelongs : ∀ entry ∈ created, BelongsTo s entry.2) (exchanges : List Exchange) :
    NativeInvariant (s.deleteCreated created exchanges) := by
  induction created generalizing s exchanges with
  | nil => exact hs
  | cons entry created ih =>
    obtain ⟨object, native⟩ := entry
    have hsends := send_sends hs [native] (exchanges.headD ⟨.broken, false, .broken⟩)
    have hafter := hs.sends hsends (by
      intro other hmem
      cases List.mem_singleton.mp hmem
      exact hbelongs _ List.mem_cons_self)
    refine ih (hafter.remove object) ?_ exchanges.tail
    intro later hmem
    have hlater := (hbelongs later (List.mem_cons_of_mem _ hmem)).sends hsends
    exact hlater

/-- After a comparison the objects belong to the session. -/
theorem NativeInvariant.belongs (hrecorded : s.loginRole = true → s.cell.isUser = true)
    {entry : ℕ × NativeObject} (hmem : entry ∈ s.objects) : BelongsTo s entry.2.native := by
  cases hrole : s.loginRole with
  | false =>
    rw [(hs.cleared hrole).1] at hmem
    cases hmem
  | true => exact (hs.current (hrecorded hrole)).1 entry hmem

end

/-- The recorded login stays true. -/
theorem logoutLast_recorded (h : s.loginRole = true → s.cell.isUser = true) : s.logoutLast.loginRole
    = true → s.logoutLast.cell.isUser = true := by
  grind [logoutLast, clearLoginState]

section

variable (hs : NativeInvariant s)

include hs

/-- `C_CloseSession`. -/
theorem NativeInvariant.closeSession (session : ℕ) (deletions : List Exchange) :
    NativeInvariant (s.closeSession session deletions) := by
  unfold NativeSlot.closeSession
  by_cases hopen : mapHas s.sessions session = true
  · rw [if_pos hopen]
    dsimp only
    generalize hlast : (if (s.reconcile.sessions.all fun entry => entry.1 = session) = true then
      s.reconcile.logoutLast else s.reconcile) = last
    obtain ⟨hlogout, hrecorded⟩ : NativeInvariant last ∧
        (last.loginRole = true → last.cell.isUser = true) := by
      subst hlast
      split_ifs
      · exact ⟨hs.reconcile.logoutLast, logoutLast_recorded (reconcile_recorded s)⟩
      · exact ⟨hs.reconcile, reconcile_recorded s⟩
    refine (hlogout.withSessions fun entry hmem =>
      .inl (mapRemove_subset _ session hmem)).deleteCreated ?_ deletions
    intro entry hmem
    obtain ⟨object, hobject, rfl⟩ := List.mem_map.mp hmem
    exact hlogout.belongs hrecorded (List.mem_of_mem_filter hobject)
  · rw [if_neg hopen]
    exact hs

/-- `C_CloseAllSessions`. -/
theorem NativeInvariant.closeAllSessions : NativeInvariant s.closeAllSessions := by
  have hfewer := hs.reconcile.logoutLast.fewer (List.filter_sublist
    (p := fun entry => entry.2.creator.all fun c => !mapHas s.reconcile.logoutLast.sessions c))
  refine hfewer.withSessions ?_
  intro entry hmem
  cases hmem

/-- A read session is opened. -/
theorem NativeInvariant.ensureReadSession (opened : Bool) :
    NativeInvariant (s.ensureReadSession opened) := by
  unfold NativeSlot.ensureReadSession
  split
  · exact hs
  · exact hs.closeActiveSession
  · split_ifs
    · exact hs.established (.inr ⟨rfl, rfl⟩) false
    · exact hs

/-- The connector reconnects. -/
theorem NativeInvariant.reconnected : NativeInvariant s.reconnected := by
  unfold NativeSlot.reconnected
  split_ifs
  · exact hs.closed (.inr rfl)
  · exact hs.closed (.inl rfl)

/-- One call. -/
theorem NativeInvariant.step {event : NativeEvent} (hevent : Confined s event) :
    NativeInvariant (s.step event) := by
  cases event with
  | openSession session =>
    change NativeInvariant (s.openSession session)
    unfold openSession
    split_ifs
    · exact hs
    · exact hs.reconcile.setVerify_none session
  | create session sources private_ exchange handle publication =>
    obtain ⟨rfl, hfresh⟩ := hevent
    exact hs.create hfresh session sources exchange publication
  | copy session object readWrite token private_ =>
    change NativeInvariant (s.copy session object readWrite token private_)
    rwa [copy_refused]
  | destroy session object permitted exchange => exact hs.destroy session object permitted exchange
  | getValue session object readable exchange => exact hs.getValue session object readable exchange
  | verifyInit session object => exact hs.verifyInit session object
  | verify session exchange => exact hs.verify session exchange
  | logout closed => exact hs.logout closed
  | login authenticated native refreshed => exact hs.login authenticated native refreshed
  | closeSession session deletions => exact hs.closeSession session deletions
  | closeAllSessions => exact hs.closeAllSessions
  | reconcile => exact hs.reconcile
  | ensureReadSession opened => exact hs.ensureReadSession opened
  | command exchange =>
    refine hs.send ?_ exchange
    intro native hmem
    cases hmem
  | reconnected => exact hs.reconnected

end

end Calls

/-! ### Runs -/

/-- The slot as a system. -/
def nativeStep (s : NativeSlot) (event : NativeEvent) : Option NativeSlot := some (s.step event)

/-- **Native handles stay with their secure session.**  While sessions are not recreated and native objects
are private, every handle is sent over the session that returned it, no two objects have the same handle,
and an object that a call finds belongs to the session that is there. -/
theorem native_handles_stay_with_session (events : List NativeEvent) (s : NativeSlot)
    (hconfined : Along nativeStep Confined (.initial false) events)
    (hrun : run nativeStep (.initial false) events = some s) :
    (∀ entry ∈ s.sent, entry.session = entry.native.origin) ∧
      (∀ first second a b, mapGet s.objects first = some a → mapGet s.objects second = some b →
        a.native.handle = b.native.handle → first = second) ∧
      ∀ object stored, s.resolve object = some stored →
        s.currentSession = some stored.native.origin := by
  have hs : NativeInvariant s := by
    refine run_induction NativeInvariant ?_ events _ s nativeInvariant_initial hconfined hrun
    intro s event s' hs hevent hstep
    cases hstep
    exact hs.step hevent
  refine ⟨hs.sent, ?_, ?_⟩
  · intro first second a b hfirst hsecond hhandle
    obtain ⟨origin, horigin⟩ := hs.oneOrigin
    have ha := horigin _ (mapGet_mem hfirst)
    have hb := horigin _ (mapGet_mem hsecond)
    refine hs.distinct _ (mapGet_mem hfirst) _ (mapGet_mem hsecond) ?_
    exact DeviceHandle.ext hhandle (ha.trans hb.symm)
  · intro object stored hresolved
    obtain ⟨-, hlogged, hbelongs⟩ := hs.resolved hresolved
    obtain ⟨session, hsession⟩ := currentSession_of_loggedIn hlogged
    rw [hsession, hbelongs session hsession]

/-! ### Runs of a few calls -/

/-- The device answers. -/
def exchanged : Exchange := ⟨.answered true, false, .answered true⟩

/-- The device says that the session is invalid, and the new one answers. -/
def exchangedAgain : Exchange := ⟨.expired, true, .answered true⟩

/-- A session is opened, the user logs in and a key is derived on the device. -/
def derived (private_ : Bool) : List NativeEvent :=
  [.openSession 1, .login true true true, .create 1 [] private_ exchanged 7 .native]

/-- The run of the example meets the condition. -/
theorem derived_confined : Along nativeStep Confined (.initial false) (derived true) := by
  refine ⟨trivial, ?_⟩
  intro s₁ h₁
  cases h₁
  refine ⟨trivial, ?_⟩
  intro s₂ h₂
  cases h₂
  refine ⟨⟨rfl, ?_⟩, ?_⟩
  · intro native hmem
    cases hmem
  · intro s₃ _
    trivial

/-- A derived key whose value is read, and whose session is lost then. -/
theorem native_handles_stay_with_session_expired :
    ∃ s, run nativeStep (.initial false)
        (derived true ++ [.getValue 1 1 true exchanged, .getValue 1 1 true exchangedAgain]) =
          some s ∧
      s.sent = [⟨0, ⟨7, 0⟩⟩, ⟨0, ⟨7, 0⟩⟩] ∧ s.resolve 1 = none ∧
      (∀ entry ∈ s.sent, entry.session = entry.native.origin) ∧
      (∀ first second a b, mapGet s.objects first = some a → mapGet s.objects second = some b →
        a.native.handle = b.native.handle → first = second) ∧
      ∀ object stored, s.resolve object = some stored →
        s.currentSession = some stored.native.origin := by
  obtain ⟨s, hrun, hsent, hresolve⟩ : ∃ s, run nativeStep (.initial false)
      (derived true ++ [.getValue 1 1 true exchanged, .getValue 1 1 true exchangedAgain]) =
        some s ∧ s.sent = [⟨0, ⟨7, 0⟩⟩, ⟨0, ⟨7, 0⟩⟩] ∧ s.resolve 1 = none :=
    ⟨_, rfl, by decide, by decide⟩
  have hconfined : Along nativeStep Confined (.initial false)
      (derived true ++ [.getValue 1 1 true exchanged, .getValue 1 1 true exchangedAgain]) := by
    refine along_append.mpr ⟨derived_confined, ?_⟩
    intro s' _
    exact ⟨trivial, fun s₁ _ => ⟨trivial, fun s₂ _ => trivial⟩⟩
  exact ⟨s, hrun, hsent, hresolve, native_handles_stay_with_session _ s hconfined hrun⟩

/-- A handle goes to another session when the session is recreated, or when the object is not private and
the user logs in again. -/
theorem native_handle_leaves_session :
    (∃ s, run nativeStep (.initial true)
        (derived true ++ [.getValue 1 1 true exchangedAgain]) = some s ∧
      (∃ entry ∈ s.sent, entry.session ≠ entry.native.origin) ∧
      ∃ stored, s.resolve 1 = some stored ∧ s.currentSession ≠ some stored.native.origin) ∧
    ∃ s, run nativeStep (.initial false)
        (derived false ++ [.logout true, .login true true true, .getValue 1 1 true exchanged]) =
          some s ∧
      (∃ entry ∈ s.sent, entry.session ≠ entry.native.origin) ∧
      ∃ stored, s.resolve 1 = some stored ∧ s.currentSession ≠ some stored.native.origin := by
  refine ⟨⟨_, rfl, ⟨⟨1, ⟨7, 0⟩⟩, by decide, by decide⟩, ⟨⟨7, 0⟩, false, true, some 1⟩, ?_⟩,
    ⟨_, rfl, ⟨⟨1, ⟨7, 0⟩⟩, by decide, by decide⟩, ⟨⟨7, 0⟩, false, false, some 1⟩, ?_⟩⟩
  · exact ⟨by decide, by decide⟩
  · exact ⟨by decide, by decide⟩

end Pkcs11rs.Analysis
