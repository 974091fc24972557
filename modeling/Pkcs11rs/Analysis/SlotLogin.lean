import Pkcs11rs.Analysis.SlotMoves

/-!
# Roles and sessions

The login of a token lives in the context and in the slot, and the two are reconciled when a call
looks at them.  `RoleInvariant ctx role` says what the sessions of a context have to be for a role:
all of them read-write for the security officer, and at least one for any role.  Between two calls it
holds of the role that is reported; once a call has reconciled the login it holds of the recorded
role, whether the slot still has its login or not.

`role_session_exclusion` is the result about every sequence of calls.
-/

set_option autoImplicit false

namespace Pkcs11rs.Analysis

open Pkcs11rs.Library Pkcs11rs.Model SlotContext List

variable {ctx₁ ctx : SlotContext}

/-! ## Sessions and the role -/

/-- Every session handle given out so far is below this number. -/
def sessionBound (ctx : SlotContext) : ℕ :=
  if ctx.nextSession = 0 then 2 ^ 64 else ctx.nextSession.toNat

/-- What a role asks of the sessions. -/
structure RoleInvariant (ctx : SlotContext) (role : Option LoginRole) : Prop where
  exclusive : role = some .so → ∀ entry ∈ ctx.sessions, entry.2.readWrite = true
  attended : role ≠ none → ctx.sessions ≠ []
  below : ∀ entry ∈ ctx.sessions, entry.1.toNat < sessionBound ctx

/-- The sessions stay, with their flags; some counter values may have been given out. -/
structure SessionFrame (ctx ctx' : SlotContext) : Prop where
  flags : ∀ entry' ∈ ctx'.sessions, ∃ entry ∈ ctx.sessions,
    entry.1 = entry'.1 ∧ entry.2.readWrite = entry'.2.readWrite
  nonempty : ctx.sessions ≠ [] → ctx'.sessions ≠ []
  bound : sessionBound ctx ≤ sessionBound ctx'

/-- A call that leaves the sessions and the login alone. -/
structure LoginFrame (ctx ctx' : SlotContext) : Prop where
  sessions : SessionFrame ctx ctx'
  recorded : ctx'.loginRole = ctx.loginRole
  active : ctx'.loginActive = ctx.loginActive

/-- The role is the recorded one or gone. -/
theorem role_eq_or (ctx : SlotContext) : ctx.role = none ∨ ctx.role = ctx.loginRole := by
  unfold role
  split_ifs
  · exact .inr rfl
  · exact .inl rfl

section Frames

variable {ctx ctx₁ ctx₂ : SlotContext} {role role' : Option LoginRole}

/-- Nothing happens. -/
theorem SessionFrame.refl (ctx : SlotContext) : SessionFrame ctx ctx :=
  ⟨fun entry h => ⟨entry, h, rfl, rfl⟩, id, le_rfl⟩

/-- One step after the other. -/
theorem SessionFrame.trans (h : SessionFrame ctx ctx₁) (h₁ : SessionFrame ctx₁ ctx₂) :
    SessionFrame ctx ctx₂ where
  flags := by
    intro entry₂ hentry₂
    obtain ⟨entry₁, hentry₁, hkey₁, hflag₁⟩ := h₁.flags entry₂ hentry₂
    obtain ⟨entry, hentry, hkey, hflag⟩ := h.flags entry₁ hentry₁
    exact ⟨entry, hentry, hkey.trans hkey₁, hflag.trans hflag₁⟩
  nonempty := fun hne => h₁.nonempty (h.nonempty hne)
  bound := h.bound.trans h₁.bound

/-- The sessions stay. -/
theorem SessionFrame.of_eq (hsessions : ctx₁.sessions = ctx.sessions)
    (hnext : ctx₁.nextSession = ctx.nextSession) : SessionFrame ctx ctx₁ where
  flags := by
    rw [hsessions]
    exact (SessionFrame.refl ctx).flags
  nonempty := by
    rw [hsessions]
    exact id
  bound := by
    unfold sessionBound
    rw [hnext]

/-- Nothing happens to the login. -/
theorem LoginFrame.refl (ctx : SlotContext) : LoginFrame ctx ctx :=
  ⟨SessionFrame.refl ctx, rfl, rfl⟩

/-- The login stays. -/
theorem LoginFrame.trans (h : LoginFrame ctx ctx₁) (h₁ : LoginFrame ctx₁ ctx₂) :
    LoginFrame ctx ctx₂ :=
  ⟨h.sessions.trans h₁.sessions, h₁.recorded.trans h.recorded, h₁.active.trans h.active⟩

/-- The role stays. -/
theorem LoginFrame.role_eq (h : LoginFrame ctx ctx₁) : ctx₁.role = ctx.role := by
  unfold role
  rw [h.recorded, h.active]

/-- The sessions stay. -/
theorem RoleInvariant.frame (h : RoleInvariant ctx role) (hframe : SessionFrame ctx ctx₁) :
    RoleInvariant ctx₁ role where
  exclusive := by
    intro hrole entry' hentry'
    obtain ⟨entry, hentry, -, hflag⟩ := hframe.flags entry' hentry'
    exact hflag ▸ h.exclusive hrole entry hentry
  attended := fun hrole => hframe.nonempty (h.attended hrole)
  below := by
    intro entry' hentry'
    obtain ⟨entry, hentry, hkey, -⟩ := hframe.flags entry' hentry'
    exact hkey ▸ (h.below entry hentry).trans_le hframe.bound

/-- Nobody is logged in any more. -/
theorem RoleInvariant.weaken (h : RoleInvariant ctx role) (hrole : role' = none ∨ role' = role) :
    RoleInvariant ctx role' := by
  rcases hrole with rfl | rfl
  · exact ⟨nofun, (fun hrole => absurd rfl hrole), h.below⟩
  · exact h

/-- What holds of the recorded role holds of the reported one. -/
theorem RoleInvariant.reported (h : RoleInvariant ctx ctx.loginRole) : RoleInvariant ctx ctx.role :=
  h.weaken (role_eq_or ctx)

/-- The login and the sessions stay. -/
theorem RoleInvariant.login_frame (h : RoleInvariant ctx ctx.role) (hframe : LoginFrame ctx ctx₁) :
    RoleInvariant ctx₁ ctx₁.role := by
  rw [hframe.role_eq]
  exact h.frame hframe.sessions

end Frames

/-! ## The parts of the calls -/

section Parts

variable {ctx : SlotContext}

section

variable (ctx : SlotContext)

/-- All sessions change. -/
theorem mapSessions_frame {f : SessionContext → SessionContext}
    (hf : ∀ session, (f session).readWrite = session.readWrite) :
    SessionFrame ctx (ctx.mapSessions f) where
  flags := by
    intro entry' hentry'
    obtain ⟨entry, hentry, rfl⟩ := mem_map.mp hentry'
    exact ⟨entry, hentry, rfl, (hf entry.2).symm⟩
  nonempty := fun hne h => hne (map_eq_nil_iff.mp h)
  bound := le_rfl

/-- Publishing keeps the login. -/
theorem publish_frame (state : SlotState) : LoginFrame ctx (ctx.publish state) := by
  refine ⟨?_, rfl, rfl⟩
  have hstate : SessionFrame ctx { ctx with state := state } := SessionFrame.of_eq rfl rfl
  apply hstate.trans
  unfold publish forgetInSearches
  exact mapSessions_frame _ fun session => rfl

/-- The end of a login keeps the sessions. -/
theorem clearLoginState_frame : SessionFrame ctx ctx.clearLoginState := by
  have hstate : SessionFrame ctx
      { ctx with loginRole := none, state := ctx.state.clearLoginState } :=
    SessionFrame.of_eq rfl rfl
  apply hstate.trans
  exact mapSessions_frame _ fun session => rfl

/-- A lost login keeps the sessions. -/
theorem lose_frame (lost : Bool) : SessionFrame ctx (ctx.lose lost) := by
  grind [lose, SessionFrame.of_eq]

/-- A lost login stays recorded. -/
theorem lose_loginRole (lost : Bool) : (ctx.lose lost).loginRole = ctx.loginRole := by
  unfold lose
  split_ifs <;> rfl

/-- A login that is lost is not reported any more. -/
theorem lose_role (lost : Bool) :
    (ctx.lose lost).role = none ∨ (ctx.lose lost).role = ctx.role := by
  unfold lose
  split_ifs
  · exact .inl rfl
  · exact .inr rfl

end

/-- A login is lost. -/
theorem RoleInvariant.lose (h : RoleInvariant ctx ctx.role) (lost : Bool) :
    RoleInvariant (ctx.lose lost) (ctx.lose lost).role :=
  (h.frame (lose_frame ctx lost)).weaken (lose_role ctx lost)

/-- A login ends. -/
theorem RoleInvariant.cleared {role : Option LoginRole} (h : RoleInvariant ctx role) :
    RoleInvariant ctx.clearLoginState ctx.clearLoginState.loginRole :=
  (h.frame (clearLoginState_frame ctx)).weaken (.inl rfl)

/-- A state is published. -/
theorem RoleInvariant.published (h : RoleInvariant ctx ctx.role) (state : SlotState) :
    RoleInvariant (ctx.publish state) (ctx.publish state).role :=
  h.login_frame (publish_frame ctx state)

/-- **Reconciliation.**  A call that has reconciled the login can rely on the recorded role, even if
the slot loses its login afterwards. -/
theorem RoleInvariant.reconciled (h : RoleInvariant ctx ctx.role) (lost : Bool) :
    RoleInvariant (ctx.reconcileLoginState.lose lost)
      (ctx.reconcileLoginState.lose lost).loginRole := by
  have hreconciled : RoleInvariant ctx.reconcileLoginState ctx.reconcileLoginState.loginRole := by
    unfold reconcileLoginState
    split_ifs with hlost
    · exact h.cleared
    · refine h.weaken ?_
      rcases role_eq_or ctx with hnone | heq
      · rw [hnone, not_and_or] at hlost
        exact .inl (by simpa using hlost)
      · exact .inr heq.symm
  rw [lose_loginRole]
  exact hreconciled.frame (lose_frame _ lost)

/-- Reconciliation only clears a role that is not reported any more. -/
theorem reconcileLoginState_role (ctx : SlotContext) : ctx.reconcileLoginState.role = ctx.role := by
  unfold reconcileLoginState
  split_ifs with hlost
  · rw [hlost.2]
    rcases role_eq_or ctx.clearLoginState with h | h
    · exact h
    · exact h
  · rfl

/-- A session that a call has looked up is put back with its flags. -/
theorem setSession_frame {session : SessionHandle} {found changed : SessionContext}
    (hframe : LoginFrame ctx ctx₁) (hfound : ctx.getSession session = .ok found)
    (hflags : changed.readWrite = found.readWrite) :
    LoginFrame ctx (ctx₁.setSession session changed) := by
  refine ⟨⟨?_, fun _ => cons_ne_nil _ _, hframe.sessions.bound⟩, hframe.recorded, hframe.active⟩
  intro entry hentry
  rcases mem_mapInsert.mp hentry with rfl | ⟨hold, -⟩
  · exact ⟨(session, found), isOpen_of_getSession hfound, rfl, hflags.symm⟩
  · exact hframe.sessions.flags entry hold

/-- `allocate_session` gives out a handle that no session has. -/
theorem allocateSession_spec {handle : SessionHandle}
    (h : ctx.allocateSession = some (handle, ctx₁)) :
    handle.toNat = sessionBound ctx ∧ sessionBound ctx₁ = sessionBound ctx + 1 ∧
      LoginFrame ctx ctx₁ ∧ ctx₁.sessions = ctx.sessions := by
  unfold allocateSession at h
  split_ifs at h with hzero
  obtain ⟨rfl, rfl⟩ := Prod.mk.inj (Option.some.inj h)
  have hbound : sessionBound ctx = ctx.nextSession.toNat := if_neg hzero
  have hnext : sessionBound { ctx with nextSession := ctx.nextSession + 1 } =
      sessionBound ctx + 1 := by
    rw [hbound]
    exact counter_succ ctx.nextSession
  exact ⟨hbound.symm, hnext, ⟨⟨(SessionFrame.refl ctx).flags, id, hnext ▸ Nat.le_succ _⟩, rfl, rfl⟩,
    rfl⟩

end Parts

/-! ## The calls that change the login or the sessions -/

section Calls

variable {ctx : SlotContext}

section

variable (h : RoleInvariant ctx ctx.role)

include h

/-- A logout, and nobody is logged in when it has succeeded. -/
theorem logoutSlot_role (answers : LogoutAnswers) :
    RoleInvariant (ctx.logoutSlot answers).2 (ctx.logoutSlot answers).2.role ∧
      SessionFrame ctx (ctx.logoutSlot answers).2 ∧
      ((ctx.logoutSlot answers).1 = .ok () → (ctx.logoutSlot answers).2.role = none) := by
  have hlose := h.lose answers.lostAfter
  have hframe := lose_frame ctx answers.lostAfter
  unfold logoutSlot
  cases hrole : ctx.role with
  | none =>
    exact ⟨h, SessionFrame.refl ctx, nofun⟩
  | some role =>
    dsimp only
    split
    · exact ⟨hlose, hframe, nofun⟩
    · exact ⟨hlose, hframe, nofun⟩
    · have hcleared := hlose.cleared.reported
      have hframe' := hframe.trans (clearLoginState_frame _)
      have hnone : (ctx.lose answers.lostAfter).clearLoginState.role = none := by
        rcases role_eq_or (ctx.lose answers.lostAfter).clearLoginState with h | h
        · exact h
        · exact h
      split_ifs
      · refine ⟨hcleared.published _, hframe'.trans (publish_frame _ _).sessions, fun _ => ?_⟩
        exact ((publish_frame _ _).role_eq).trans hnone
      · exact ⟨hcleared, hframe', fun _ => hnone⟩

/-- Before the last session goes, nobody is logged in. -/
theorem logoutToClose_role (answers : LogoutAnswers) :
    RoleInvariant (ctx.logoutToClose answers).2 (ctx.logoutToClose answers).2.role ∧
      SessionFrame ctx (ctx.logoutToClose answers).2 ∧
      (ctx.logoutToClose answers).2.role = none := by
  unfold logoutToClose
  split_ifs with hnone
  · exact ⟨h, SessionFrame.refl ctx, hnone⟩
  · obtain ⟨hlogout, hframe, hdone⟩ := logoutSlot_role (h.lose answers.lostBefore) answers
    have hstart := lose_frame ctx answers.lostBefore
    generalize (ctx.lose answers.lostBefore).logoutSlot answers = logged at hlogout hframe hdone
    obtain ⟨result, ctx₁⟩ := logged
    cases result with
    | ok _ => exact ⟨hlogout, hstart.trans hframe, hdone rfl⟩
    | error error =>
      refine ⟨hlogout.cleared.reported.lose true, ?_, rfl⟩
      exact ((hstart.trans hframe).trans (clearLoginState_frame ctx₁)).trans (lose_frame _ true)

/-- `C_Logout`. -/
theorem logout_role (session : SessionHandle) (answers : LogoutAnswers) :
    RoleInvariant (ctx.logout session answers).2 (ctx.logout session answers).2.role := by
  unfold logout
  cases ctx.getSession session with
  | error error => exact h
  | ok found =>
    have hstart := (h.reconciled answers.lost).reported
    dsimp only
    split_ifs
    · exact hstart
    · exact (logoutSlot_role (hstart.lose answers.lostBefore) answers).1

end

/-- A session goes while nobody is logged in, or while another one is left. -/
theorem RoleInvariant.removeSession {role : Option LoginRole} (h : RoleInvariant ctx role)
    (session : SessionHandle) (hleft : role = none ∨ ∃ entry ∈ ctx.sessions, entry.1 ≠ session) :
    RoleInvariant { ctx with sessions := mapRemove ctx.sessions session } role where
  exclusive := fun hrole entry hentry => h.exclusive hrole entry (mem_mapRemove.mp hentry).1
  attended := by
    intro hrole hempty
    rcases hleft with hnone | ⟨entry, hentry, hne⟩
    · exact hrole hnone
    · have hmem : entry ∈ mapRemove ctx.sessions session := mem_mapRemove.mpr ⟨hentry, hne⟩
      have hnil : mapRemove ctx.sessions session = [] := hempty
      rw [hnil] at hmem
      cases hmem
  below := fun entry hentry => h.below entry (mem_mapRemove.mp hentry).1

/-- Reconciling the login keeps the handles of the sessions. -/
theorem reconciled_keys (ctx : SlotContext) (lost : Bool) :
    (ctx.reconcileLoginState.lose lost).sessions.map (·.1) = ctx.sessions.map (·.1) := by
  unfold lose reconcileLoginState clearLoginState mapSessions
  split_ifs <;> simp

/-- `C_CloseSession`. -/
theorem closeSession_role (h : RoleInvariant ctx ctx.role) (session : SessionHandle)
    (answers : LogoutAnswers) : RoleInvariant (ctx.closeSession session answers).2
      (ctx.closeSession session answers).2.role := by
  unfold closeSession
  cases ctx.getSession session with
  | error error => exact h
  | ok found =>
    have hstart := (h.reconciled answers.lost).reported
    dsimp only
    split_ifs with hlast
    · obtain ⟨hlogout, -, hnone⟩ := logoutToClose_role hstart answers
      refine RoleInvariant.published ?_ _
      exact hlogout.removeSession session (.inl hnone)
    · refine RoleInvariant.published ?_ _
      refine hstart.removeSession session (.inr ?_)
      -- the sessions are those before the login was reconciled
      have hother : ∃ entry ∈ ctx.sessions, entry.1 ≠ session := by simpa using hlast
      obtain ⟨entry, hentry, hne⟩ := hother
      have hmem : entry.1 ∈ (ctx.reconcileLoginState.lose answers.lost).sessions.map (·.1) := by
        rw [reconciled_keys]
        exact mem_map.mpr ⟨entry, hentry, rfl⟩
      grind

/-- `C_CloseAllSessions`. -/
theorem closeAllSessions_role (h : RoleInvariant ctx ctx.role) (answers : LogoutAnswers) :
    RoleInvariant (ctx.closeAllSessions answers).2 (ctx.closeAllSessions answers).2.role := by
  obtain ⟨-, -, hnone⟩ := logoutToClose_role (h.reconciled answers.lost).reported answers
  refine ⟨fun hrole => ?_, fun hrole => ?_, fun entry hentry => absurd hentry not_mem_nil⟩
  · exact absurd (hnone.symm.trans hrole) nofun
  · exact absurd hnone hrole

/-- A session that is found is one of the sessions, also after the login has been reconciled. -/
theorem sessions_ne_nil {session : SessionHandle} {found : SessionContext}
    (hfound : ctx.getSession session = .ok found) (lost : Bool) :
    (ctx.reconcileLoginState.lose lost).sessions ≠ [] := by
  intro hnil
  have hkeys := reconciled_keys ctx lost
  rw [hnil] at hkeys
  have hsessions : ctx.sessions = [] := map_eq_nil_iff.mp hkeys.symm
  unfold getSession at hfound
  rw [hsessions] at hfound
  cases hfound

/-- `C_Login`. -/
theorem login_role (h : RoleInvariant ctx ctx.role) (session : SessionHandle) (role : LoginRole)
    (answers : LoginAnswers) :
    RoleInvariant (ctx.login session role answers).2 (ctx.login session role answers).2.role := by
  unfold login
  cases hsession : ctx.getSession session with
  | error error => exact h
  | ok found =>
    cases answers.before with
    | error error => exact h
    | ok _ =>
      have hstart := h.reconciled answers.lost
      have hattended := sessions_ne_nil hsession answers.lost
      generalize ctx.reconcileLoginState.lose answers.lost = start at hstart hattended
      dsimp only
      cases hrole : start.role with
      | some active => exact hstart.reported
      | none =>
        dsimp only
        split
        · exact hstart.reported
        · rename_i hwritable
          have hactive : RoleInvariant { start with loginActive := answers.activeAfter }
              start.loginRole :=
            hstart.frame (SessionFrame.of_eq rfl rfl)
          -- the new role: its sessions were checked before the authentication
          have hnew : RoleInvariant
              { start with loginActive := answers.activeAfter, loginRole := some role }
              (some role) := by
            refine ⟨fun hso entry hentry => ?_, fun _ => hattended, hactive.below⟩
            cases hso
            have hnone := (not_and.mp hwritable) rfl
            simp only [any_eq_true, not_exists, not_and] at hnone
            simpa using hnone entry hentry
          split
          · exact hactive.reported
          · exact hactive.reported
          · split
            · split
              · exact ((hnew.reported.published _).cleared).reported
              · exact hnew.reported.published _
            · exact hnew.reported

/-- `C_InitToken`. -/
theorem initToken_role (h : RoleInvariant ctx ctx.role) (command : Except Rv Unit)
    (lostAfter : Bool) (listing : Answers) :
    RoleInvariant (ctx.initToken command lostAfter listing).2
      (ctx.initToken command lostAfter listing).2.role := by
  unfold initToken
  split
  · exact h
  · cases command with
    | error error => exact h.lose lostAfter
    | ok _ =>
      have hnone : RoleInvariant { ctx.lose lostAfter with loginRole := none } none := by
        have hlost := (h.lose lostAfter).weaken (.inl (rfl : none = none))
        exact hlost.frame (SessionFrame.of_eq rfl rfl)
      exact RoleInvariant.published (RoleInvariant.reported hnone) _

/-- `init_token` only initialises a token without sessions. -/
theorem initToken_sessions {command : Except Rv Unit} {lostAfter : Bool} {listing : Answers}
    (h : (ctx.initToken command lostAfter listing).1 = .ok ()) : ctx.sessions = [] := by
  unfold initToken at h
  split at h
  · cases h
  · rename_i hempty
    exact not_not.mp hempty

/-- `C_OpenSession`. -/
theorem openSession_role (h : RoleInvariant ctx ctx.role) (flags : OpenFlags)
    (answers : OpenAnswers) :
    RoleInvariant (ctx.openSession flags answers).2
      (ctx.openSession flags answers).2.role := by
  unfold openSession
  split
  · exact h
  split
  · exact h
  have hstart := (h.reconciled answers.lost).reported
  generalize ctx.reconcileLoginState.lose answers.lost = start at hstart
  dsimp only
  split
  · exact hstart
  · rename_i hallowed
    have hlost := hstart.lose answers.lostAfter
    -- no read-only session is opened for the security officer
    have hflags : (start.lose answers.lostAfter).role = some .so → flags.readWrite = true := by
      intro hso
      rcases lose_role start answers.lostAfter with hnone | heq
      · rw [hnone] at hso
        cases hso
      · rw [heq] at hso
        by_contra hread
        exact hallowed ⟨by simpa using hread, hso⟩
    generalize start.lose answers.lostAfter = lost at hlost hflags
    split
    · exact hlost
    · cases hallocate : lost.allocateSession with
      | none => exact hlost
      | some allocated =>
        obtain ⟨handle, ctx₁⟩ := allocated
        obtain ⟨hhandle, hbound, hframe, hsessions⟩ := allocateSession_spec hallocate
        have hallocated := hlost.login_frame hframe
        have hrole := hframe.role_eq
        cases answers.registered with
        | ok _ =>
          refine ⟨fun hso entry hentry => ?_, fun _ => cons_ne_nil _ _,
            fun entry hentry => ?_⟩
          · rcases mem_mapInsert.mp hentry with rfl | ⟨hold, -⟩
            · exact hflags (hrole.symm.trans hso)
            · exact hallocated.exclusive hso entry hold
          · rcases mem_mapInsert.mp hentry with rfl | ⟨hold, -⟩
            · have hnew : handle.toNat < sessionBound ctx₁ := by omega
              exact hnew
            · exact hallocated.below entry hold
        | error error =>
          refine hallocated.removeSession handle ?_
          -- the handle is new, so no session is lost
          cases hnil : ctx₁.sessions with
          | nil =>
            refine .inl ?_
            by_contra hrole
            exact hallocated.attended hrole hnil
          | cons entry rest =>
            refine .inr ⟨entry, mem_cons_self, fun heq => ?_⟩
            have hold : entry ∈ lost.sessions := by
              rw [← hsessions, hnil]
              exact mem_cons_self
            have hbelow := hlost.below entry hold
            rw [heq] at hbelow
            omega

/-- `C_GetSessionInfo`. -/
theorem getSessionInfo_role (h : RoleInvariant ctx ctx.role) (session : SessionHandle) (lost : Bool)
    (backend : Except Rv Unit) : RoleInvariant (ctx.getSessionInfo session lost backend).2
      (ctx.getSessionInfo session lost backend).2.role := by
  unfold getSessionInfo
  cases ctx.getSession session with
  | error error => exact h
  | ok found =>
    have hagain := ((h.reconciled lost).reported.reconciled false).reported
    cases backend with
    | error | ok => exact hagain

end Calls

/-! ## The calls that leave the login alone -/

/-- A move of an object call. -/
theorem ObjectMove.frame (h : ObjectMove ctx ctx₁) : LoginFrame ctx ctx₁ := by
  cases h with
  | published h => exact publish_frame ctx _
  | stored storage => exact ⟨SessionFrame.of_eq rfl rfl, rfl, rfl⟩
  | session hfound hflags hsearch => exact setSession_frame (LoginFrame.refl ctx) hfound hflags
  | counter halloc => exact (allocateSession_spec halloc).2.2.1

/-- Moves of an object call. -/
theorem ObjectMoves.frame (h : ObjectMoves ctx ctx₁) : LoginFrame ctx ctx₁ := by
  induction h with
  | refl => exact LoginFrame.refl ctx
  | tail _ hmove ih => exact ih.trans hmove.frame

/-! ## Every sequence of calls -/

/-- One call. -/
theorem perform_role (encode : BackedEncoding) (hctx : LiveInvariant ctx.state)
    (h : RoleInvariant ctx ctx.role) (call : SlotCall) :
    RoleInvariant (ctx.perform encode call).2 (ctx.perform encode call).2.role := by
  have hmoves := perform_moves encode hctx call
  -- the calls about logins need the order of their moves, the others only their kind
  cases call with
  | openSession flags answers => exact openSession_role h flags answers
  | closeSession session answers => exact closeSession_role h session answers
  | closeAllSessions answers => exact closeAllSessions_role h answers
  | login session role answers => exact login_role h session role answers
  | logout session answers => exact logout_role h session answers
  | initToken command lostAfter listing => exact initToken_role h command lostAfter listing
  | getSessionInfo session lost backend => exact getSessionInfo_role h session lost backend
  | loseLogin => exact h.lose true
  | _ =>
    cases hmoves with
    | login hcall _ => cases hcall
    | object hmoves => exact h.login_frame hmoves.frame
    | search operation _ hmoves hfound heq =>
      rw [heq]
      exact h.login_frame (setSession_frame hmoves.frame hfound rfl)

/-- Any number of calls. -/
theorem after_role (encode : BackedEncoding) (calls : List SlotCall)
    (hctx : LiveInvariant ctx.state) (h : RoleInvariant ctx ctx.role) :
    RoleInvariant (ctx.after encode calls) (ctx.after encode calls).role := by
  induction calls generalizing ctx with
  | nil => exact h
  | cons call rest ih =>
    exact ih (perform_live encode hctx call).inv (perform_role encode hctx h call)

/-- Nobody is logged in to a new slot. -/
theorem roleInvariant_new (slotId : Ulong) (nextObject nextSession : UInt64) :
    RoleInvariant (new slotId nextObject nextSession)
      (new slotId nextObject nextSession).role := by
  refine ⟨fun h => ?_, fun h => ?_, fun entry hentry => absurd hentry not_mem_nil⟩
  · cases h
  · exact absurd rfl h

/-- The role that a reported state stands for. -/
def SessionState.role : SessionState → Option LoginRole
  | .roPublicSession | .rwPublicSession => none
  | .roUserFunctions | .rwUserFunctions => some .user
  | .rwSoFunctions => some .so

/-- The state of a session tells the role. -/
theorem sessionState_role (readWrite : Bool) (role : Option LoginRole) :
    SessionState.role (sessionState readWrite role) = role := by
  cases role with
  | none => cases readWrite <;> rfl
  | some role => cases role <;> cases readWrite <;> rfl

/-- **Roles and sessions.**  In every state that calls and losses of the login lead to: no session is
read-only while the security officer is logged in; a role is logged in only while a session is open;
`C_InitToken` succeeds only without sessions; and the sessions that `C_GetSessionInfo` answers for
all report one role, which is the role of the token unless the slot has just lost its login. -/
theorem role_session_exclusion (encode : BackedEncoding) (slotId : Ulong)
    (nextObject nextSession : UInt64) (calls : List SlotCall) :
    let ctx := (SlotContext.new slotId nextObject nextSession).after encode calls
    (ctx.role = some .so → ∀ entry ∈ ctx.sessions, entry.2.readWrite = true) ∧
      (ctx.role ≠ none → ctx.sessions ≠ []) ∧
      (∀ (command : Except Rv Unit) (lostAfter : Bool) (listing : Answers),
        (ctx.initToken command lostAfter listing).1 = .ok () → ctx.sessions = []) ∧
      ∀ lost : Bool, ∃ role : Option LoginRole, (role = ctx.role ∨ lost = true ∧ role = none) ∧
        ∀ (session : SessionHandle) (backend : Except Rv Unit) (state : SessionState),
          (ctx.getSessionInfo session lost backend).1 = .ok state →
            SessionState.role state = role := by
  intro ctx
  have hinv : RoleInvariant ctx ctx.role :=
    after_role encode calls (liveInvariant_empty slotId nextObject)
      (roleInvariant_new slotId nextObject nextSession)
  refine ⟨hinv.exclusive, hinv.attended, fun command lostAfter listing hok =>
    initToken_sessions hok, fun lost => ?_⟩
  refine ⟨(ctx.reconcileLoginState.lose lost).reconcileLoginState.role, ?_,
    fun session backend state hstate => by grind [getSessionInfo, sessionState_role]⟩
  rw [reconcileLoginState_role]
  cases lost with
  | true => exact Or.inr ⟨rfl, rfl⟩
  | false => exact Or.inl (reconcileLoginState_role ctx)

/-- A security officer who has logged in with one read-write session. -/
def officerCalls : List SlotCall :=
  [.openSession { readWrite := true } {},
    .login 1 .so { listing := { device := .ok [], stored := .ok [] } }]

/-- The slot after these calls. -/
def officerSlot : SlotContext :=
  (SlotContext.new 0 1 1).after (fun _ => .error .deviceError) officerCalls

/-- The officer has a read-write session. -/
theorem officer_session_read_write :
    officerSlot.role = some .so ∧ (∀ entry ∈ officerSlot.sessions, entry.2.readWrite = true) ∧
      officerSlot.sessions ≠ [] := by
  have hrole : officerSlot.role = some .so := by decide +kernel
  obtain ⟨hexclusive, hattended, -⟩ :=
    role_session_exclusion (fun _ => .error .deviceError) 0 1 1 officerCalls
  refine ⟨hrole, hexclusive hrole, hattended ?_⟩
  exact fun h => nomatch h

end Pkcs11rs.Analysis
