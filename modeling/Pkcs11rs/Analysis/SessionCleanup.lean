import Pkcs11rs.Analysis.SlotLogin

/-!
# What a logout and the end of a session leave behind

Objects leave a slot by three routines.  `remove_object_handle` takes the entry of a backed object
out of the books together with its handle.  `clear_login_state` and `C_CloseAllSessions` edit the
object map directly, and the entries of the objects that they drop stay.

`Cleared` describes the state after `clear_login_state` and the listing that may follow it, `Orphan`
an entry without an object.  `logout_and_close_leave` says what is gone after a logout and after the
last session has been closed, and for which objects something stays.
-/

set_option autoImplicit false

namespace Pkcs11rs.Analysis

open Pkcs11rs.Library Pkcs11rs.Model SlotState SlotContext

variable {handle : ObjectHandle} {entry : ObjectHandle × TokenObject} {session : SessionHandle}
  {h : ObjectHandle} {answers : LogoutAnswers} {ctx : SlotContext} {s : SlotState}

/-! ## Owners of session objects -/

/-- Every object of the map has an owner. -/
def Owned (opens : SessionHandle → Prop) (s : SlotState) : Prop :=
  ∀ entry ∈ s.memoryObjects, HasOwner opens entry.2

/-- What holds of the owners in every reachable state. -/
structure OwnerInvariant (ctx : SlotContext) : Prop where
  below : ∀ c, IsOpen ctx c → c.toNat < sessionBound ctx
  owned : Owned (IsOpen ctx) ctx.state

section Owners

variable {opens opens' : SessionHandle → Prop} {s s' : SlotState}

/-- Fewer objects have owners as well. -/
theorem Owned.of_subset (h : Owned opens s) (hmemory : s'.memoryObjects ⊆ s.memoryObjects) :
    Owned opens s' :=
  fun entry hentry => h entry (hmemory hentry)

/-- More sessions are open. -/
theorem Owned.mono (h : Owned opens s) (hopens : ∀ c, opens c → opens' c) : Owned opens' s := by
  intro entry hentry
  refine ⟨(h entry hentry).token, fun htoken => ?_⟩
  obtain ⟨c, hc, hcreator⟩ := (h entry hentry).session htoken
  exact ⟨c, hopens c hc, hcreator⟩

/-- An allocation adds no object. -/
theorem allocateObject_memory {s₁ : SlotState} (h : s.allocateObject = some (handle, s₁)) :
    s₁.memoryObjects = s.memoryObjects := by
  rw [(allocateObject_spec h).2.2]

/-- A removal adds no object. -/
theorem removeObjectHandles_subset (s : SlotState) (handles : List ObjectHandle) :
    (s.removeObjectHandles handles).memoryObjects ⊆ s.memoryObjects := by
  rw [removeObjectHandles_memory]
  exact List.filter_subset_self _

/-- An edit keeps the owners. -/
theorem Edit.owned (h : Edit opens s s') (hs : Owned opens s) : Owned opens s' := by
  cases h with
  | list h =>
    cases h with
    | removed handles htoken => exact hs.of_subset (removeObjectHandles_subset s handles)
    | listed | rebound => exact hs
    | named uniqueId halloc => exact hs.of_subset fun _ h => allocateObject_memory halloc ▸ h
  | removed handles => exact hs.of_subset (removeObjectHandles_subset s handles)
  | booked references handles hhandles => exact hs
  | created object halloc howner =>
    intro entry hentry
    rcases mem_mapInsert.mp hentry with rfl | ⟨hold, -⟩
    · exact howner
    · exact hs entry (allocateObject_memory halloc ▸ hold)
  | changed updated hobject htoken howner =>
    intro entry hentry
    rcases mem_mapInsert.mp hentry with rfl | ⟨hold, -⟩
    · have hbefore := hs _ hobject
      exact ⟨by rw [htoken, howner]; exact hbefore.token,
        by rw [htoken, howner]; exact hbefore.session⟩
    · exact hs entry hold
  | skipped halloc => exact hs.of_subset fun _ h => allocateObject_memory halloc ▸ h

/-- Edits keep the owners. -/
theorem Edits.owned (h : Edits opens s s') (hs : Owned opens s) : Owned opens s' := by
  induction h with
  | refl => exact hs
  | tail _ hedit ih => exact hedit.owned ih

end Owners

section OwnerMoves

variable {ctx ctx₁ : SlotContext}

/-- The open sessions stay, and no object changes its owner. -/
theorem OwnerInvariant.of_open (hctx : OwnerInvariant ctx)
    (hopen : ∀ c, IsOpen ctx₁ c ↔ IsOpen ctx c) (hbound : sessionBound ctx ≤ sessionBound ctx₁)
    (howned : Owned (IsOpen ctx) ctx₁.state) : OwnerInvariant ctx₁ where
  below := fun c hc => (hctx.below c ((hopen c).mp hc)).trans_le hbound
  owned := howned.mono fun c hc => (hopen c).mpr hc

/-- A move of a login keeps the owners. -/
theorem LoginMove.owners (h : LoginMove ctx ctx₁) (hctx : OwnerInvariant ctx) :
    OwnerInvariant ctx₁ := by
  cases h with
  | login active role => exact ⟨hctx.below, hctx.owned⟩
  | cleared =>
    exact hctx.of_open (fun c => isOpen_clearLoginState) le_rfl
      (hctx.owned.of_subset (List.filter_subset_self _))
  | refreshed answers =>
    have hedits : Edits (IsOpen ctx) ctx.state (ctx.state.refresh answers).2 :=
      (refresh_edits ctx.state answers).edits
    exact hctx.of_open (fun c => isOpen_publish) le_rfl (hedits.owned hctx.owned)
  | closed session =>
    constructor
    · intro c hc
      exact hctx.below c (mem_keys_mapRemove.mp (isOpen_publish.mp hc)).1
    · intro entry hentry
      have hbefore := hctx.owned entry (removeObjectHandles_subset _ _ hentry)
      refine ⟨hbefore.token, fun htoken => ?_⟩
      obtain ⟨c, hc, hcreator⟩ := hbefore.session htoken
      have hne : c ≠ session := by
        rintro rfl
        have hleft : entry ∈ (ctx.state.closeSession c).memoryObjects := hentry
        grind [SlotState.closeSession, removeObjectHandles_memory]
      exact ⟨c, isOpen_publish.mpr (mem_keys_mapRemove.mpr ⟨hc, hne⟩), hcreator⟩
  | @opened ctx₁ handle readWrite halloc =>
    obtain ⟨hhandle, hbound, -, hsessions⟩ := allocateSession_spec halloc
    have hnext : sessionBound (ctx₁.setSession handle { readWrite := readWrite }) =
        sessionBound ctx + 1 := hbound
    have hopen : ∀ c, IsOpen ctx₁ c ↔ IsOpen ctx c := fun c => by
      unfold IsOpen
      rw [hsessions]
    constructor
    · intro c hc
      rcases isOpen_setSession.mp hc with rfl | hold
      · omega
      · have hlt := hctx.below c ((hopen c).mp hold)
        omega
    · have hstate : (ctx₁.setSession handle { readWrite := readWrite }).state = ctx.state := by
        rw [allocateSession_sessions halloc]
        rfl
      rw [hstate]
      exact hctx.owned.mono fun c hc => isOpen_setSession.mpr (.inr ((hopen c).mpr hc))
  | @unregistered ctx₁ handle halloc =>
    obtain ⟨hhandle, hbound, -, hsessions⟩ := allocateSession_spec halloc
    have hnext : sessionBound { ctx₁ with sessions := mapRemove ctx₁.sessions handle } =
        sessionBound ctx + 1 := hbound
    -- the handle is a new one
    refine hctx.of_open (fun c => ?_) (by omega) ?_
    · refine mem_keys_mapRemove.trans ?_
      rw [hsessions]
      refine and_iff_left_of_imp fun hc => ?_
      rintro rfl
      have hlt := hctx.below c hc
      omega
    · rw [allocateSession_sessions halloc]
      exact hctx.owned

/-- Moves of a login keep the owners. -/
theorem LoginMoves.owners (h : LoginMoves ctx ctx₁) (hctx : OwnerInvariant ctx) :
    OwnerInvariant ctx₁ := by
  induction h with
  | refl => exact hctx
  | tail _ hmove ih => exact hmove.owners ih

/-- A move of an object call keeps the owners. -/
theorem ObjectMove.owners (h : ObjectMove ctx ctx₁) (hctx : OwnerInvariant ctx) :
    OwnerInvariant ctx₁ := by
  have hopen := ObjectMoves.isOpen (.single h)
  cases h with
  | published h => exact hctx.of_open hopen le_rfl (h.owned hctx.owned)
  | stored storage => exact ⟨hctx.below, hctx.owned⟩
  | session hfound hflags hsearch => exact hctx.of_open hopen le_rfl hctx.owned
  | counter halloc =>
    obtain ⟨-, hbound, -⟩ := allocateSession_spec halloc
    refine hctx.of_open hopen (by omega) ?_
    rw [allocateSession_sessions halloc]
    exact hctx.owned

/-- Moves of an object call keep the owners. -/
theorem ObjectMoves.owners (h : ObjectMoves ctx ctx₁) (hctx : OwnerInvariant ctx) :
    OwnerInvariant ctx₁ := by
  induction h with
  | refl => exact hctx
  | tail _ hmove ih => exact hmove.owners ih

variable (answers : LogoutAnswers)

section

variable (c : SessionHandle)

/-- A logout leaves the sessions open. -/
theorem logoutSlot_isOpen : IsOpen (ctx.logoutSlot answers).2 c ↔ IsOpen ctx c := by
  have hlose : IsOpen (ctx.lose answers.lostAfter) c ↔ IsOpen ctx c := by
    unfold lose
    split_ifs <;> rfl
  grind [SlotContext.logoutSlot, isOpen_publish, isOpen_clearLoginState]

/-- The logout closes no session. -/
theorem logoutToClose_isOpen : IsOpen (ctx.logoutToClose answers).2 c ↔ IsOpen ctx c := by
  unfold logoutToClose
  split
  · rfl
  · have hlose : IsOpen (ctx.lose answers.lostBefore) c ↔ IsOpen ctx c := by
      unfold lose
      split_ifs <;> rfl
    have hlogout : IsOpen ((ctx.lose answers.lostBefore).logoutSlot answers).2 c ↔
        IsOpen (ctx.lose answers.lostBefore) c := logoutSlot_isOpen answers c
    generalize (ctx.lose answers.lostBefore).logoutSlot answers = logged at hlogout
    obtain ⟨result, ctx₁⟩ := logged
    cases result with
    | ok _ => exact hlogout.trans hlose
    | error error => exact isOpen_clearLoginState.trans (hlogout.trans hlose)

/-- The sessions that are open when the calls about logins start to close them. -/
theorem closing_isOpen :
    IsOpen (closingSlot ctx answers) c ↔ IsOpen ctx c := by
  rw [logoutToClose_isOpen]
  unfold IsOpen keys
  rw [reconciled_keys]

end

/-- `C_CloseAllSessions` drops every session object. -/
theorem closeAllSessions_objects (hctx : OwnerInvariant ctx) (answers : LogoutAnswers) :
    ∀ entry ∈ (ctx.closeAllSessions answers).2.state.memoryObjects, entry.2.token = true := by
  intro entry hentry
  by_contra htoken
  have hstart := (closingSlot_moves ctx answers).owners hctx
  obtain ⟨hmem, hkept⟩ := List.mem_filter.mp hentry
  obtain ⟨c, hc, hcreator⟩ := (hstart.owned entry hmem).session (by simpa using htoken)
  rw [hcreator] at hkept
  exact (of_decide_eq_true hkept) ((closing_isOpen answers c).mp hc)

/-- `C_CloseAllSessions` keeps the owners. -/
theorem closeAllSessions_owners (hctx : OwnerInvariant ctx) (answers : LogoutAnswers) :
    OwnerInvariant (ctx.closeAllSessions answers).2 := by
  refine ⟨fun c hc => absurd hc List.not_mem_nil, fun entry hentry => ?_⟩
  have htoken := closeAllSessions_objects hctx answers entry hentry
  have hstart := (closingSlot_moves ctx answers).owners hctx
  refine ⟨(hstart.owned entry (List.mem_filter.mp hentry).1).token, fun hsession => ?_⟩
  rw [htoken] at hsession
  cases hsession

end OwnerMoves

/-! ## Entries without an object -/

/-- An entry in the books of a handle that names no object. -/
def Orphan (s : SlotState) (h : ObjectHandle) : Prop :=
  mapGet s.backedObjectHandles h ≠ none ∧ h ∉ s.liveHandles

/-- A private session object that is backed. -/
def PrivateBacked (s : SlotState) (h : ObjectHandle) : Prop :=
  mapGet s.backedObjectHandles h ≠ none ∧
    ∃ object, (h, object) ∈ s.memoryObjects ∧ object.token = false ∧ object.isPrivate = true

section Books

variable {opens : SessionHandle → Prop} {s s' : SlotState}

/-- The references of stored objects after a removal. -/
theorem removeObjectHandles_entry (s : SlotState) (handles : List ObjectHandle) (h : ObjectHandle) :
    mapGet (s.removeObjectHandles handles).backedObjectHandles h =
      if h ∈ handles then none else mapGet s.backedObjectHandles h := by
  unfold removeObjectHandles
  induction handles generalizing s with
  | nil => rfl
  | cons handle handles ih =>
    rw [List.foldl_cons, ih]
    unfold removeObjectHandle
    rw [mapGet_mapRemove]
    by_cases hmem : h ∈ handles
    · simp [hmem]
    · by_cases heq : h = handle
      · simp [heq]
      · simp [heq, hmem]

/-- `remove_object_handle` takes the entry out with the handle. -/
theorem removeObjectHandles_orphan {handles : List ObjectHandle}
    (ho : Orphan (s.removeObjectHandles handles) h) : Orphan s h := by
  obtain ⟨hentry, hlive⟩ := ho
  rw [removeObjectHandles_entry] at hentry
  split_ifs at hentry with hmem
  · exact absurd rfl hentry
  · refine ⟨hentry, fun hold => hlive ?_⟩
    grind [mem_liveHandles, removeObjectHandles_memory, removeObjectHandles_token, mem_keys]

/-- Handles that are added make no orphan. -/
theorem Orphan.of_live (ho : Orphan s' h)
    (hentry : mapGet s'.backedObjectHandles h = mapGet s.backedObjectHandles h)
    (hmemory : keys s.memoryObjects ⊆ keys s'.memoryObjects)
    (htoken : keys s.tokenObjectHandles ⊆ keys s'.tokenObjectHandles) : Orphan s h := by
  refine ⟨hentry ▸ ho.1, fun hlive => ho.2 ?_⟩
  grind [mem_liveHandles]

/-- A listing makes no orphan. -/
theorem ListEdit.orphan (h : ListEdit s s') (ho : Orphan s' handle) : Orphan s handle := by
  cases h with
  | removed handles htoken => exact removeObjectHandles_orphan ho
  | listed stored references handles hstored hhandles =>
    have hdead : handle ∉ s.liveHandles := ho.2
    refine ⟨?_, hdead⟩
    rw [← hhandles handle fun hkey => hdead (mem_liveHandles.mpr (.inr hkey))]
    exact ho.1
  | rebound rebindings hknown =>
    exact ho.of_live rfl (List.Subset.refl _) (keys_subset_mapInsertAll _ _)
  | named uniqueId halloc =>
    have hs₁ := (allocateObject_spec halloc).2.2
    rw [hs₁] at ho
    exact ho.of_live rfl (List.Subset.refl _) (keys_subset_mapInsert _ _ _)

/-- An edit makes no orphan. -/
theorem Edit.orphan (h : Edit opens s s') (ho : Orphan s' handle) : Orphan s handle := by
  cases h with
  | list h => exact h.orphan ho
  | removed handles => exact removeObjectHandles_orphan ho
  | booked references handles hhandles =>
    have hdead : handle ∉ s.liveHandles := ho.2
    exact ⟨fun hnone => ho.1 (hhandles handle hdead hnone), hdead⟩
  | created object halloc howner =>
    have hs₁ := (allocateObject_spec halloc).2.2
    rw [hs₁] at ho
    exact ho.of_live rfl (keys_subset_mapInsert _ _ _) (List.Subset.refl _)
  | changed updated hobject htoken howner =>
    exact ho.of_live rfl (keys_subset_mapInsert _ _ _) (List.Subset.refl _)
  | skipped halloc =>
    rw [(allocateObject_spec halloc).2.2] at ho
    exact ho.of_live rfl (List.Subset.refl _) (List.Subset.refl _)

/-- Edits make no orphan. -/
theorem Edits.orphan (h : Edits opens s s') (ho : Orphan s' handle) : Orphan s handle := by
  induction h with
  | refl => exact ho
  | tail _ hedit ih => exact ih (hedit.orphan ho)

end Books

/-! ## Listing the token -/

/-- A listing leaves alone what is not about token objects. -/
structure ListFrame (s s' : SlotState) : Prop where
  memory : s'.memoryObjects = s.memoryObjects
  entries : ∀ h : ObjectHandle, h.toNat < handleBound s → h ∉ keys s.tokenObjectHandles →
    h ∉ keys s'.tokenObjectHandles ∧
      mapGet s'.backedObjectHandles h = mapGet s.backedObjectHandles h

section Listing

variable {s s' : SlotState}

/-- What a listing leaves alone. -/
theorem ListEdit.frame (h : ListEdit s s') (hs : LiveInvariant s) : ListFrame s s' := by
  cases h with
  | removed handles htoken =>
    refine ⟨?_, fun h hbelow hkey => ⟨?_, ?_⟩⟩
    · rw [removeObjectHandles_memory, List.filter_eq_self]
      intro entry hentry
      refine decide_eq_true fun hmem => ?_
      exact hs.disjoint entry.1 (List.mem_map.mpr ⟨entry, hentry, rfl⟩) (htoken entry.1 hmem)
    · rw [removeObjectHandles_token]
      exact fun hmem => hkey (keys_filter_subset _ _ hmem)
    · rw [removeObjectHandles_entry, if_neg fun hmem => hkey (htoken h hmem)]
  | listed stored references handles hstored hhandles =>
    exact ⟨rfl, fun h hbelow hkey => ⟨hkey, hhandles h hkey⟩⟩
  | rebound rebindings hknown =>
    exact ⟨rfl, fun h hbelow hkey => ⟨(fun hmem => hkey (keys_mapInsertAll hknown hmem)), rfl⟩⟩
  | @named s₁ handle uniqueId halloc =>
    obtain ⟨hnew, -, hs₁⟩ := allocateObject_spec halloc
    rw [hs₁]
    refine ⟨rfl, fun h hbelow hkey => ⟨fun hmem => ?_, rfl⟩⟩
    rcases mem_keys_mapInsert.mp hmem with rfl | hold
    · omega
    · exact hkey hold

/-- What listings leave alone. -/
theorem ListEdits.frame (h : ListEdits s s') (hs : LiveInvariant s) :
    ListFrame s s' ∧ LiveStep s s' := by
  induction h with
  | refl => exact ⟨⟨rfl, fun _ _ hkey => ⟨hkey, rfl⟩⟩, LiveStep.refl hs⟩
  | tail _ hedit ih =>
    obtain ⟨hframe, hlive⟩ := ih
    have hnext := hedit.frame hlive.inv
    refine ⟨⟨hnext.memory.trans hframe.memory, fun h hbelow hkey => ?_⟩,
      hlive.trans (hedit.live hlive.inv)⟩
    obtain ⟨hkey₁, hentry₁⟩ := hframe.entries h hbelow hkey
    obtain ⟨hkey₂, hentry₂⟩ := hnext.entries h (hbelow.trans_le hlive.bound) hkey₁
    exact ⟨hkey₂, hentry₂.trans hentry₁⟩

end Listing

/-! ## The state after a logout -/

/-- The private session objects are gone, and nothing else has changed about session objects. -/
structure Cleared (s s' : SlotState) : Prop where
  memory : s'.memoryObjects = s.clearLoginState.memoryObjects
  entries : ∀ h ∈ keys s.memoryObjects,
    mapGet s'.backedObjectHandles h = mapGet s.backedObjectHandles h

section Logout

variable {s s' : SlotState}

/-- What the end of a login removes. -/
theorem cleared_clearLoginState (s : SlotState) : Cleared s s.clearLoginState :=
  ⟨rfl, fun _ _ => rfl⟩

/-- The login ends twice. -/
theorem Cleared.again (h : Cleared s s') : Cleared s s'.clearLoginState := by
  refine ⟨?_, h.entries⟩
  show s'.memoryObjects.filter _ = _
  rw [h.memory]
  exact (List.filter_filter ..).trans (by simp [SlotState.clearLoginState])

/-- The login ends and the slot is refreshed. -/
theorem Cleared.refreshed (hs : LiveInvariant s) (answers : Answers) :
    Cleared s (s.clearLoginState.refresh answers).2 := by
  obtain ⟨hframe, -⟩ := (refresh_edits s.clearLoginState answers).frame (clearLoginState_live hs).inv
  refine ⟨hframe.memory, fun h hh => (hframe.entries h ?_ (hs.disjoint h hh)).2⟩
  exact hs.below h (mem_liveHandles.mpr (.inl hh))

/-- The private session objects are those that go. -/
theorem Cleared.mem_iff (h : Cleared s s') : entry ∈ s'.memoryObjects ↔
      entry ∈ s.memoryObjects ∧ (entry.2.token = true ∨ entry.2.isPrivate = false) := by
  rw [h.memory]
  unfold SlotState.clearLoginState
  simp

variable {ctx : SlotContext}

/-- A lost login does not change the objects. -/
theorem lose_state (ctx : SlotContext) (lost : Bool) : (ctx.lose lost).state = ctx.state := by
  unfold lose
  split_ifs <;> rfl

/-- No session has an operation. -/
def Idle (ctx : SlotContext) : Prop :=
  ∀ entry ∈ ctx.sessions, entry.2.findOperation = none ∧ entry.2.operations = []

/-- No session is busy after a login. -/
theorem idle_clearLoginState (ctx : SlotContext) : Idle ctx.clearLoginState := by
  intro entry hentry
  obtain ⟨entry₀, -, rfl⟩ := List.mem_map.mp hentry
  exact ⟨rfl, rfl⟩

/-- Publishing starts no operation. -/
theorem Idle.publish (h : Idle ctx) (state : SlotState) : Idle (ctx.publish state) := by
  intro entry hentry
  obtain ⟨entry₀, hentry₀, rfl⟩ := List.mem_map.mp hentry
  obtain ⟨hfind, hoperations⟩ := h entry₀ hentry₀
  exact ⟨Option.map_eq_none_iff.mpr hfind, hoperations⟩

/-- `logout_slot` clears the login state, or fails before it. -/
theorem logoutSlot_cleared (hctx : LiveInvariant ctx.state) (answers : LogoutAnswers) :
    (Cleared ctx.state (ctx.logoutSlot answers).2.state ∧ Idle (ctx.logoutSlot answers).2) ∨
      ((ctx.logoutSlot answers).1 ≠ .ok () ∧ (ctx.logoutSlot answers).2.state = ctx.state) := by
  have hlose := lose_state ctx answers.lostAfter
  unfold SlotContext.logoutSlot
  split
  · exact .inr ⟨nofun, rfl⟩
  · split
    · exact .inr ⟨nofun, hlose⟩
    · exact .inr ⟨nofun, hlose⟩
    · refine .inl ?_
      have hidle := idle_clearLoginState (ctx.lose answers.lostAfter)
      have hstate : (ctx.lose answers.lostAfter).clearLoginState.state =
          ctx.state.clearLoginState := by
        rw [← hlose]
        rfl
      split
      · refine ⟨?_, hidle.publish _⟩
        show Cleared ctx.state
          ((ctx.lose answers.lostAfter).clearLoginState.state.refresh answers.listing).2
        rw [hstate]
        exact Cleared.refreshed hctx answers.listing
      · rw [hstate]
        exact ⟨cleared_clearLoginState ctx.state, hidle⟩

/-- A role that is reported after the login has been reconciled was reported before. -/
theorem reconcileLoginState_eq {lost : Bool} (h : (ctx.reconcileLoginState.lose lost).role ≠ none) :
    ctx.reconcileLoginState = ctx ∧ ctx.role ≠ none ∧ lost = false := by
  have hlost : lost = false := by
    cases lost with
    | true => exact absurd rfl h
    | false => rfl
  subst hlost
  have hrole : ctx.role ≠ none := by
    rw [← reconcileLoginState_role ctx]
    exact h
  simp [reconcileLoginState, *]

/-- A logout that is not refused starts from the state of the call. -/
theorem logout_eq (hok : (ctx.logout session answers).1 = .ok ()) :
    ctx.logout session answers = (ctx.lose answers.lostBefore).logoutSlot answers := by
  unfold logout at hok ⊢
  cases hsession : ctx.getSession session with
  | error error =>
    rw [hsession] at hok
    cases hok
  | ok found =>
    rw [hsession] at hok
    dsimp only at hok ⊢
    split at hok
    · cases hok
    · rename_i hrole
      obtain ⟨hsame, -, hlost⟩ := reconcileLoginState_eq hrole
      rw [if_neg hrole, hsame, hlost]
      rfl

/-- **`C_Logout`** that succeeds. -/
theorem logout_cleared (hctx : LiveInvariant ctx.state)
    (hok : (ctx.logout session answers).1 = .ok ()) :
    Cleared ctx.state (ctx.logout session answers).2.state ∧
      Idle (ctx.logout session answers).2 := by
  have heq := logout_eq hok
  have hlose := lose_state ctx answers.lostBefore
  rw [heq] at hok ⊢
  rcases logoutSlot_cleared (hlose ▸ hctx) answers with hcleared | ⟨hfailed, -⟩
  · rw [hlose] at hcleared
    exact hcleared
  · exact absurd hok hfailed

/-- The login state is cleared before the last session is closed: by the reconciliation, or by the
logout. -/
def clearsLogin (ctx : SlotContext) (lost : Bool) : Prop :=
  ctx.loginRole ≠ none ∧ (ctx.role = none ∨ lost = false)

/-- The state in which the last session is closed. -/
theorem closing_state (hctx : LiveInvariant ctx.state) (answers : LogoutAnswers) :
    (clearsLogin ctx answers.lost →
      Cleared ctx.state (closingSlot ctx answers).state) ∧
    (¬ clearsLogin ctx answers.lost →
      (closingSlot ctx answers).state = ctx.state) := by
  unfold closingSlot logoutToClose
  by_cases hrole : (ctx.reconcileLoginState.lose answers.lost).role = none
  · -- nobody is logged in any more, so it is the reconciliation that clears the state
    rw [if_pos hrole]
    rw [lose_state]
    unfold reconcileLoginState
    constructor
    · rintro ⟨hrecorded, hcleared⟩
      have hnone : ctx.role = none := by
        rcases hcleared with hnone | hkept
        · exact hnone
        · rw [hkept] at hrole
          rw [← reconcileLoginState_role ctx]
          exact hrole
      rw [if_pos ⟨Option.isSome_iff_ne_none.mpr hrecorded, hnone⟩]
      exact cleared_clearLoginState ctx.state
    · intro hnot
      rw [if_neg]
      rintro ⟨hrecorded, hnone⟩
      exact hnot ⟨Option.isSome_iff_ne_none.mp hrecorded, .inl hnone⟩
  · obtain ⟨hsame, hreported, hlost⟩ := reconcileLoginState_eq hrole
    rw [if_neg hrole, hsame, hlost]
    have hclears : clearsLogin ctx false := by
      refine ⟨fun hnone => hreported ?_, .inr rfl⟩
      rcases role_eq_or ctx with h | h
      · exact h
      · exact h.trans hnone
    refine ⟨fun _ => ?_, fun hnot => absurd hclears hnot⟩
    have hlose : ((ctx.lose false).lose answers.lostBefore).state = ctx.state := lose_state ctx _
    have hlogout := logoutSlot_cleared (hlose.symm ▸ hctx) answers
    rw [hlose] at hlogout
    generalize ((ctx.lose false).lose answers.lostBefore).logoutSlot answers = logged at hlogout
    obtain ⟨result, ctx₁⟩ := logged
    cases result with
    | ok _ => grind
    | error error =>
      rcases hlogout with ⟨hcleared, -⟩ | ⟨-, hkept⟩
      · exact hcleared.again
      · show Cleared ctx.state ctx₁.state.clearLoginState
        rw [hkept]
        exact cleared_clearLoginState ctx.state

end Logout

/-! ## The books over a run -/

/-- What the calls about logins do to the books. -/
structure QuietStep (s s' : SlotState) : Prop where
  memory : s'.memoryObjects ⊆ s.memoryObjects
  entries : ∀ h : ObjectHandle, h.toNat < handleBound s → h ∉ keys s.tokenObjectHandles →
    h ∉ keys s'.tokenObjectHandles ∧
      (mapGet s'.backedObjectHandles h ≠ none → mapGet s.backedObjectHandles h ≠ none)
  orphans : ∀ h, Orphan s' h → Orphan s h ∨ PrivateBacked s h

section Quiet

variable {s s₁ s₂ : SlotState} {ctx ctx₁ : SlotContext}

/-- Nothing happens. -/
theorem QuietStep.refl (s : SlotState) : QuietStep s s :=
  ⟨List.Subset.refl _, fun _ _ hkey => ⟨hkey, id⟩, fun _ ho => .inl ho⟩

/-- One step after the other. -/
theorem QuietStep.trans (hs : LiveInvariant s) (hlive : LiveStep s s₁) (h : QuietStep s s₁)
    (h₁ : QuietStep s₁ s₂) : QuietStep s s₂ where
  memory := fun _ hentry => h.memory (h₁.memory hentry)
  entries := by
    intro handle hbelow hkey
    obtain ⟨hkey₁, hentry₁⟩ := h.entries handle hbelow hkey
    obtain ⟨hkey₂, hentry₂⟩ := h₁.entries handle (hbelow.trans_le hlive.bound) hkey₁
    exact ⟨hkey₂, fun hsome => hentry₁ (hentry₂ hsome)⟩
  orphans := by
    intro handle ho
    rcases h₁.orphans handle ho with ho₁ | ⟨hentry, object, hobject, hprivate⟩
    · exact h.orphans handle ho₁
    · have hmem := h.memory hobject
      have hkey := mem_keys_of_mem hmem
      have hbelow := hs.below handle (mem_liveHandles.mpr (.inl hkey))
      exact .inr ⟨(h.entries handle hbelow (hs.disjoint handle hkey)).2 hentry, object, hmem,
        hprivate⟩

/-- `clear_login_state` drops the private session objects only. -/
theorem clearLoginState_quiet (s : SlotState) : QuietStep s s.clearLoginState where
  memory := List.filter_subset_self _
  entries := fun _ _ hkey => ⟨hkey, id⟩
  orphans := by
    intro handle ho
    by_cases hlive : handle ∈ s.liveHandles
    · refine .inr ⟨ho.1, ?_⟩
      rcases mem_liveHandles.mp hlive with hmemory | htoken
      · obtain ⟨object, hobject⟩ := mem_keys.mp hmemory
        refine ⟨object, hobject, ?_⟩
        by_contra hkept
        have hmem : (handle, object) ∈ s.clearLoginState.memoryObjects := by
          refine (cleared_clearLoginState s).mem_iff.mpr ⟨hobject, ?_⟩
          simpa [or_iff_not_imp_left] using hkept
        exact ho.2 (mem_liveHandles.mpr (.inl (mem_keys_of_mem hmem)))
      · have hkept : handle ∈ s.clearLoginState.liveHandles := mem_liveHandles.mpr (.inr htoken)
        exact absurd hkept ho.2
    · exact .inl ⟨ho.1, hlive⟩

/-- A move of a login is quiet. -/
theorem LoginMove.quiet (h : LoginMove ctx ctx₁) (hctx : LiveInvariant ctx.state) :
    QuietStep ctx.state ctx₁.state := by
  cases h with
  | login active role => exact QuietStep.refl _
  | cleared => exact clearLoginState_quiet ctx.state
  | refreshed answers =>
    have hedits := refresh_edits ctx.state answers
    obtain ⟨hframe, -⟩ := ListEdits.frame hedits hctx
    have hlifted : Edits (IsOpen ctx) ctx.state (ctx.state.refresh answers).2 := hedits.edits
    refine ⟨?_, fun handle hbelow hkey => ?_, fun handle ho => .inl (hlifted.orphan ho)⟩
    · exact fun entry hentry => hframe.memory ▸ hentry
    · obtain ⟨hkey', hentry⟩ := hframe.entries handle hbelow hkey
      exact ⟨hkey', fun hsome => hentry ▸ hsome⟩
  | closed session =>
    refine ⟨removeObjectHandles_subset _ _, fun handle hbelow hkey => ⟨?_, fun hsome => ?_⟩,
      fun handle ho => .inl (removeObjectHandles_orphan ho)⟩
    · show handle ∉ keys (removeObjectHandles _ _).tokenObjectHandles
      rw [removeObjectHandles_token]
      exact fun hmem => hkey (keys_filter_subset _ _ hmem)
    · intro hnone
      refine hsome ?_
      show mapGet (removeObjectHandles _ _).backedObjectHandles handle = none
      rw [removeObjectHandles_entry, hnone, ite_self]
  | opened readWrite halloc =>
    rw [allocateSession_sessions halloc]
    exact QuietStep.refl _
  | unregistered halloc =>
    rw [allocateSession_sessions halloc]
    exact QuietStep.refl _

/-- Moves of a login are quiet. -/
theorem LoginMoves.quiet (h : LoginMoves ctx ctx₁) (hctx : LiveInvariant ctx.state) :
    QuietStep ctx.state ctx₁.state := by
  induction h with
  | refl => exact QuietStep.refl _
  | tail hmoves hmove ih =>
    have hlive := LoginMoves.live hmoves hctx
    exact ih.trans hctx hlive (hmove.quiet hlive.inv)

/-- Object calls make no orphan. -/
theorem ObjectMoves.orphan (h : ObjectMoves ctx ctx₁) (ho : Orphan ctx₁.state handle) :
    Orphan ctx.state handle := by
  induction h with
  | refl => exact ho
  | tail _ hmove ih =>
    refine ih ?_
    cases hmove with
    | published h => exact Edits.orphan h ho
    | stored | session => exact ho
    | counter halloc =>
      rw [allocateSession_sessions halloc] at ho
      exact ho

end Quiet

/-- A call that takes no backed object out of the map directly. -/
def KeepsBooks (ctx : SlotContext) : SlotCall → Prop
  | .closeAllSessions _ =>
    ∀ h ∈ keys ctx.state.memoryObjects, mapGet ctx.state.backedObjectHandles h = none
  | _ => ∀ h, ¬ PrivateBacked ctx.state h

variable (encode : BackedEncoding)

/-- One call on a slot. -/
def callStep (ctx : SlotContext) (call : SlotCall) : Option SlotContext :=
  some (ctx.perform encode call).2

/-- A call makes no orphan if it keeps the books. -/
theorem perform_orphan (hctx : LiveInvariant ctx.state) {call : SlotCall}
    (hkeeps : KeepsBooks ctx call) (ho : Orphan (ctx.perform encode call).2.state handle) :
    Orphan ctx.state handle := by
  cases perform_moves encode hctx call with
  | login hcall hmoves =>
    rcases (hmoves.quiet hctx).orphans handle ho with hold | hprivate
    · exact hold
    · cases call <;> first | exact absurd hprivate (hkeeps handle) | cases hcall
  | object hmoves => exact hmoves.orphan ho
  | search operation hcall hmoves hfound heq =>
    rw [heq] at ho
    exact hmoves.orphan ho
  | closeAll answers heq =>
    have hquiet := (closingSlot_moves ctx answers).quiet hctx
    have hentry := ho.1
    -- a session object that is backed is excluded by the condition
    have hunbacked : handle ∉ keys ctx.state.memoryObjects := by
      intro hmem
      have hbelow := hctx.below handle (mem_liveHandles.mpr (.inl hmem))
      exact (hquiet.entries handle hbelow (hctx.disjoint handle hmem)).2 hentry (hkeeps handle hmem)
    have hdead : handle ∉ (closingSlot ctx answers).state.liveHandles := by
      intro hlive
      rcases mem_liveHandles.mp hlive with hmemory | htoken
      · obtain ⟨object, hobject⟩ := mem_keys.mp hmemory
        exact hunbacked (mem_keys_of_mem (hquiet.memory hobject))
      · exact ho.2 (mem_liveHandles.mpr (.inr htoken))
    rcases hquiet.orphans handle ⟨hentry, hdead⟩ with hold | ⟨-, object, hobject, -⟩
    · exact hold
    · exact absurd (mem_keys_of_mem hobject) hunbacked

/-- **The books over a run.**  If no call takes a backed object out of the map directly, every entry
is one of an object that exists. -/
theorem after_orphan (calls : List SlotCall) (hctx : LiveInvariant ctx.state)
    (halong : Along (callStep encode) KeepsBooks ctx calls)
    (ho : Orphan (ctx.after encode calls).state handle) : Orphan ctx.state handle := by
  induction calls generalizing ctx with
  | nil => exact ho
  | cons call calls ih =>
    have hrest := ih (perform_live encode hctx call).inv (halong.2 _ rfl) ho
    exact perform_orphan encode hctx halong.1 hrest

/-! ## What is left -/

/-- No private session object is resolvable. -/
def PrivateUnresolvable (s : SlotState) : Prop :=
  ∀ (answers : Answers) (handle : ObjectHandle) (object : TokenObject),
    s.resolveObject answers handle = .ok (some object) → object.token = false →
      object.isPrivate = false

/-- Nothing is left of an object that a call has removed: no entry in the books, and no record in the
storage of its session unless an object of that session shares it. -/
structure Forgotten (ctx ctx' : SlotContext) (handle : ObjectHandle) (object : TokenObject) :
    Prop where
  entry : mapGet ctx'.state.backedObjectHandles handle = none
  record : ∀ reference creator session',
    mapGet ctx.state.backedObjectHandles handle = some reference →
    object.creatorSession = some creator → mapGet ctx'.sessions creator = some session' →
    reference ∈ session'.storage →
      ∃ other ∈ ctx'.state.memoryObjects, other.2.creatorSession = some creator ∧
        mapGet ctx'.state.backedObjectHandles other.1 = some reference

/-- Nothing is left of the objects that a call has removed. -/
def NothingLeft (ctx ctx' : SlotContext) : Prop :=
  ∀ entry ∈ ctx.state.memoryObjects, entry.1 ∉ keys ctx'.state.memoryObjects →
    Forgotten ctx ctx' entry.1 entry.2

/-- The public session objects are the same as before, with their entries. -/
def PublicKept (ctx ctx' : SlotContext) : Prop :=
  ∀ entry ∈ ctx.state.memoryObjects, entry.2.token = false → entry.2.isPrivate = false →
    entry ∈ ctx'.state.memoryObjects ∧
      mapGet ctx'.state.backedObjectHandles entry.1 = mapGet ctx.state.backedObjectHandles entry.1

section Left

variable {ctx ctx' : SlotContext}

/-- Private session objects are gone. -/
theorem privateUnresolvable_of (hs : LiveInvariant s)
    (hmemory : ∀ entry ∈ s.memoryObjects, entry.2.token = true ∨ entry.2.isPrivate = false) :
    PrivateUnresolvable s := by
  intro answers handle object hresolved htoken
  by_cases hkey : handle ∈ keys s.tokenObjectHandles
  · rw [resolveObject_token hs.disjoint hs.stored hresolved hkey] at htoken
    cases htoken
  · rcases hmemory _ (resolveObject_memory hresolved hkey) with h | h
    · rw [h] at htoken
      cases htoken
    · exact h

/-- A handle names one memory object. -/
theorem memory_unique (hs : LiveInvariant s) {object object' : TokenObject}
    (h : (handle, object) ∈ s.memoryObjects) (h' : (handle, object') ∈ s.memoryObjects) :
    object = object' :=
  Option.some.inj (((mapGet_eq_some_iff hs.memoryNodup).mpr h).symm.trans
    ((mapGet_eq_some_iff hs.memoryNodup).mpr h'))

/-- The private session objects go. -/
theorem Cleared.gone_iff (hs : LiveInvariant ctx.state) (h : Cleared ctx.state ctx'.state)
    (hentry : entry ∈ ctx.state.memoryObjects) :
    entry.1 ∉ keys ctx'.state.memoryObjects ↔
      entry.2.token = false ∧ entry.2.isPrivate = true := by
  constructor
  · intro hgone
    by_contra hkept
    refine hgone (mem_keys.mpr ⟨entry.2, h.mem_iff.mpr ⟨hentry, ?_⟩⟩)
    simpa [or_iff_not_imp_left] using hkept
  · rintro ⟨htoken, hprivate⟩ hmem
    obtain ⟨object, hobject⟩ := mem_keys.mp hmem
    obtain ⟨hold, hkept⟩ := h.mem_iff.mp hobject
    grind [memory_unique]

/-- Something is left of the private session objects that are backed, and of no other object. -/
theorem Cleared.nothingLeft_iff (hs : LiveInvariant ctx.state) (h : Cleared ctx.state ctx'.state) :
    NothingLeft ctx ctx' ↔ ∀ handle, ¬ PrivateBacked ctx.state handle := by
  constructor
  · rintro hleft handle ⟨hentry, object, hobject, hprivate⟩
    have hgone := (h.gone_iff hs hobject).mpr hprivate
    have hkey := mem_keys_of_mem hobject
    exact hentry ((h.entries handle hkey).symm.trans (hleft _ hobject hgone).entry)
  · intro hnone entry hentry hgone
    have hprivate := (h.gone_iff hs hentry).mp hgone
    have hbefore : mapGet ctx.state.backedObjectHandles entry.1 = none := by
      by_contra hsome
      exact hnone entry.1 ⟨hsome, entry.2, hentry, hprivate⟩
    have hkey : entry.1 ∈ keys ctx.state.memoryObjects := List.mem_map.mpr ⟨entry, hentry, rfl⟩
    exact ⟨(h.entries entry.1 hkey).trans hbefore, by simp [hbefore]⟩

/-- Public objects are kept. -/
theorem Cleared.publicKept (h : Cleared ctx.state ctx'.state) : PublicKept ctx ctx' := by
  intro entry hentry htoken hpublic
  refine ⟨h.mem_iff.mpr ⟨hentry, .inr hpublic⟩, h.entries entry.1 ?_⟩
  exact List.mem_map.mpr ⟨entry, hentry, rfl⟩

/-! ### Closing the last session -/

/-- A session is the only one of the slot. -/
def IsLast (ctx : SlotContext) (session : SessionHandle) : Prop :=
  IsOpen ctx session ∧ ∀ c, IsOpen ctx c → c = session

/-- The end of the last session. -/
theorem closeSession_last (hlast : IsLast ctx session) (answers : LogoutAnswers) :
    let start := closingSlot ctx answers
    (ctx.closeSession session answers).2.sessions = [] ∧
      (ctx.closeSession session answers).2.state = start.state.closeSession session := by
  intro start
  have hall : (ctx.sessions.all fun entry => entry.1 = session) = true := by
    rw [List.all_eq_true]
    intro entry hentry
    exact decide_eq_true (hlast.2 entry.1 (List.mem_map.mpr ⟨entry, hentry, rfl⟩))
  obtain ⟨found, hfound⟩ : ∃ found, ctx.getSession session = .ok found := by
    unfold getSession
    cases hget : mapGet ctx.sessions session with
    | none => exact absurd hlast.1 (mapGet_eq_none_iff.mp hget)
    | some found => exact ⟨found, rfl⟩
  unfold SlotContext.closeSession
  rw [hfound]
  dsimp only
  rw [if_pos hall]
  refine ⟨?_, rfl⟩
  -- every session that is left has the handle of the closed one
  have hempty : keys (publish { start with sessions := mapRemove start.sessions session }
      (start.state.closeSession session)).sessions = [] := by
    rw [keys_publish, List.eq_nil_iff_forall_not_mem]
    intro c hc
    obtain ⟨hopen, hne⟩ := mem_keys_mapRemove.mp hc
    exact hne (hlast.2 c ((closing_isOpen answers c).mp hopen))
  exact List.map_eq_nil_iff.mp hempty

/-- No session object is left when the last session has been closed. -/
theorem closeSession_objects (hctx : OwnerInvariant ctx) (hlast : IsLast ctx session)
    (answers : LogoutAnswers) : ∀ entry ∈ (ctx.closeSession session answers).2.state.memoryObjects,
      entry.2.token = true := by
  intro entry hentry
  by_contra htoken
  have hinv := (closeSession_moves ctx session answers).owners hctx
  obtain ⟨c, hc, -⟩ := (hinv.owned entry hentry).session (by simpa using htoken)
  grind [keys, closeSession_last, IsOpen]

/-- A session that is closed has no storage. -/
theorem forgotten_of_closed (object : TokenObject)
    (hentry : mapGet ctx'.state.backedObjectHandles handle = none) (hclosed : ctx'.sessions = []) :
    Forgotten ctx ctx' handle object := by
  refine ⟨hentry, fun reference creator session' _ _ hsession => ?_⟩
  rw [hclosed] at hsession
  cases hsession

section

variable (hs : LiveInvariant ctx.state)

include hs

/-- Something is left of the private session objects that are backed, if the login state is cleared
before the session is closed. -/
theorem closeSession_nothingLeft_iff (hlast : IsLast ctx session) (answers : LogoutAnswers) :
    NothingLeft ctx (ctx.closeSession session answers).2 ↔
      (clearsLogin ctx answers.lost → ∀ handle, ¬ PrivateBacked ctx.state handle) := by
  obtain ⟨hsessions, hstate⟩ := closeSession_last hlast answers
  obtain ⟨hclears, hkept⟩ := closing_state hs answers
  generalize closingSlot ctx answers = start at hstate hclears hkept
  have hentry : ∀ handle,
      mapGet (ctx.closeSession session answers).2.state.backedObjectHandles handle =
        if handle ∈ (start.state.memoryObjects.filter fun entry =>
            entry.2.creatorSession = some session).map (·.1) then none
        else mapGet start.state.backedObjectHandles handle := by
    intro handle
    rw [hstate]
    exact removeObjectHandles_entry _ _ handle
  -- an object that is in the map when the session goes is removed with its entry
  have hremoved : ∀ handle, handle ∈ keys start.state.memoryObjects →
      handle ∉ keys (ctx.closeSession session answers).2.state.memoryObjects →
      mapGet (ctx.closeSession session answers).2.state.backedObjectHandles handle = none := by
    intro handle hmem hgone
    rw [hentry]
    by_cases hcreated : handle ∈ (start.state.memoryObjects.filter fun entry =>
        entry.2.creatorSession = some session).map (·.1)
    · rw [if_pos hcreated]
    · grind [SlotState.closeSession, removeObjectHandles_memory, mem_keys]
  constructor
  · rintro hleft hcleared handle ⟨hsome, object, hobject, hprivate⟩
    have h := hclears hcleared
    have hgone : handle ∉ keys start.state.memoryObjects := (h.gone_iff hs hobject).mpr hprivate
    have hgone' : handle ∉ keys (ctx.closeSession session answers).2.state.memoryObjects := by
      intro hmem
      rw [hstate] at hmem
      obtain ⟨object', hobject'⟩ := mem_keys.mp hmem
      exact hgone (mem_keys_of_mem (removeObjectHandles_subset _ _ hobject'))
    have hnone := (hleft _ hobject hgone').entry
    rw [hentry, if_neg, h.entries handle (mem_keys_of_mem hobject)] at hnone
    · exact hsome hnone
    · intro hmem
      obtain ⟨entry, hentry', rfl⟩ := List.mem_map.mp hmem
      exact hgone (List.mem_map.mpr ⟨entry, (List.mem_filter.mp hentry').1, rfl⟩)
  · intro hnone entry hmem hgone
    refine forgotten_of_closed entry.2 ?_ hsessions
    by_cases hstart : entry.1 ∈ keys start.state.memoryObjects
    · exact hremoved entry.1 hstart hgone
    · by_cases hcleared : clearsLogin ctx answers.lost
      · have h := hclears hcleared
        have hprivate := (h.gone_iff hs hmem).mp hstart
        have hkey : entry.1 ∈ keys ctx.state.memoryObjects := List.mem_map.mpr ⟨entry, hmem, rfl⟩
        have hbefore : mapGet ctx.state.backedObjectHandles entry.1 = none := by
          by_contra hsome
          exact hnone hcleared entry.1 ⟨hsome, entry.2, hmem, hprivate⟩
        rw [hentry, h.entries entry.1 hkey, hbefore, ite_self]
      · refine absurd (List.mem_map.mpr ⟨entry, ?_, rfl⟩) hstart
        rw [hkept hcleared]
        exact hmem

/-- The entries of session objects when all sessions are closed. -/
theorem closing_entries (answers : LogoutAnswers) (hkey : handle ∈ keys ctx.state.memoryObjects) :
    mapGet (ctx.closeAllSessions answers).2.state.backedObjectHandles handle =
      mapGet ctx.state.backedObjectHandles handle := by
  obtain ⟨hclears, hkept⟩ := closing_state hs answers
  show mapGet (closingSlot ctx answers).state.backedObjectHandles handle = _
  by_cases hcleared : clearsLogin ctx answers.lost
  · exact (hclears hcleared).entries handle hkey
  · rw [hkept hcleared]

/-- `C_CloseAllSessions` drops the session objects and no others. -/
theorem closeAllSessions_gone_iff (hctx : OwnerInvariant ctx) (answers : LogoutAnswers)
    (hentry : entry ∈ ctx.state.memoryObjects) :
    entry.1 ∉ keys (ctx.closeAllSessions answers).2.state.memoryObjects ↔
      entry.2.token = false := by
  constructor
  · intro hgone
    by_contra htoken
    have htoken : entry.2.token = true := by simpa using htoken
    have hnone := (hctx.owned entry hentry).token htoken
    obtain ⟨hclears, hkept⟩ := closing_state hs answers
    have hstart : entry ∈ (closingSlot ctx answers).state.memoryObjects := by
      by_cases hcleared : clearsLogin ctx answers.lost
      · exact (hclears hcleared).mem_iff.mpr ⟨hentry, .inl htoken⟩
      · rw [hkept hcleared]
        exact hentry
    refine hgone (List.mem_map.mpr ⟨entry, List.mem_filter.mpr ⟨hstart, ?_⟩, rfl⟩)
    rw [hnone]
  · intro htoken hmem
    obtain ⟨object, hobject⟩ := mem_keys.mp hmem
    have hold := ((closingSlot_moves ctx answers).quiet hs).memory
      (List.mem_filter.mp hobject).1
    grind [memory_unique, closeAllSessions_objects]

/-- Something is left of every session object that is backed. -/
theorem closeAllSessions_nothingLeft_iff (hctx : OwnerInvariant ctx) (answers : LogoutAnswers) :
    NothingLeft ctx (ctx.closeAllSessions answers).2 ↔
      ∀ entry ∈ ctx.state.memoryObjects, entry.2.token = false →
        mapGet ctx.state.backedObjectHandles entry.1 = none := by
  constructor
  · intro hleft entry hentry htoken
    have hkey : entry.1 ∈ keys ctx.state.memoryObjects := List.mem_map.mpr ⟨entry, hentry, rfl⟩
    rw [← closing_entries hs answers hkey]
    exact (hleft entry hentry ((closeAllSessions_gone_iff hs hctx answers hentry).mpr htoken)).entry
  · intro hnone entry hentry hgone
    refine forgotten_of_closed entry.2 ?_ rfl
    grind [keys, closing_entries, closeAllSessions_gone_iff]

end

end Left

/-! ## Every reachable state -/

/-- Every call keeps the owners. -/
theorem perform_owners (hs : LiveInvariant ctx.state) (hctx : OwnerInvariant ctx) (call : SlotCall) :
    OwnerInvariant (ctx.perform encode call).2 := by
  cases perform_moves encode hs call with
  | login _ hmoves => exact hmoves.owners hctx
  | object hmoves => exact hmoves.owners hctx
  | search operation _ hmoves hfound heq =>
    rw [heq]
    have hinv := hmoves.owners hctx
    refine hinv.of_open (fun c => ?_) le_rfl hinv.owned
    rw [isOpen_setSession, or_iff_right_iff_imp]
    rintro rfl
    exact (hmoves.isOpen c).mpr (mem_keys_of_mem (isOpen_of_getSession hfound))
  | closeAll answers heq => exact closeAllSessions_owners hctx answers

/-- What holds of a slot in every reachable state. -/
theorem after_owners (calls : List SlotCall) (hs : LiveInvariant ctx.state)
    (hctx : OwnerInvariant ctx) :
    LiveInvariant (ctx.after encode calls).state ∧ OwnerInvariant (ctx.after encode calls) := by
  induction calls generalizing ctx with
  | nil => exact ⟨hs, hctx⟩
  | cons call calls ih =>
    exact ih (perform_live encode hs call).inv (perform_owners encode hs hctx call)

/-- A new slot has no objects. -/
theorem ownerInvariant_new (slotId : Ulong) (nextObject nextSession : UInt64) :
    OwnerInvariant (new slotId nextObject nextSession) :=
  ⟨fun _ hc => absurd hc List.not_mem_nil, fun _ hentry => absurd hentry List.not_mem_nil⟩

/-- **What a logout and the end of the sessions leave behind.**  In every reachable state:

* after a logout that succeeds no private session object is resolvable, no session has an operation,
  and the public session objects are as before;
* after the last session has been closed, and after `C_CloseAllSessions`, there is no session and no
  session object;
* something of a removed object stays exactly if it was backed and went by `clear_login_state` or by
  `C_CloseAllSessions`.

If no call before has taken a backed object out of the map in these ways, every entry in the books
is one of an object that exists. -/
theorem logout_and_close_leave (encode : BackedEncoding) (slotId : Ulong)
    (nextObject nextSession : UInt64) (calls : List SlotCall) :
    let start := SlotContext.new slotId nextObject nextSession
    let ctx := start.after encode calls
    (∀ (session : SessionHandle) (answers : LogoutAnswers),
      (ctx.logout session answers).1 = .ok () →
        PrivateUnresolvable (ctx.logout session answers).2.state ∧
        Idle (ctx.logout session answers).2 ∧
        PublicKept ctx (ctx.logout session answers).2 ∧
        (NothingLeft ctx (ctx.logout session answers).2 ↔
          ∀ handle, ¬ PrivateBacked ctx.state handle)) ∧
    (∀ (session : SessionHandle) (answers : LogoutAnswers), IsLast ctx session →
      PrivateUnresolvable (ctx.closeSession session answers).2.state ∧
      (ctx.closeSession session answers).2.sessions = [] ∧
      (∀ entry ∈ (ctx.closeSession session answers).2.state.memoryObjects,
        entry.2.token = true) ∧
      (NothingLeft ctx (ctx.closeSession session answers).2 ↔
        (clearsLogin ctx answers.lost → ∀ handle, ¬ PrivateBacked ctx.state handle))) ∧
    (∀ answers : LogoutAnswers,
      PrivateUnresolvable (ctx.closeAllSessions answers).2.state ∧
      (ctx.closeAllSessions answers).2.sessions = [] ∧
      (∀ entry ∈ (ctx.closeAllSessions answers).2.state.memoryObjects, entry.2.token = true) ∧
      (NothingLeft ctx (ctx.closeAllSessions answers).2 ↔
        ∀ entry ∈ ctx.state.memoryObjects, entry.2.token = false →
          mapGet ctx.state.backedObjectHandles entry.1 = none)) ∧
    (Along (callStep encode) KeepsBooks start calls → ∀ handle, ¬ Orphan ctx.state handle) := by
  intro start ctx
  obtain ⟨hs, howners⟩ : LiveInvariant ctx.state ∧ OwnerInvariant ctx :=
    after_owners encode calls (liveInvariant_empty slotId nextObject)
      (ownerInvariant_new slotId nextObject nextSession)
  refine ⟨fun session answers hok => ?_, fun session answers hlast => ?_, fun answers => ?_,
    fun halong handle ho => ?_⟩
  · obtain ⟨hcleared, hidle⟩ := logout_cleared hs hok
    have hs' := ((logout_moves ctx session answers).live hs).inv
    refine ⟨privateUnresolvable_of hs' fun entry hentry => (hcleared.mem_iff.mp hentry).2, hidle,
      hcleared.publicKept, hcleared.nothingLeft_iff hs⟩
  · have hs' := ((closeSession_moves ctx session answers).live hs).inv
    have hobjects := closeSession_objects howners hlast answers
    exact ⟨privateUnresolvable_of hs' fun entry hentry => Or.inl (hobjects entry hentry),
      (closeSession_last hlast answers).1, hobjects, closeSession_nothingLeft_iff hs hlast answers⟩
  · have hs' := (closeAllSessions_live hs answers).inv
    have hobjects := closeAllSessions_objects howners answers
    exact ⟨privateUnresolvable_of hs' fun entry hentry => Or.inl (hobjects entry hentry), rfl,
      hobjects, closeAllSessions_nothingLeft_iff hs howners answers⟩
  · have hempty := after_orphan encode calls (liveInvariant_empty slotId nextObject) halong ho
    exact hempty.1 rfl

/-! ### A private key object -/

/-- A public-key object in the storage of its session. -/
def storedKey (isPrivate : Bool) : TokenObject :=
  { class_ := Cko.publicKey, keyType := Ckk.ec, isPrivate := isPrivate,
    material := .pub (.ec [] []) }

/-- Every object has the same record. -/
def keyEncoding : BackedEncoding := fun _ => .ok ⟨[1], []⟩

/-- A slot that lists nothing. -/
def noListing : Answers := { device := .ok [], stored := .ok [] }

/-- A user logs in and creates the object. -/
def keyCalls (isPrivate : Bool) : List SlotCall :=
  [.openSession { readWrite := true } {}, .login 1 .user { listing := noListing },
    .storeBackedObject 1 noListing {} (storedKey isPrivate)]

/-- The slot after these calls. -/
def keySlot (isPrivate : Bool) : SlotContext :=
  (SlotContext.new 1 1 1).after keyEncoding (keyCalls isPrivate)

/-- The logout of the user. -/
def keyLogout : LogoutAnswers := { listing := noListing }

/-- A private object is gone after the logout, but its entry and its record stay. -/
theorem logout_leaves_entry_and_record :
    ((keySlot true).logout 1 keyLogout).1 = .ok () ∧
      ((keySlot true).logout 1 keyLogout).2.state.memoryObjects = [] ∧
      ((keySlot true).logout 1 keyLogout).2.state.backedObjectHandles = [(1, [1])] ∧
      ((keySlot true).logout 1 keyLogout).2.sessions.map (fun entry => entry.2.storage) = [[[1]]] ∧
      ¬ NothingLeft (keySlot true) ((keySlot true).logout 1 keyLogout).2 := by
  refine ⟨by decide +kernel, by decide +kernel, by decide +kernel, by decide +kernel, fun hleft => ?_⟩
  have hobject : (keySlot true).state.memoryObjects ≠ [] := by decide +kernel
  obtain ⟨entry, hentry⟩ := List.exists_mem_of_ne_nil _ hobject
  have hgone : ∀ entry ∈ (keySlot true).state.memoryObjects,
      entry.1 ∉ keys ((keySlot true).logout 1 keyLogout).2.state.memoryObjects ∧
        mapGet ((keySlot true).logout 1 keyLogout).2.state.backedObjectHandles entry.1 ≠ none := by
    decide +kernel
  exact (hgone entry hentry).2 (hleft entry hentry (hgone entry hentry).1).entry

/-- Nothing is left of a public object, which stays until the session is closed. -/
theorem logout_and_close_leave_public :
    (((keySlot false).logout 1 keyLogout).1 = .ok () ∧
      NothingLeft (keySlot false) ((keySlot false).logout 1 keyLogout).2) ∧
    IsLast (keySlot false) 1 ∧
      NothingLeft (keySlot false) ((keySlot false).closeSession 1 keyLogout).2 ∧
    ∀ handle, ¬ Orphan (keySlot false).state handle := by
  obtain ⟨hlogout, hclose, -, hbooks⟩ :=
    logout_and_close_leave keyEncoding 1 1 1 (keyCalls false)
  have hok : ((keySlot false).logout 1 keyLogout).1 = .ok () := by decide +kernel
  have hpublic : ∀ handle, ¬ PrivateBacked (keySlot false).state handle := by
    rintro handle ⟨-, object, hobject, -, hprivate⟩
    have hall : ∀ entry ∈ (keySlot false).state.memoryObjects, entry.2.isPrivate = false := by
      decide +kernel
    exact absurd (hprivate.symm.trans (hall _ hobject)) (fun h => nomatch h)
  have hkeys : keys (keySlot false).sessions = [1] := by decide +kernel
  have hlast : IsLast (keySlot false) 1 := by simp [IsLast, IsOpen, *]
  refine ⟨⟨hok, (hlogout 1 keyLogout hok).2.2.2.mpr hpublic⟩, hlast,
    (hclose 1 keyLogout hlast).2.2.2.mpr fun _ => hpublic, hbooks ?_⟩
  -- no object exists before the last of the calls
  have hempty : ∀ {ctx : SlotContext}, ctx.state.memoryObjects = [] →
      ∀ handle, ¬ PrivateBacked ctx.state handle := by
    rintro ctx hmemory handle ⟨-, object, hobject, -⟩
    rw [hmemory] at hobject
    cases hobject
  refine ⟨hempty (by decide +kernel), fun ctx₁ h₁ => ?_⟩
  cases h₁
  refine ⟨hempty (by decide +kernel), fun ctx₂ h₂ => ?_⟩
  cases h₂
  exact ⟨hempty (by decide +kernel), fun _ _ => trivial⟩

end Pkcs11rs.Analysis
