import Pkcs11rs.Analysis.SlotMoves

/-!
# Searching for objects

A search of a session and what other calls on the slot do to it.  `FindOperation.keep` is the search
that is left when some handles are gone, on either side of the cursor; `ContextStep` says that a
call leaves of every search the handles that are live.

`object_search_exact` follows a search from `C_FindObjectsInit` over any calls on the slot: what is
still to be returned are the handles that matched, are live and have not been returned, in
ascending order.
-/

set_option autoImplicit false

namespace Pkcs11rs.Analysis

open Pkcs11rs.Library Pkcs11rs.Model FindOperation SlotContext

variable {s : SlotState} {session : SessionHandle} {objects : List (ObjectHandle × TokenObject)}
  {matched : List ObjectHandle} {loggedIn : Bool}
  {matching : ObjectHandle → TokenObject → Except Rv Bool} {handles : List ObjectHandle}
  {answers : Answers} {operation operation' : FindOperation}

/-! ## A search and its cursor -/

/-- The search that is left of the handles with a property. -/
def keepHandles (operation : FindOperation) (p : ObjectHandle → Bool) : FindOperation where
  objects := operation.objects.filter p
  next := ((operation.objects.take operation.next).filter p).length

section Cursor

variable {operation : FindOperation}

/-- What is removed before the cursor. -/
theorem removedBeforeCursor_le (operation : FindOperation) (handle : ObjectHandle) :
    operation.removedBeforeCursor handle ≤ operation.next := by
  grind [removedBeforeCursor]

/-- A handle is forgotten in a search. -/
theorem forget_eq_keep (hnext : operation.next ≤ operation.objects.length) (handle : ObjectHandle) :
    operation.forget handle = keepHandles operation fun candidate => candidate ≠ handle := by
  unfold forget keepHandles removedBeforeCursor
  congr 1
  -- what stands before the cursor is the handle or is kept
  grind [List.length_eq_length_filter_add]

section

variable (operation : FindOperation) (p : ObjectHandle → Bool)

/-- The cursor stays inside. -/
theorem keep_next_le : (keepHandles operation p).next ≤ (keepHandles operation p).objects.length :=
  ((List.take_sublist _ _).filter p).length_le

/-- The handles before the cursor are the kept ones of those that were there. -/
theorem filter_split : operation.objects.filter p =
      (operation.objects.take operation.next).filter p ++ operation.remaining.filter p := by
  rw [remaining, ← List.filter_append, List.take_append_drop]

/-- What was returned and is kept. -/
theorem keep_take : (keepHandles operation p).objects.take (keepHandles operation p).next =
      (operation.objects.take operation.next).filter p := by
  show (operation.objects.filter p).take _ = _
  rw [filter_split operation p]
  exact List.take_left

/-- What remains and is kept. -/
theorem remaining_keep : (keepHandles operation p).remaining = operation.remaining.filter p := by
  show (operation.objects.filter p).drop _ = _
  rw [filter_split operation p]
  exact List.drop_left

/-- Handles are forgotten twice. -/
theorem keep_keep (q : ObjectHandle → Bool) :
    keepHandles (keepHandles operation p) q = keepHandles operation fun h => p h && q h := by
  have hobjects : (operation.objects.filter p).filter q =
      operation.objects.filter fun h => p h && q h := by
    rw [List.filter_filter]
    exact List.filter_congr fun h _ => Bool.and_comm _ _
  have htake : ((operation.objects.take operation.next).filter p).filter q =
      (operation.objects.take operation.next).filter fun h => p h && q h := by
    rw [List.filter_filter]
    exact List.filter_congr fun h _ => Bool.and_comm _ _
  show mk _ (((keepHandles operation p).objects.take _).filter q).length = FindOperation.mk _ _
  rw [keep_take, htake]
  exact congrArg (FindOperation.mk · _) hobjects

end

/-- Only the handles of the search matter. -/
theorem keep_congr {p q : ObjectHandle → Bool} (h : ∀ x ∈ operation.objects, p x = q x) :
    keepHandles operation p = keepHandles operation q := by grind [keepHandles, List.filter_congr]

/-- Nothing is forgotten. -/
theorem keep_all {p : ObjectHandle → Bool} (hnext : operation.next ≤ operation.objects.length)
    (h : ∀ x ∈ operation.objects, p x = true) : keepHandles operation p = operation := by
  unfold keepHandles
  rw [List.filter_eq_self.mpr h, List.filter_eq_self.mpr fun x hx => h x (List.mem_of_mem_take hx),
    List.length_take, min_eq_left hnext]

/-- Handles that are forgotten one after the other. -/
theorem foldl_forget (handles : List ObjectHandle) :
    ∀ {operation : FindOperation}, operation.next ≤ operation.objects.length →
      handles.foldl forget operation =
        keepHandles operation fun candidate => candidate ∉ handles := by
  induction handles with
  | nil =>
    intro operation hnext
    exact (keep_all hnext fun x _ => by simp).symm
  | cons handle handles ih =>
    intro operation hnext
    rw [List.foldl_cons, forget_eq_keep hnext, ih (keep_next_le _ _), keep_keep]
    exact keep_congr fun x _ => by simp [not_or]

end Cursor

/-! ## The searches of a slot -/

/-- The search of a session. -/
def searchOf (ctx : SlotContext) (session : SessionHandle) : Option FindOperation :=
  (mapGet ctx.sessions session).bind (·.findOperation)

/-- What holds of a search in every reachable state. -/
structure SearchValid (s : SlotState) (operation : FindOperation) : Prop where
  next_le : operation.next ≤ operation.objects.length
  sorted : operation.objects.Pairwise (· < ·)
  live : ∀ handle ∈ operation.objects, handle ∈ s.liveHandles

/-- What holds of a slot context in every reachable state. -/
structure ContextInvariant (ctx : SlotContext) : Prop where
  state : LiveInvariant ctx.state
  searches : ∀ session operation, searchOf ctx session = some operation →
    SearchValid ctx.state operation

/-- What a call other than `C_FindObjects` does to the searches that are active before it. -/
structure ContextStep (ctx ctx' : SlotContext) : Prop where
  state : LiveStep ctx.state ctx'.state
  searches : ∀ session operation', searchOf ctx' session = some operation' →
    ∃ operation, searchOf ctx session = some operation ∧
      operation' = keepHandles operation fun handle => handle ∈ ctx'.state.liveHandles

/-- A handle that is gone does not come back. -/
theorem LiveStep.live_of_live {s' : SlotState} (h : LiveStep s s') {handle : ObjectHandle}
    (hbelow : handle.toNat < handleBound s) (hlive : handle ∈ s'.liveHandles) :
    handle ∈ s.liveHandles := by
  rcases h.live handle hlive with hold | hnew
  · exact hold
  · omega

namespace ContextStep

variable {ctx ctx₁ ctx₂ : SlotContext}

/-- A step keeps the invariant. -/
theorem inv (h : ContextStep ctx ctx₁) (hctx : ContextInvariant ctx) : ContextInvariant ctx₁ where
  state := h.state.inv
  searches := by
    intro session operation' hsearch
    obtain ⟨operation, hold, rfl⟩ := h.searches session operation' hsearch
    have hvalid := hctx.searches session operation hold
    exact ⟨keep_next_le _ _, hvalid.sorted.filter _,
      fun handle hmem => by simpa using (List.mem_filter.mp hmem).2⟩

/-- A change of the context that leaves the handles alone and starts no search. -/
theorem of_state_eq (hctx : ContextInvariant ctx) (hstate : ctx₁.state = ctx.state)
    (hsearch : ∀ session operation, searchOf ctx₁ session = some operation →
      searchOf ctx session = some operation) : ContextStep ctx ctx₁ where
  state := by
    rw [hstate]
    exact LiveStep.refl hctx.state
  searches := by
    intro session operation' h
    have hold := hsearch session operation' h
    have hvalid := hctx.searches session operation' hold
    refine ⟨operation', hold, (keep_all hvalid.next_le fun x hx => ?_).symm⟩
    rw [hstate]
    exact decide_eq_true (hvalid.live x hx)

/-- Nothing happens. -/
theorem refl (hctx : ContextInvariant ctx) : ContextStep ctx ctx :=
  of_state_eq hctx rfl fun _ _ h => h

/-- A change that ends every search. -/
theorem of_no_search (hstate : LiveStep ctx.state ctx₁.state)
    (hnone : ∀ session, searchOf ctx₁ session = none) : ContextStep ctx ctx₁ where
  state := hstate
  searches := by
    intro session operation' h
    rw [hnone session] at h
    cases h

/-- One step after the other. -/
theorem trans (hctx : ContextInvariant ctx) (h : ContextStep ctx ctx₁)
    (h₁ : ContextStep ctx₁ ctx₂) : ContextStep ctx ctx₂ where
  state := h.state.trans h₁.state
  searches := by
    intro session operation₂ hsearch
    obtain ⟨operation₁, hsearch₁, rfl⟩ := h₁.searches session operation₂ hsearch
    obtain ⟨operation, hsearch₀, rfl⟩ := h.searches session operation₁ hsearch₁
    refine ⟨operation, hsearch₀, ?_⟩
    rw [keep_keep]
    refine keep_congr fun x hx => ?_
    have hlive := (hctx.searches session operation hsearch₀).live x hx
    have hbelow := (hctx.state.below x hlive).trans_le h.state.bound
    by_cases hx₂ : x ∈ ctx₂.state.liveHandles
    · simp [hx₂, h₁.state.live_of_live hbelow hx₂]
    · simp [hx₂]

end ContextStep

/-! ## The parts of the calls -/

section Parts

variable {ctx : SlotContext}

/-- The search when all sessions change. -/
theorem searchOf_mapSessions (ctx : SlotContext) (f : SessionContext → SessionContext)
    (session : SessionHandle) : searchOf (ctx.mapSessions f) session =
      (mapGet ctx.sessions session).bind fun found => (f found).findOperation := by
  unfold searchOf mapSessions
  rw [mapGet_map]
  cases mapGet ctx.sessions session <;> rfl

/-- The search when one session changes. -/
theorem searchOf_setSession (ctx : SlotContext) (session session' : SessionHandle)
    (changed : SessionContext) : searchOf (ctx.setSession session changed) session' =
      if session' = session then changed.findOperation else searchOf ctx session' := by
  unfold searchOf setSession
  rw [mapGet_mapInsert]
  split_ifs <;> rfl

/-- The search of a session. -/
theorem searchOf_of_getSession {found : SessionContext} (h : ctx.getSession session = .ok found) :
    searchOf ctx session = found.findOperation := by
  unfold getSession at h
  grind [searchOf]

section

variable (hctx : ContextInvariant ctx)

include hctx

/-- The handle maps after an operation, and what is left of the searches. -/
theorem publish_step {state : SlotState} (hstate : LiveStep ctx.state state) :
    ContextStep ctx (ctx.publish state) where
  state := hstate
  searches := by
    intro session operation' hsearch
    unfold publish forgetInSearches at hsearch
    rw [searchOf_mapSessions] at hsearch
    obtain ⟨found, hfound, hmap⟩ := Option.bind_eq_some_iff.mp hsearch
    obtain ⟨operation, hoperation, rfl⟩ := Option.map_eq_some_iff.mp hmap
    have hold : searchOf ctx session = some operation :=
      Option.bind_eq_some_iff.mpr ⟨found, hfound, hoperation⟩
    have hvalid := hctx.searches session operation hold
    refine ⟨operation, hold, ?_⟩
    rw [foldl_forget _ hvalid.next_le]
    refine keep_congr fun x hx => ?_
    have hlive := hvalid.live x hx
    by_cases hx' : x ∈ state.liveHandles
    · simp [SlotState.removedHandles, publish, forgetInSearches, mapSessions, hx']
    · simp [SlotState.removedHandles, publish, forgetInSearches, mapSessions, hx', hlive]

/-- A session that is put back without a new search. -/
theorem setSession_step {changed : SessionContext}
    (hchanged : ∀ operation, changed.findOperation = some operation →
      searchOf ctx session = some operation) :
    ContextStep ctx (ctx.setSession session changed) := by
  refine ContextStep.of_state_eq hctx rfl fun session' operation h => ?_
  grind [searchOf_setSession]

/-- A session is removed. -/
theorem removeSession_step (session : SessionHandle) :
    ContextStep ctx { ctx with sessions := mapRemove ctx.sessions session } := by
  grind [ContextStep.of_state_eq, searchOf, mapGet_mapRemove]

/-- The login ends. -/
theorem clearLoginState_step : ContextStep ctx ctx.clearLoginState := by
  refine ContextStep.of_no_search (clearLoginState_live hctx.state) fun session => ?_
  unfold clearLoginState
  rw [searchOf_mapSessions]
  cases mapGet _ session <;> rfl

/-- A session handle is allocated. -/
theorem allocateSession_step {ctx₁ : SlotContext} {handle : SessionHandle}
    (h : ctx.allocateSession = some (handle, ctx₁)) : ContextStep ctx ctx₁ := by
  rw [allocateSession_sessions h]
  exact ContextStep.of_state_eq hctx rfl fun _ _ h => h

end

end Parts

/-! ## Moves -/

section Moves

variable {ctx ctx₁ : SlotContext}

/-- A move of a login. -/
theorem LoginMove.step (h : LoginMove ctx ctx₁) (hctx : ContextInvariant ctx) :
    ContextStep ctx ctx₁ := by
  cases h with
  | login active role => exact ContextStep.of_state_eq hctx rfl fun _ _ h => h
  | cleared => exact clearLoginState_step hctx
  | refreshed answers =>
    exact publish_step hctx ((LoginMove.refreshed ctx answers).live hctx.state)
  | closed session =>
    -- the session goes, then the objects that it created
    have hremove := removeSession_step hctx session
    exact hremove.trans hctx (publish_step (hremove.inv hctx)
      (closeSession_live hctx.state session))
  | opened readWrite halloc =>
    have hcounter := allocateSession_step hctx halloc
    exact hcounter.trans hctx (setSession_step (hcounter.inv hctx) nofun)
  | unregistered halloc =>
    have hcounter := allocateSession_step hctx halloc
    exact hcounter.trans hctx (removeSession_step (hcounter.inv hctx) _)

/-- A move of an object call. -/
theorem ObjectMove.step (h : ObjectMove ctx ctx₁) (hctx : ContextInvariant ctx) :
    ContextStep ctx ctx₁ := by
  cases h with
  | published h => exact publish_step hctx (h.live hctx.state)
  | stored storage => exact ContextStep.of_state_eq hctx rfl fun _ _ h => h
  | session hfound hflags hsearch => grind [setSession_step, searchOf_of_getSession]
  | counter halloc => exact allocateSession_step hctx halloc

/-- Moves of a login. -/
theorem LoginMoves.step (h : LoginMoves ctx ctx₁) (hctx : ContextInvariant ctx) :
    ContextStep ctx ctx₁ := by
  induction h with
  | refl => exact ContextStep.refl hctx
  | tail _ hmove ih => exact ih.trans hctx (hmove.step (ih.inv hctx))

/-- Moves of an object call. -/
theorem ObjectMoves.step (h : ObjectMoves ctx ctx₁) (hctx : ContextInvariant ctx) :
    ContextStep ctx ctx₁ := by
  induction h with
  | refl => exact ContextStep.refl hctx
  | tail _ hmove ih => exact ih.trans hctx (hmove.step (ih.inv hctx))

/-- `C_CloseAllSessions`. -/
theorem closeAllSessions_step (hctx : ContextInvariant ctx) (answers : LogoutAnswers) :
    ContextStep ctx (ctx.closeAllSessions answers).2 :=
  ContextStep.of_no_search (closeAllSessions_live hctx.state answers) fun _ => rfl

end Moves

/-! ## Starting a search -/

section Start

variable {ctx : SlotContext}

/-- The first object or a later one. -/
theorem exists_mem_cons {handle x : ObjectHandle} {object : TokenObject}
    {P : ObjectHandle → TokenObject → Prop} : (∃ o, (x, o) ∈ (handle, object) :: objects ∧ P x o) ↔
      x = handle ∧ P handle object ∨ ∃ o, (x, o) ∈ objects ∧ P x o := by
  constructor
  · grind
  · grind

/-- An object that a search finds: it is visible and has the attributes of the template. -/
def FoundBy (loggedIn : Bool) (matching : ObjectHandle → TokenObject → Except Rv Bool)
    (handle : ObjectHandle) (object : TokenObject) : Prop :=
  object.isVisibleTo loggedIn = true ∧ matching handle object = .ok true

/-- The handles that the loop of `find_objects_init` collects. -/
theorem matchingHandles_spec (h : matchingHandles loggedIn matching objects = .ok handles) :
    handles.Sublist (keys objects) ∧
      ∀ x, x ∈ handles ↔ ∃ object, (x, object) ∈ objects ∧ FoundBy loggedIn matching x object := by
  induction objects generalizing handles with
  | nil =>
    cases h
    exact ⟨List.Sublist.slnil, fun x => by simp⟩
  | cons entry objects ih =>
    obtain ⟨handle, object⟩ := entry
    unfold matchingHandles at h
    split_ifs at h with hvisible
    · obtain ⟨hsub, hmem⟩ := ih h
      refine ⟨hsub.cons handle, fun x => ?_⟩
      rw [exists_mem_cons, hmem x]
      simp [FoundBy, hvisible]
    · obtain ⟨found, hfound, h⟩ := bind_eq_ok.mp h
      obtain ⟨rest, hrest, h⟩ := bind_eq_ok.mp h
      obtain ⟨hsub, hmem⟩ := ih hrest
      cases h
      cases found with
      | false =>
        refine ⟨hsub.cons handle, fun x => ?_⟩
        rw [exists_mem_cons]
        simp [hmem x, FoundBy, hfound]
      | true =>
        refine ⟨hsub.cons_cons handle, fun x => ?_⟩
        rw [exists_mem_cons, if_pos rfl, List.mem_cons, hmem x]
        simp [FoundBy, hfound, hvisible]

/-- The handles of the resolved objects are live and each stands there once. -/
theorem keys_resolvedObjects (hs : LiveInvariant s) (h : s.resolvedObjects answers = .ok objects) :
    (keys objects).Nodup ∧ ∀ x ∈ keys objects, x ∈ s.liveHandles := by
  obtain ⟨listed, _, hobjects⟩ := bind_eq_ok.mp h
  cases hobjects
  have htoken : (keys (s.tokenObjectHandles.filterMap fun entry =>
      (s.locatedObject listed entry.2).map fun object => (entry.1, object))).Sublist
      (keys s.tokenObjectHandles) := by
    unfold keys
    induction s.tokenObjectHandles with
    | nil => exact List.Sublist.slnil
    | cons entry entries ih =>
      cases hfound : s.locatedObject listed entry.2 with
      | none => simpa [hfound] using ih.cons entry.1
      | some object => simpa [hfound] using ih
  have hkeys : keys (s.memoryObjects ++ s.tokenObjectHandles.filterMap fun entry =>
      (s.locatedObject listed entry.2).map fun object => (entry.1, object)) =
      keys s.memoryObjects ++ keys (s.tokenObjectHandles.filterMap fun entry =>
        (s.locatedObject listed entry.2).map fun object => (entry.1, object)) :=
    List.map_append
  rw [hkeys]
  constructor
  · rw [List.nodup_append]
    exact ⟨hs.memoryNodup, hs.tokenNodup.sublist htoken,
      fun x hx y hy heq => hs.disjoint x hx (htoken.subset (heq ▸ hy))⟩
  · grind [mem_liveHandles]

/-- A list in ascending order without repetitions. -/
theorem pairwise_lt_insertionSort (hnodup : handles.Nodup) :
    (handles.insertionSort (· ≤ ·)).Pairwise (· < ·) := by
  have hsorted := List.pairwise_insertionSort (· ≤ ·) handles
  have hne := (List.perm_insertionSort (· ≤ ·) handles).nodup_iff.mpr hnodup
  exact (hsorted.and hne).imp fun h => UInt64.lt_of_le_of_ne h.1 h.2

/-- The handles that a search matches: the resolved objects that are visible and match. -/
def Matches (s : SlotState) (loggedIn : Bool) (answers : Answers)
    (matching : ObjectHandle → TokenObject → Except Rv Bool) (matched : List ObjectHandle) : Prop :=
  ∃ objects, s.resolvedObjects answers = .ok objects ∧
    ∀ x, x ∈ matched ↔ ∃ object, (x, object) ∈ objects ∧ FoundBy loggedIn matching x object

section

variable (hctx : ContextInvariant ctx)

include hctx

/-- What a search finds. -/
theorem matchedObjects_spec (h : ctx.matchedObjects loggedIn answers matching = .ok matched) :
    SearchValid ctx.state ⟨matched, 0⟩ ∧ Matches ctx.state loggedIn answers matching matched := by
  obtain ⟨objects, hobjects, h⟩ := bind_eq_ok.mp h
  obtain ⟨handles, hhandles, h⟩ := bind_eq_ok.mp h
  cases h
  obtain ⟨hnodup, hlive⟩ := keys_resolvedObjects hctx.state hobjects
  obtain ⟨hsub, hmem⟩ := matchingHandles_spec hhandles
  have hperm := List.perm_insertionSort (· ≤ ·) handles
  refine ⟨⟨Nat.zero_le _, pairwise_lt_insertionSort (hnodup.sublist hsub), ?_⟩, objects, hobjects,
    ?_⟩
  · exact fun x hx => hlive x (hsub.subset (hperm.mem_iff.mp hx))
  · exact fun x => hperm.mem_iff.trans (hmem x)

section

variable (session : SessionHandle) (answers : Answers) (refreshBefore : Bool)
  (sessionObjects : Except Rv (List TokenObject))
  (matching : ObjectHandle → TokenObject → Except Rv Bool)

/-- **Starting a search.**  A call that fails leaves the searches to the other calls; one that
succeeds starts a search of the session that had none. -/
theorem findObjectsInit_spec :
    let result := ctx.findObjectsInit session answers refreshBefore sessionObjects matching
    (result.1 ≠ .ok () ∧ ContextStep ctx result.2) ∨
      (result.1 = .ok () ∧ searchOf ctx session = none ∧
        ∃ ctx₁ matched, ContextStep ctx ctx₁ ∧ result.2.state = ctx₁.state ∧ SearchValid ctx₁.state
          ⟨matched, 0⟩ ∧ Matches ctx₁.state ctx.userLoggedIn answers matching matched ∧ ∀ session',
          searchOf result.2 session' =
            if session' = session then some ⟨matched, 0⟩ else searchOf ctx₁ session') := by
  unfold findObjectsInit
  cases hsession : ctx.getSession session with
  | error error => exact .inl ⟨nofun, ContextStep.refl hctx⟩
  | ok found =>
    dsimp only
    split_ifs with hactive
    · exact .inl ⟨nofun, ContextStep.refl hctx⟩
    · have hnone : searchOf ctx session = none := by
        rw [searchOf_of_getSession hsession]
        simpa using hactive
      have hmoves := refreshBeforeFind_moves ctx answers refreshBefore
      revert hmoves
      cases ctx.refreshBeforeFind answers refreshBefore with
      | mk result₁ ctx₁ =>
        intro hmoves
        have hrefresh := hmoves.step hctx
        cases result₁ with
        | error error => exact .inl ⟨nofun, hrefresh⟩
        | ok _ =>
          dsimp only at hrefresh ⊢
          have hopen : IsOpen ctx₁ session :=
            (hmoves.isOpen session).mpr (mem_keys_of_mem (isOpen_of_getSession hsession))
          have hinsert := ObjectMoves.step
            (hmoves.trans (insertSessionObjects_moves ctx₁ hopen sessionObjects)) hctx
          revert hinsert
          cases ctx₁.insertSessionObjects session sessionObjects with
          | mk result₂ ctx₂ =>
            intro hinsert
            cases result₂ with
            | error error => exact .inl ⟨nofun, hinsert⟩
            | ok _ =>
              dsimp only at hinsert ⊢
              cases hmatched : ctx₂.matchedObjects ctx.userLoggedIn answers matching with
              | error error => exact .inl ⟨nofun, hinsert⟩
              | ok matched =>
                obtain ⟨hvalid, hmatches⟩ :=
                  matchedObjects_spec (hinsert.inv hctx) hmatched
                exact .inr ⟨rfl, hnone, ctx₂, matched, hinsert, rfl, hvalid, hmatches,
                  fun session' => searchOf_setSession ctx₂ session session' _⟩

/-- `C_FindObjectsInit` keeps the invariant. -/
theorem findObjectsInit_inv : ContextInvariant
      (ctx.findObjectsInit session answers refreshBefore sessionObjects matching).2 := by
  rcases findObjectsInit_spec hctx session answers refreshBefore sessionObjects matching with
    ⟨-, hstep⟩ | ⟨-, -, ctx₁, matched, hstep, hstate, hvalid, -, hsearch⟩
  · exact hstep.inv hctx
  · have hinv := hstep.inv hctx
    refine ⟨hstate ▸ hinv.state, fun session' operation h => ?_⟩
    rw [hsearch] at h
    rw [hstate]
    split_ifs at h
    · cases h
      exact hvalid
    · exact hinv.searches session' operation h

end

end

/-- A batch of a search. -/
theorem batch_valid (h : SearchValid s operation) (maxObjectCount : ℕ) :
    SearchValid s (operation.batch maxObjectCount).2 := by
  refine ⟨?_, h.sorted, h.live⟩
  show operation.next + min operation.remaining.length maxObjectCount ≤ operation.objects.length
  have hlength : operation.remaining.length = operation.objects.length - operation.next :=
    List.length_drop
  have hle := h.next_le
  omega

/-- What `C_FindObjects` returns. -/
theorem findObjects_spec (ctx : SlotContext) (session : SessionHandle) (maxObjectCount : ℕ) :
    let result := ctx.findObjects session maxObjectCount
    result.2.state = ctx.state ∧ match searchOf ctx session with
      | none => result.2 = ctx
      | some operation =>
        result.1 = .ok (operation.batch maxObjectCount).1 ∧
        ∀ session', searchOf result.2 session' =
          if session' = session then some (operation.batch maxObjectCount).2
          else searchOf ctx session' := by
  unfold findObjects
  cases hsession : ctx.getSession session with
  | error error =>
    have hnone : searchOf ctx session = none := by
      unfold getSession at hsession
      unfold searchOf
      cases hget : mapGet ctx.sessions session with
      | none => rfl
      | some found =>
        rw [hget] at hsession
        cases hsession
    rw [hnone]
    exact ⟨rfl, rfl⟩
  | ok found =>
    rw [searchOf_of_getSession hsession]
    dsimp only
    cases found.findOperation with
    | none => exact ⟨rfl, rfl⟩
    | some operation =>
      exact ⟨rfl, rfl, fun session' => searchOf_setSession ctx session session' _⟩

/-- `C_FindObjects` keeps the invariant. -/
theorem findObjects_inv (hctx : ContextInvariant ctx) (session : SessionHandle)
    (maxObjectCount : ℕ) : ContextInvariant (ctx.findObjects session maxObjectCount).2 := by
  obtain ⟨hstate, hsearch⟩ := findObjects_spec ctx session maxObjectCount
  cases hold : searchOf ctx session with
  | none =>
    rw [hold] at hsearch
    rw [hsearch]
    exact hctx
  | some operation =>
    rw [hold] at hsearch
    refine ⟨hstate ▸ hctx.state, fun session' operation' h => ?_⟩
    rw [hsearch.2] at h
    rw [hstate]
    split_ifs at h
    · cases h
      exact batch_valid (hctx.searches session operation hold) maxObjectCount
    · exact hctx.searches session' operation' h

end Start

/-! ## Following a search -/

/-- The handles that a call returns to the search of a session. -/
def returnedBy (session : SessionHandle) (call : SlotCall)
    (result : Except Rv (List ObjectHandle)) : List ObjectHandle :=
  match call, result with
  | .findObjects caller _, .ok handles => if caller = session then handles else []
  | _, _ => []

/-- Follow the search of a session over calls on the slot, as long as it is active: the handles that
it has returned and the context. -/
def followSearch (encode : BackedEncoding) (session : SessionHandle) :
    SlotContext → List SlotCall → Option (List ObjectHandle × SlotContext)
  | ctx, [] => some ([], ctx)
  | ctx, call :: calls =>
    let (result, ctx') := ctx.perform encode call
    if (searchOf ctx' session).isNone then none
    else
      (followSearch encode session ctx' calls).map fun (returned, last) =>
        (returnedBy session call result ++ returned, last)

section Follow

variable {ctx : SlotContext} (encode : BackedEncoding)

section

variable (hctx : ContextInvariant ctx)

include hctx

/-- Every call but the start of a search and a batch is a `ContextStep`. -/
theorem perform_step (call : SlotCall) (hcall : ¬ AboutSearch call) :
    ContextStep ctx (ctx.perform encode call).2 := by
  cases perform_moves encode hctx.state call with
  | login _ h => exact h.step hctx
  | object h => exact h.step hctx
  | search operation hsearch h hfound heq => exact absurd hsearch hcall
  | closeAll answers heq => exact closeAllSessions_step hctx answers

/-- Every call keeps the invariant. -/
theorem perform_inv (call : SlotCall) : ContextInvariant (ctx.perform encode call).2 := by
  cases call with
  | findObjectsInit session answers refreshBefore objects matching =>
    exact findObjectsInit_inv hctx session answers refreshBefore objects matching
  | findObjects session maxObjectCount => exact findObjects_inv hctx session maxObjectCount
  | _ => exact (perform_step encode hctx _ (by simp [AboutSearch])).inv hctx

/-- Every run keeps the invariant. -/
theorem after_inv (calls : List SlotCall) : ContextInvariant (ctx.after encode calls) := by
  induction calls generalizing ctx with
  | nil => exact hctx
  | cons call calls ih => exact ih (perform_inv encode hctx call)

end

/-- A new slot has no searches. -/
theorem contextInvariant_new (slotId : Ulong) (nextObject nextSession : UInt64) :
    ContextInvariant (new slotId nextObject nextSession) :=
  ⟨liveInvariant_empty slotId nextObject, nofun⟩

/-- What a call does to a search: it returns the next handles or none, and what is left of the rest are
the handles that are live. -/
def SearchAdvances (s s' : SlotState) (returned : List ObjectHandle)
    (operation operation' : FindOperation) : Prop :=
  LiveStep s s' ∧ ∃ count, returned = operation.remaining.take count ∧
    operation'.remaining = (operation.remaining.drop count).filter fun handle => handle ∈ s'.liveHandles

/-- A step that returns nothing. -/
theorem ContextStep.advances {ctx' : SlotContext} (h : ContextStep ctx ctx')
    (hsearch : searchOf ctx session = some operation)
    (hsearch' : searchOf ctx' session = some operation') :
    SearchAdvances ctx.state ctx'.state [] operation operation' := by
  obtain ⟨operation₀, hsearch₀, rfl⟩ := h.searches session operation' hsearch'
  rw [hsearch] at hsearch₀
  cases hsearch₀
  exact ⟨h.state, 0, rfl, remaining_keep _ _⟩

/-- What a call does to a search. -/
theorem perform_search (hctx : ContextInvariant ctx) (call : SlotCall)
    (hsearch : searchOf ctx session = some operation)
    (hsearch' : searchOf (ctx.perform encode call).2 session = some operation') :
    SearchAdvances ctx.state (ctx.perform encode call).2.state
      (returnedBy session call (ctx.perform encode call).1) operation operation' := by
  have hkept : ∀ operation₁, SearchValid ctx.state operation₁ →
      operation₁.remaining.filter (fun handle => handle ∈ ctx.state.liveHandles) =
        operation₁.remaining := by
    intro operation₁ hvalid
    refine List.filter_eq_self.mpr fun x hx => ?_
    exact decide_eq_true (hvalid.live x (List.mem_of_mem_drop hx))
  cases call with
  | findObjectsInit caller answers refreshBefore objects matching =>
    rcases findObjectsInit_spec hctx caller answers refreshBefore objects matching with
      ⟨-, hstep⟩ | ⟨-, hnone, ctx₁, matched, hstep, hstate, -, -, hsearches⟩
    · exact hstep.advances hsearch hsearch'
    · have hne : session ≠ caller := by
        rintro rfl
        rw [hsearch] at hnone
        cases hnone
      have hsearch₁ := hsearches session
      rw [if_neg hne] at hsearch₁
      have hadvances := hstep.advances hsearch (hsearch₁.symm.trans hsearch')
      rw [← hstate] at hadvances
      exact hadvances
  | findObjects caller maxObjectCount =>
    obtain ⟨hstate, hresult⟩ := findObjects_spec ctx caller maxObjectCount
    have hlive : (ctx.perform encode (.findObjects caller maxObjectCount)).2.state = ctx.state :=
      hstate
    rw [hlive]
    refine ⟨LiveStep.refl hctx.state, ?_⟩
    by_cases hcaller : caller = session
    · subst hcaller
      rw [hsearch] at hresult
      have hafter := (hresult.2 caller).symm.trans hsearch'
      rw [if_pos rfl] at hafter
      cases hafter
      refine ⟨min operation.remaining.length maxObjectCount, ?_, ?_⟩
      · show returnedBy caller _ (ctx.findObjects caller maxObjectCount).1 = _
        rw [hresult.1]
        exact if_pos rfl
      · have hvalid := batch_valid (hctx.searches caller operation hsearch) maxObjectCount
        have hremaining : (operation.batch maxObjectCount).2.remaining =
            operation.remaining.drop (min operation.remaining.length maxObjectCount) :=
          List.drop_drop.symm
        rw [← hremaining]
        exact (hkept _ hvalid).symm
    · refine ⟨0, ?_, ?_⟩
      · unfold returnedBy
        split
        · rename_i heq _
          cases heq
          exact if_neg hcaller
        · rfl
      · have hsame : searchOf (ctx.findObjects caller maxObjectCount).2 session =
            searchOf ctx session := by grind
        have hsearch₁ : searchOf ctx session = some operation' := hsame.symm.trans hsearch'
        rw [hsearch] at hsearch₁
        cases hsearch₁
        exact (hkept operation (hctx.searches session operation hsearch)).symm
  | _ => exact (perform_step encode hctx _ (by simp [AboutSearch])).advances hsearch hsearch'

/-- How far a search has come: what has been returned and what remains. -/
structure SearchProgress (session : SessionHandle) (matched returned : List ObjectHandle)
    (ctx : SlotContext) (operation : FindOperation) : Prop where
  inv : ContextInvariant ctx
  search : searchOf ctx session = some operation
  below : ∀ x ∈ matched, x.toNat < handleBound ctx.state
  inOrder : (returned ++ operation.remaining).Sublist matched
  remaining : operation.remaining =
    matched.filter fun x => x ∉ returned ∧ x ∈ ctx.state.liveHandles

/-- In a list without repetitions, what is not among the first elements are the others. -/
theorem filter_not_mem_take {l : List ObjectHandle} (h : l.Nodup) (count : ℕ) :
    (l.filter fun x => x ∉ l.take count) = l.drop count := by
  have hdisjoint : ∀ x ∈ l.drop count, x ∉ l.take count := by grind [List.take_append_drop]
  conv_lhs =>
    rw [← List.take_append_drop count l]
  rw [List.filter_append, List.take_append_drop]
  grind [List.filter_eq_nil_iff, List.filter_eq_self]

/-- One more call. -/
theorem SearchProgress.step {returned : List ObjectHandle}
    (h : SearchProgress session matched returned ctx operation) (hnodup : matched.Nodup)
    (call : SlotCall) (hsearch' : searchOf (ctx.perform encode call).2 session = some operation') :
    SearchProgress session matched
      (returned ++ returnedBy session call (ctx.perform encode call).1)
      (ctx.perform encode call).2 operation' := by
  obtain ⟨hlive, count, hreturned, hremaining⟩ := perform_search encode h.inv call h.search hsearch'
  refine ⟨perform_inv encode h.inv call, hsearch', fun x hx => (h.below x hx).trans_le hlive.bound,
    ?_, ?_⟩
  · have hsub : (operation'.remaining).Sublist (operation.remaining.drop count) := by
      rw [hremaining]
      exact List.filter_sublist
    have hall : (returned ++ (operation.remaining.take count ++ operation'.remaining)).Sublist
        (returned ++ operation.remaining) := by
      refine List.Sublist.append (List.Sublist.refl _) ?_
      calc operation.remaining.take count ++ operation'.remaining
          |>.Sublist (operation.remaining.take count ++ operation.remaining.drop count) :=
            List.Sublist.append (List.Sublist.refl _) hsub
        _ = operation.remaining := List.take_append_drop _ _
    rw [hreturned, List.append_assoc]
    exact hall.trans h.inOrder
  · have hdrop := filter_not_mem_take
      (hnodup.sublist ((List.sublist_append_right _ _).trans h.inOrder)) count
    rw [hremaining, ← hdrop, List.filter_filter, h.remaining, List.filter_filter]
    refine List.filter_congr fun x hx => ?_
    rw [← h.remaining, ← hreturned]
    have hold : x ∈ (ctx.perform encode call).2.state.liveHandles → x ∈ ctx.state.liveHandles :=
      hlive.live_of_live (h.below x hx)
    grind

/-- The whole run of a search. -/
theorem SearchProgress.follow (hnodup : matched.Nodup) (calls : List SlotCall) :
    ∀ {ctx ctx' : SlotContext} {returned₀ returned : List ObjectHandle}
      {operation : FindOperation}, SearchProgress session matched returned₀ ctx operation →
      followSearch encode session ctx calls = some (returned, ctx') →
      ∃ operation', SearchProgress session matched (returned₀ ++ returned) ctx' operation' := by
  induction calls with
  | nil =>
    intro ctx ctx' returned₀ returned operation h hrun
    cases hrun
    exact ⟨operation, by rwa [List.append_nil]⟩
  | cons call calls ih =>
    intro ctx ctx' returned₀ returned operation h hrun
    unfold followSearch at hrun
    dsimp only at hrun
    split_ifs at hrun with hnone
    obtain ⟨⟨rest, last⟩, hrest, heq⟩ := Option.map_eq_some_iff.mp hrun
    cases heq
    obtain ⟨operation', hsearch'⟩ := Option.ne_none_iff_exists'.mp (by simpa using hnone)
    obtain ⟨operation₂, hlast⟩ := ih (h.step encode hnodup call hsearch') hrest
    exact ⟨operation₂, by rwa [List.append_assoc] at hlast⟩

/-- **Object search.**  A search that starts in any reachable state of the slot and goes on over any
calls on the slot: its cursor stays within its handles, and what it still has to return are the
handles that matched, are live and have not been returned, each once and in ascending order. -/
theorem object_search_exact (slotId : Ulong) (nextObject nextSession : UInt64)
    (history : List SlotCall) (session : SessionHandle) (answers : Answers) (refreshBefore : Bool)
    (sessionObjects : Except Rv (List TokenObject))
    (matching : ObjectHandle → TokenObject → Except Rv Bool) (calls : List SlotCall)
    (returned : List ObjectHandle) (start last : SlotContext)
    (hstart : ((SlotContext.new slotId nextObject nextSession).after encode history).findObjectsInit
      session answers refreshBefore sessionObjects matching = (.ok (), start))
    (hcalls : followSearch encode session start calls = some (returned, last)) :
    ∃ matched operation,
      Matches start.state
        ((SlotContext.new slotId nextObject nextSession).after encode history).userLoggedIn answers
        matching matched ∧
      matched.Pairwise (· < ·) ∧ returned.Sublist matched ∧
      searchOf last session = some operation ∧
      operation.next ≤ operation.objects.length ∧
      (∀ handle, operation.removedBeforeCursor handle ≤ operation.next) ∧
      (∀ maxObjectCount, (last.findObjects session maxObjectCount).1 =
        .ok ((matched.filter fun x => x ∉ returned ∧ x ∈ last.state.liveHandles).take
          maxObjectCount)) := by
  have hctx := after_inv encode (contextInvariant_new slotId nextObject nextSession) history
  rcases findObjectsInit_spec hctx session answers refreshBefore sessionObjects matching with
    ⟨hfailed, -⟩ | ⟨-, -, ctx₁, matched, hstep, hstate, hvalid, hmatches, hsearches⟩
  · rw [hstart] at hfailed
    exact absurd rfl hfailed
  rw [hstart] at hstate hsearches
  have hinv : ContextInvariant start := by
    have h := findObjectsInit_inv hctx session answers refreshBefore sessionObjects matching
    rwa [hstart] at h
  have hnodup : matched.Nodup := hvalid.sorted.imp fun h => UInt64.ne_of_lt h
  -- at the start nothing has been returned and every matched handle is live
  have hbegin : SearchProgress session matched [] start ⟨matched, 0⟩ := by
    refine ⟨hinv, ?_, fun x hx => ?_, ?_, ?_⟩
    · rw [hsearches, if_pos rfl]
    · rw [hstate]
      exact (hstep.inv hctx).state.below x (hvalid.live x hx)
    · exact List.Sublist.refl _
    · refine (List.filter_eq_self.mpr fun x hx => ?_).symm
      rw [hstate]
      simpa using hvalid.live x hx
  obtain ⟨operation, hend⟩ := hbegin.follow encode hnodup calls hcalls
  rw [List.nil_append] at hend
  refine ⟨matched, operation, hstate ▸ hmatches, hvalid.sorted,
    (List.sublist_append_left _ _).trans hend.inOrder, hend.search,
    (hend.inv.searches session operation hend.search).next_le, removedBeforeCursor_le operation,
    fun maxObjectCount => ?_⟩
  have hbatch := (findObjects_spec last session maxObjectCount).2
  rw [hend.search] at hbatch
  rw [hbatch.1, ← hend.remaining]
  congr 1
  show operation.remaining.take (min operation.remaining.length maxObjectCount) = _
  rw [min_comm, ← List.take_take, List.take_length]

end Follow

/-! ### A search over a destroyed object -/

/-- A session object. -/
def searchedObject : TokenObject :=
  { class_ := Cko.publicKey, keyType := Ckk.ec, isPrivate := false, material := .pub (.ec [] []) }

/-- A slot without devices and stored objects. -/
def emptySlotAnswers : Answers := { device := .ok [], stored := .ok [] }

/-- No object is stored. -/
def noEncoding : BackedEncoding := fun _ => .error .keyTypeInconsistent

/-- A session with three objects. -/
def searchContext : SlotContext :=
  (SlotContext.new 1 1 1).after noEncoding
    [.openSession { readWrite := true } {}, .insertObject 1 searchedObject,
      .insertObject 1 searchedObject, .insertObject 1 searchedObject]

/-- The search has begun. -/
def searchStart : SlotContext :=
  (searchContext.findObjectsInit 1 emptySlotAnswers false (.ok []) fun _ _ => .ok true).2

/-- One handle is returned, then the second object goes and a fourth one comes. -/
def searchCalls : List SlotCall :=
  [.findObjects 1 1, .destroyObject 1 emptySlotAnswers {} 2, .insertObject 1 searchedObject]

/-- Only the third object is left to be returned. -/
theorem object_search_over_destroyed :
    (∃ matched operation,
      Matches searchStart.state searchContext.userLoggedIn emptySlotAnswers (fun _ _ => .ok true)
        matched ∧
      matched.Pairwise (· < ·) ∧ [1].Sublist matched ∧
      searchOf (searchStart.after noEncoding searchCalls) 1 = some operation ∧
      operation.next ≤ operation.objects.length ∧
      (∀ handle, operation.removedBeforeCursor handle ≤ operation.next) ∧
      ∀ maxObjectCount,
        ((searchStart.after noEncoding searchCalls).findObjects 1 maxObjectCount).1 =
          .ok ((matched.filter fun x =>
            x ∉ [1] ∧ x ∈ (searchStart.after noEncoding searchCalls).state.liveHandles).take
              maxObjectCount)) ∧
    ((searchStart.after noEncoding searchCalls).findObjects 1 5).1 = .ok [3] :=
  ⟨object_search_exact noEncoding 1 1 1 _ 1 emptySlotAnswers false (.ok []) (fun _ _ => .ok true)
    searchCalls [1] searchStart (searchStart.after noEncoding searchCalls) (by decide +kernel)
    (by decide +kernel), by decide +kernel⟩

end Pkcs11rs.Analysis
