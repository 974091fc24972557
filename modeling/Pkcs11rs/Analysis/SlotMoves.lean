import Pkcs11rs.Model.SlotCalls
import Pkcs11rs.Analysis.LiveHandles

/-!
# What the calls on a slot are made of

A call that is about sessions and logins is a sequence of `LoginMove`s, a call that is about objects a
sequence of `ObjectMove`s.  The results about runs are proved for the moves and then hold for the
calls; what a search does to its own session is left to `Analysis.ObjectSearch`.
-/

set_option autoImplicit false

namespace Pkcs11rs.Analysis

open Pkcs11rs.Library Pkcs11rs.Model SlotContext LiveStep

variable {session c : SessionHandle} {ctx₁ : SlotContext}

open Relation (ReflTransGen)

variable {ctx : SlotContext} {state : SlotState}

/-- A session handle names an open session. -/
def IsOpen (ctx : SlotContext) (session : SessionHandle) : Prop := session ∈ keys ctx.sessions

/-- A part of the calls about sessions and logins. -/
inductive LoginMove : SlotContext → SlotContext → Prop where
  /-- The slot loses its login, or a role logs in. -/
  | login (ctx : SlotContext) (active : Bool) (role : Option LoginRole) :
      LoginMove ctx { ctx with loginActive := active, loginRole := role }
  /-- `clear_login_state`. -/
  | cleared (ctx : SlotContext) : LoginMove ctx ctx.clearLoginState
  /-- The token is listed. -/
  | refreshed (ctx : SlotContext) (answers : Answers) :
      LoginMove ctx (ctx.publish (ctx.state.refresh answers).2)
  /-- A session goes, and the objects that it created. -/
  | closed (ctx : SlotContext) (session : SessionHandle) :
      LoginMove ctx
        (SlotContext.publish { ctx with sessions := mapRemove ctx.sessions session }
          (ctx.state.closeSession session))
  /-- A session is opened. -/
  | opened {ctx ctx₁ : SlotContext} {handle : SessionHandle} (readWrite : Bool)
      (halloc : ctx.allocateSession = some (handle, ctx₁)) :
      LoginMove ctx (ctx₁.setSession handle { readWrite := readWrite })
  /-- A session could not be registered. -/
  | unregistered {ctx ctx₁ : SlotContext} {handle : SessionHandle}
      (halloc : ctx.allocateSession = some (handle, ctx₁)) :
      LoginMove ctx { ctx₁ with sessions := mapRemove ctx₁.sessions handle }

/-- A part of the calls about objects. -/
inductive ObjectMove : SlotContext → SlotContext → Prop where
  /-- The handle maps after an operation. -/
  | published {ctx : SlotContext} {state : SlotState} (h : Edits (IsOpen ctx) ctx.state state) :
      ObjectMove ctx (ctx.publish state)
  /-- The storage of the token. -/
  | stored (ctx : SlotContext) (storage : List ContentReference) :
      ObjectMove ctx { ctx with tokenStorage := storage }
  /-- A session is put back without a new search. -/
  | session {ctx : SlotContext} {handle : SessionHandle} {found changed : SessionContext}
      (hfound : ctx.getSession handle = .ok found)
      (hflags : changed.readWrite = found.readWrite)
      (hsearch : changed.findOperation = none ∨ changed.findOperation = found.findOperation) :
      ObjectMove ctx (ctx.setSession handle changed)
  /-- Another slot takes a session handle. -/
  | counter {ctx ctx₁ : SlotContext} {handle : SessionHandle}
      (halloc : ctx.allocateSession = some (handle, ctx₁)) : ObjectMove ctx ctx₁

/-- Any number of login moves. -/
abbrev LoginMoves : SlotContext → SlotContext → Prop := ReflTransGen LoginMove

/-- Any number of object moves. -/
abbrev ObjectMoves : SlotContext → SlotContext → Prop := ReflTransGen ObjectMove

/-! ## Sessions and logins -/

section Logins

variable (ctx : SlotContext)

/-- A login is lost. -/
theorem lose_moves (lost : Bool) : LoginMoves ctx (ctx.lose lost) := by
  unfold lose
  split_ifs
  · exact .single (.login ctx false ctx.loginRole)
  · exact .refl

/-- A lost login is noticed. -/
theorem reconcileLoginState_moves : LoginMoves ctx ctx.reconcileLoginState := by
  unfold reconcileLoginState
  split_ifs
  · exact .single (.cleared ctx)
  · exact .refl

/-- The beginning of the calls that look at the login. -/
theorem reconcile_lose_moves (lost : Bool) : LoginMoves ctx (ctx.reconcileLoginState.lose lost) :=
  (reconcileLoginState_moves ctx).trans (lose_moves _ lost)

/-- The logout of the slot. -/
theorem logoutSlot_moves (answers : LogoutAnswers) : LoginMoves ctx (ctx.logoutSlot answers).2 := by
  have hlose := lose_moves ctx answers.lostAfter
  unfold logoutSlot
  cases ctx.role with
  | none => exact .refl
  | some role =>
    dsimp only
    split
    · exact hlose
    · exact hlose
    · have hclear := hlose.tail (.cleared _)
      split_ifs
      · exact hclear.tail (.refreshed _ answers.listing)
      · exact hclear

/-- `C_Logout`. -/
theorem logout_moves (session : SessionHandle) (answers : LogoutAnswers) :
    LoginMoves ctx (ctx.logout session answers).2 := by
  unfold logout
  cases ctx.getSession session with
  | error error => exact .refl
  | ok found =>
    have hstart := reconcile_lose_moves ctx answers.lost
    dsimp only
    split_ifs
    · exact hstart
    · exact (hstart.trans (lose_moves _ answers.lostBefore)).trans (logoutSlot_moves _ answers)

/-- The logout with the last session. -/
theorem logoutToClose_moves (answers : LogoutAnswers) :
    LoginMoves ctx (ctx.logoutToClose answers).2 := by
  unfold logoutToClose
  split_ifs
  · exact .refl
  · have hlogout := (lose_moves ctx answers.lostBefore).trans (logoutSlot_moves _ answers)
    generalize (ctx.lose answers.lostBefore).logoutSlot answers = logged at hlogout
    obtain ⟨result, ctx₁⟩ := logged
    cases result with
    | ok _ => exact hlogout
    | error error => exact (hlogout.tail (.cleared _)).trans (lose_moves _ true)

/-- `C_CloseSession`. -/
theorem closeSession_moves (session : SessionHandle) (answers : LogoutAnswers) :
    LoginMoves ctx (ctx.closeSession session answers).2 := by
  unfold closeSession
  cases ctx.getSession session with
  | error error => exact .refl
  | ok found =>
    have hstart := reconcile_lose_moves ctx answers.lost
    dsimp only
    split_ifs
    · exact (hstart.trans (logoutToClose_moves _ answers)).tail (.closed _ session)
    · exact hstart.tail (.closed _ session)

/-- The slot before the last sessions go. -/
abbrev closingSlot (ctx : SlotContext) (answers : LogoutAnswers) : SlotContext :=
  ((ctx.reconcileLoginState.lose answers.lost).logoutToClose answers).2

/-- The slot of a closing session. -/
theorem closingSlot_moves (answers : LogoutAnswers) : LoginMoves ctx (closingSlot ctx answers) :=
  (reconcile_lose_moves ctx answers.lost).trans (logoutToClose_moves _ answers)

/-- `C_Login`. -/
theorem login_moves (session : SessionHandle) (role : LoginRole) (answers : LoginAnswers) :
    LoginMoves ctx (ctx.login session role answers).2 := by
  unfold login
  split
  · exact .refl
  · exact .refl
  · have hstart := reconcile_lose_moves ctx answers.lost
    generalize ctx.reconcileLoginState.lose answers.lost = start at hstart
    dsimp only
    split
    · exact hstart
    · split
      · exact hstart
      · have hactive := hstart.tail (.login start answers.activeAfter start.loginRole)
        split
        · exact hactive
        · exact hactive
        · have hrole := hstart.tail (.login start answers.activeAfter (some role))
          split
          · have hrefresh := hrole.tail (.refreshed _ answers.listing)
            generalize SlotState.refresh _ answers.listing = refreshed at hrefresh
            obtain ⟨result, state⟩ := refreshed
            cases result with
            | ok _ => exact hrefresh
            | error error => exact hrefresh.tail (.cleared _)
          · exact hrole

/-- `C_InitToken`. -/
theorem initToken_moves (command : Except Rv Unit) (lostAfter : Bool) (listing : Answers) :
    LoginMoves ctx (ctx.initToken command lostAfter listing).2 := by
  unfold initToken
  split_ifs
  · exact .refl
  · have hlose := lose_moves ctx lostAfter
    cases command with
    | error error => exact hlose
    | ok _ =>
      exact (hlose.tail (.login _ (ctx.lose lostAfter).loginActive none)).tail
        (.refreshed _ listing)

/-- `C_OpenSession`. -/
theorem openSession_moves (flags : OpenFlags) (answers : OpenAnswers) :
    LoginMoves ctx (ctx.openSession flags answers).2 := by
  have hstart := reconcile_lose_moves ctx answers.lost
  have hlose := hstart.trans (lose_moves _ answers.lostAfter)
  unfold openSession
  dsimp only
  split_ifs
  · exact .refl
  · exact .refl
  · exact hstart
  · exact hlose
  · split
    · exact hlose
    · rename_i handle ctx₁ halloc
      split
      · exact hlose.tail (.opened flags.readWrite halloc)
      · exact hlose.tail (.unregistered halloc)

/-- `C_GetSessionInfo`. -/
theorem getSessionInfo_moves (session : SessionHandle) (lost : Bool) (backend : Except Rv Unit) :
    LoginMoves ctx (ctx.getSessionInfo session lost backend).2 := by
  unfold getSessionInfo
  cases ctx.getSession session with
  | error error => exact .refl
  | ok found =>
    have hagain := (reconcile_lose_moves ctx lost).trans (reconcileLoginState_moves _)
    cases backend with
    | error | ok => exact hagain

end Logins

/-! ## Objects -/

section Objects

variable (ctx : SlotContext)

/-- A session that is found. -/
theorem isOpen_of_getSession {ctx : SlotContext} {found : SessionContext}
    (h : ctx.getSession session = .ok found) : (session, found) ∈ ctx.sessions := by
  unfold getSession at h
  cases hget : mapGet ctx.sessions session with
  | none =>
    rw [hget] at h
    cases h
  | some other =>
    rw [hget] at h
    cases h
    exact mapGet_mem hget

/-- A storage is used. -/
theorem withStorage_moves {α : Type} (place : StoragePlace)
    (use : List ContentReference → Except Rv α × List ContentReference) :
    ObjectMoves ctx (ctx.withStorage place use).2 := by
  unfold withStorage
  cases place with
  | token => exact .single (.stored ctx _)
  | session handle =>
    dsimp only
    cases hsession : ctx.getSession handle with
    | error error => exact .refl
    | ok found => exact .single (.session hsession rfl (.inr rfl))

/-- A storage holds no handles. -/
theorem withStorage_state {α : Type} (place : StoragePlace)
    (use : List ContentReference → Except Rv α × List ContentReference) :
    (ctx.withStorage place use).2.state = ctx.state := by
  unfold withStorage
  cases place with
  | token => rfl
  | session handle =>
    dsimp only
    cases ctx.getSession handle <;> rfl

/-- A storage of a session is used while the session is open. -/
theorem withStorage_isOpen {α : Type} {ctx : SlotContext}
    {use : List ContentReference → Except Rv α × List ContentReference} {value : α}
    (h : ctx.withStorage (.session session) use = (.ok value, ctx₁)) : IsOpen ctx₁ session := by
  unfold withStorage at h
  dsimp only at h
  cases hsession : ctx.getSession session with
  | error error =>
    rw [hsession] at h
    cases h
  | ok found =>
    rw [hsession] at h
    obtain ⟨-, rfl⟩ := Prod.mk.inj h
    exact mem_keys_mapInsert.mpr (.inl rfl)

variable (encode : BackedEncoding)

/-- `store_backed_object`. -/
theorem storeBackedObject_moves (answers : Answers) (storage : StorageAnswers)
    (session : SessionHandle) (object : TokenObject) :
    ObjectMoves ctx (ctx.storeBackedObject encode answers storage session object).2 := by
  unfold storeBackedObject
  dsimp only
  have hput := withStorage_moves ctx (if object.token then .token else .session session)
    (putBackedObject encode storage object)
  cases hstored : ctx.withStorage (if object.token then .token else .session session)
      (putBackedObject encode storage object) with
  | mk result ctx₁ =>
    rw [hstored] at hput
    cases result with
    | error error => exact hput
    | ok reference =>
      refine hput.tail (.published (storeBackedObject_edits _ _ object fun htoken => ?_))
      rw [if_neg (by simp [htoken])] at hstored
      exact withStorage_isOpen hstored

/-- A record is deleted. -/
theorem deleteUnshared_moves (storage : StorageAnswers) (shared : Bool) (object : TokenObject)
    (reference : ContentReference) :
    ObjectMoves ctx (ctx.deleteUnshared storage shared object reference).2 := by
  unfold deleteUnshared
  split
  · exact .refl
  · split
    · exact .refl
    · exact withStorage_moves ctx _ _

/-- `destroy_backed_object`. -/
theorem destroyBackedObject_moves (answers : Answers) (storage : StorageAnswers)
    (handle : ObjectHandle) (object : TokenObject) :
    ObjectMoves ctx (ctx.destroyBackedObject answers storage handle object).2 := by
  unfold destroyBackedObject
  split
  · exact .refl
  · exact (deleteUnshared_moves ctx storage _ object _).tail
      (.published (destroyBackedObject_edits _ _ handle object))

/-- `C_DestroyObject`. -/
theorem destroyObject_moves (session : SessionHandle) (answers : Answers)
    (storage : StorageAnswers) (handle : ObjectHandle) :
    ObjectMoves ctx (ctx.destroyObject session answers storage handle).2 := by
  unfold destroyObject
  split
  · exact .refl
  · dsimp only
    split
    · exact destroyBackedObject_moves ctx _ storage handle _
    · exact .single (.published (destroyObject_edits _ _ handle))

/-- An object is inserted. -/
theorem insertObject_moves (session : SessionHandle) (object : TokenObject) :
    ObjectMoves ctx (ctx.insertObject session object).2 := by
  unfold insertObject
  cases hsession : ctx.getSession session with
  | error error => exact .refl
  | ok found =>
    refine .single (.published (insertObject_edits _ _ ?_).1)
    exact setCreator_owner object _ fun _ => mem_keys_of_mem (isOpen_of_getSession hsession)

/-- A refresh. -/
theorem refreshTokenObjects_moves (answers : Answers) (replaced : List ObjectHandle) :
    ObjectMoves ctx (ctx.refreshTokenObjects answers replaced).2 := by
  unfold refreshTokenObjects
  split
  · exact .refl
  · exact .single (.published ((removed_edits _ replaced).trans (refresh_edits _ answers).edits))

/-- Operations begin and end. -/
theorem changeOperations_moves (session : SessionHandle)
    (operations : List OperationKind → List OperationKind) :
    ObjectMoves ctx (ctx.changeOperations session operations).2 := by
  unfold changeOperations
  cases hsession : ctx.getSession session with
  | error error => exact .refl
  | ok found => exact .single (.session hsession rfl (.inr rfl))

/-- `C_FindObjectsFinal`. -/
theorem findObjectsFinal_moves (session : SessionHandle) :
    ObjectMoves ctx (ctx.findObjectsFinal session).2 := by
  unfold findObjectsFinal
  cases hsession : ctx.getSession session with
  | error error => exact .refl
  | ok found =>
    dsimp only
    split
    · exact .refl
    · exact .single (.session hsession rfl (.inl rfl))

/-- The refresh before a search. -/
theorem refreshBeforeFind_moves (answers : Answers) (refreshBefore : Bool) :
    ObjectMoves ctx (ctx.refreshBeforeFind answers refreshBefore).2 := by
  unfold refreshBeforeFind
  split
  · split
    · exact .refl
    · exact .single (.published (refresh_edits _ answers).edits)
  · exact .refl

/-- Session objects are inserted. -/
theorem insertSessionObjects_moves (hsession : IsOpen ctx session)
    (objects : Except Rv (List TokenObject)) :
    ObjectMoves ctx (ctx.insertSessionObjects session objects).2 := by
  cases objects with
  | error error => exact .refl
  | ok objects => exact .single (.published (insertSessionObjects_edits hsession objects _))

/-- `replace_backed_object`; the handle resolves to the previous object. -/
theorem replaceBackedObject_moves {ctx : SlotContext} (hctx : LiveInvariant ctx.state)
    {answers resolving : Answers} (storage : StorageAnswers) {handle : ObjectHandle}
    {previous updated : TokenObject}
    (hresolved : ctx.state.resolveObject resolving handle = .ok (some previous))
    (htoken : updated.token = previous.token) : ObjectMoves ctx
      (ctx.replaceBackedObject encode answers storage handle previous updated).2 := by
  -- what follows a deletion, or the decision to keep the record
  have hpublish : ∀ {answers : Answers} {ctx₂ : SlotContext}, ObjectMoves ctx ctx₂ →
      ctx₂.state = ctx.state → ObjectMoves ctx
        (ctx₂.publish (ctx₂.state.replaceBackedObject answers handle previous updated).2) := by
    intro answers ctx₂ h hstate
    refine h.tail (.published ?_)
    rw [hstate]
    exact replaceBackedObject_edits hctx.disjoint hctx.stored hresolved htoken
  unfold replaceBackedObject
  split
  · exact .refl
  · split
    · exact .refl
    · rename_i place _
      have hput := withStorage_moves ctx place (putBackedObject encode storage updated)
      have hstate := withStorage_state ctx place (putBackedObject encode storage updated)
      generalize ctx.withStorage place (putBackedObject encode storage updated) = stored
        at hput hstate
      obtain ⟨result, ctx₁⟩ := stored
      cases result with
      | error error => exact hput
      | ok reference =>
        dsimp only at hput hstate ⊢
        split_ifs
        · exact hpublish hput hstate
        · exact hpublish (hput.trans (withStorage_moves ctx₁ place _))
            ((withStorage_state ctx₁ place _).trans hstate)

/-- `C_SetAttributeValue`. -/
theorem setAttributeValue_moves {ctx : SlotContext} (hctx : LiveInvariant ctx.state)
    (session : SessionHandle) (answers : Answers) (storage : StorageAnswers)
    (handle : ObjectHandle) (templ : List CkAttribute) :
    ObjectMoves ctx (ctx.setAttributeValue encode session answers storage handle templ).2 := by
  unfold setAttributeValue
  cases ctx.getSession session with
  | error error => exact .refl
  | ok found =>
    have hunbacked : ObjectMoves ctx (ctx.publish
        (ctx.state.setAttributeValue (ctx.callAnswers found answers) handle templ).2) :=
      .single (.published (setAttributeValue_edits hctx.disjoint hctx.stored _ handle templ))
    dsimp only
    cases haction : ctx.state.setAction (ctx.callAnswers found answers) handle templ with
    | publish previous updated =>
      obtain ⟨hresolved, hchange⟩ := setAction_publish haction
      dsimp only
      split_ifs
      · exact replaceBackedObject_moves encode hctx storage hresolved hchange.frame.1
      · exact hunbacked
    | refuse | openPgp | piv | yubihsm => exact hunbacked

/-- Nothing is taken out of the searches when no handle is removed. -/
theorem publish_eq {ctx : SlotContext} (h : ctx.state.removedHandles state = []) :
    ctx.publish state = { ctx with state := state } := by
  unfold publish forgetInSearches mapSessions
  rw [h]
  simp

/-- Another slot takes a session handle. -/
theorem otherSession_moves (session : Bool) : ObjectMoves ctx
      (match session, ctx.allocateSession with
        | true, some (_, ctx₁) => ctx₁
        | _, _ => ctx) := by
  split
  · rename_i halloc
    exact .single (.counter halloc)
  · exact .refl

/-- Another slot takes handles. -/
theorem otherSlot_moves (object session : Bool) : ObjectMoves ctx (ctx.otherSlot object session) := by
  unfold otherSlot
  cases object with
  | false => exact otherSession_moves _ session
  | true =>
    cases halloc : ctx.state.allocateObject with
    | none => exact otherSession_moves _ session
    | some allocated =>
      obtain ⟨handle, state⟩ := allocated
      have hlive : state.liveHandles = ctx.state.liveHandles := by
        rw [(allocateObject_spec halloc).2.2]
        rfl
      have hremoved : ctx.state.removedHandles state = [] :=
        List.filter_eq_nil_iff.mpr fun h hh => by simp [hlive, hh]
      have hobject : ObjectMoves ctx { ctx with state := state } := by
        rw [← publish_eq hremoved]
        exact .single (.published (.single (.skipped halloc)))
      exact hobject.trans (otherSession_moves _ session)

end Objects

/-! ## Open sessions -/

/-- No session is opened or closed. -/
@[simp] theorem keys_mapSessions (ctx : SlotContext) (f : SessionContext → SessionContext) :
    keys (ctx.mapSessions f).sessions = keys ctx.sessions := by
  unfold mapSessions keys
  rw [List.map_map]
  rfl

/-- Publishing closes no session. -/
theorem keys_publish (ctx : SlotContext) (state : SlotState) :
    keys (ctx.publish state).sessions = keys ctx.sessions :=
  keys_mapSessions _ _

/-- Publishing keeps the sessions. -/
theorem isOpen_publish : IsOpen (ctx.publish state) c ↔ IsOpen ctx c := by
  unfold IsOpen
  rw [keys_publish]

/-- The end of a login closes no session. -/
theorem isOpen_clearLoginState : IsOpen ctx.clearLoginState c ↔ IsOpen ctx c := by
  unfold IsOpen clearLoginState
  rw [keys_mapSessions]

/-- A session is set. -/
theorem isOpen_setSession {changed : SessionContext} :
    IsOpen (ctx.setSession session changed) c ↔ c = session ∨ IsOpen ctx c :=
  mem_keys_mapInsert

/-- Only the counter changes. -/
theorem allocateSession_sessions {handle : SessionHandle}
    (h : ctx.allocateSession = some (handle, ctx₁)) :
    ctx₁ = { ctx with nextSession := ctx₁.nextSession } := by grind [allocateSession]

/-- The calls about objects leave the open sessions alone. -/
theorem ObjectMoves.isOpen (h : ObjectMoves ctx ctx₁) (session : SessionHandle) :
    IsOpen ctx₁ session ↔ IsOpen ctx session := by
  induction h with
  | refl => exact Iff.rfl
  | tail _ hmove ih =>
    rw [← ih]
    cases hmove with
    | published h => exact isOpen_publish
    | stored storage => exact Iff.rfl
    | session hfound hflags hsearch =>
      rw [isOpen_setSession, or_iff_right_iff_imp]
      rintro rfl
      exact mem_keys_of_mem (isOpen_of_getSession hfound)
    | counter halloc =>
      rw [allocateSession_sessions halloc]
      exact Iff.rfl

/-- `find_objects_init`: the objects are listed, then the search starts. -/
theorem findObjectsInit_moves (ctx : SlotContext) (session : SessionHandle) (answers : Answers)
    (refreshBefore : Bool) (sessionObjects : Except Rv (List TokenObject))
    (matching : ObjectHandle → TokenObject → Except Rv Bool) : ∃ ctx₁, ObjectMoves ctx ctx₁ ∧
      ((ctx.findObjectsInit session answers refreshBefore sessionObjects matching).2 = ctx₁ ∨
        ∃ found operation, ctx.getSession session = .ok found ∧
          (ctx.findObjectsInit session answers refreshBefore sessionObjects matching).2 =
            ctx₁.setSession session { found with findOperation := some operation }) := by
  unfold findObjectsInit
  cases hsession : ctx.getSession session with
  | error error => exact ⟨ctx, .refl, .inl rfl⟩
  | ok found =>
    dsimp only
    split
    · exact ⟨ctx, .refl, .inl rfl⟩
    · have hrefresh := refreshBeforeFind_moves ctx answers refreshBefore
      generalize ctx.refreshBeforeFind answers refreshBefore = refreshed at hrefresh
      obtain ⟨result, ctx₁⟩ := refreshed
      cases result with
      | error error => exact ⟨ctx₁, hrefresh, .inl rfl⟩
      | ok _ =>
        have hopen : IsOpen ctx₁ session :=
          (hrefresh.isOpen session).mpr (mem_keys_of_mem (isOpen_of_getSession hsession))
        have hinsert := hrefresh.trans (insertSessionObjects_moves ctx₁ hopen sessionObjects)
        dsimp only at hinsert ⊢
        generalize ctx₁.insertSessionObjects session sessionObjects = inserted at hinsert
        obtain ⟨result, ctx₂⟩ := inserted
        grind

/-! ## Live handles -/

/-- A move of a login. -/
theorem LoginMove.live (h : LoginMove ctx ctx₁) (hctx : LiveInvariant ctx.state) :
    LiveStep ctx.state ctx₁.state := by
  cases h with
  | login active role => exact refl hctx
  | cleared => exact clearLoginState_live hctx
  | refreshed answers =>
    have hedits : Edits (IsOpen ctx) ctx.state (ctx.state.refresh answers).2 :=
      (refresh_edits ctx.state answers).edits
    exact hedits.live hctx
  | closed session => exact closeSession_live hctx session
  | opened readWrite halloc =>
    rw [allocateSession_sessions halloc]
    exact refl hctx
  | unregistered halloc =>
    rw [allocateSession_sessions halloc]
    exact refl hctx

/-- Moves of a login. -/
theorem LoginMoves.live (h : LoginMoves ctx ctx₁) (hctx : LiveInvariant ctx.state) :
    LiveStep ctx.state ctx₁.state := by
  induction h with
  | refl => exact refl hctx
  | tail _ hmove ih => exact ih.trans (hmove.live ih.inv)

/-- A move of an object call. -/
theorem ObjectMove.live (h : ObjectMove ctx ctx₁) (hctx : LiveInvariant ctx.state) :
    LiveStep ctx.state ctx₁.state := by
  cases h with
  | published h => exact h.live hctx
  | stored | session => exact refl hctx
  | counter halloc =>
    rw [allocateSession_sessions halloc]
    exact refl hctx

/-- Moves of an object call. -/
theorem ObjectMoves.live (h : ObjectMoves ctx ctx₁) (hctx : LiveInvariant ctx.state) :
    LiveStep ctx.state ctx₁.state := by
  induction h with
  | refl => exact refl hctx
  | tail _ hmove ih => exact ih.trans (hmove.live ih.inv)

/-- `C_CloseAllSessions` takes objects out of the map. -/
theorem closeAllSessions_live (hctx : LiveInvariant ctx.state) (answers : LogoutAnswers) :
    LiveStep ctx.state (ctx.closeAllSessions answers).2.state := by
  have hstart := (closingSlot_moves ctx answers).live hctx
  have hs := hstart.inv
  exact hstart.trans (of_keys hs (nodup_keys_filter hs.memoryNodup _) hs.tokenNodup
    (keys_filter_subset _ _) (List.Subset.refl _) rfl hs.stored)

/-! ## Calls -/

/-- The calls about sessions and logins. -/
def AboutLogin : SlotCall → Prop
  | .openSession _ _ | .closeSession _ _ | .login _ _ _ | .logout _ _ | .initToken _ _ _
  | .getSessionInfo _ _ _ | .loseLogin => True
  | _ => False

/-- The calls that start or continue a search. -/
def AboutSearch : SlotCall → Prop
  | .findObjectsInit _ _ _ _ _ | .findObjects _ _ => True
  | _ => False

/-- What a call is made of. -/
inductive CallMoves (ctx ctx₁ : SlotContext) : SlotCall → Prop where
  | login {call : SlotCall} (hcall : AboutLogin call) (h : LoginMoves ctx ctx₁) :
      CallMoves ctx ctx₁ call
  | object {call : SlotCall} (h : ObjectMoves ctx ctx₁) : CallMoves ctx ctx₁ call
  /-- A search of the calling session starts or goes on. -/
  | search {call : SlotCall} {ctx₂ : SlotContext} {session : SessionHandle}
      {found : SessionContext} (operation : FindOperation) (hcall : AboutSearch call)
      (h : ObjectMoves ctx ctx₂)
      (hfound : ctx.getSession session = .ok found)
      (heq : ctx₁ = ctx₂.setSession session { found with findOperation := some operation }) :
      CallMoves ctx ctx₁ call
  | closeAll (answers : LogoutAnswers) (heq : ctx₁ = (ctx.closeAllSessions answers).2) :
      CallMoves ctx ctx₁ (.closeAllSessions answers)

section

variable (encode : BackedEncoding) (hctx : LiveInvariant ctx.state) (call : SlotCall)

include hctx

/-- **Every call.** -/
theorem perform_moves : CallMoves ctx (ctx.perform encode call).2 call := by
  cases call with
  | openSession flags answers => exact .login trivial (openSession_moves ctx flags answers)
  | closeSession session answers => exact .login trivial (closeSession_moves ctx session answers)
  | closeAllSessions answers => exact .closeAll answers rfl
  | login session role answers => exact .login trivial (login_moves ctx session role answers)
  | logout session answers => exact .login trivial (logout_moves ctx session answers)
  | initToken command lostAfter listing =>
    exact .login trivial (initToken_moves ctx command lostAfter listing)
  | getSessionInfo session lost backend =>
    exact .login trivial (getSessionInfo_moves ctx session lost backend)
  | loseLogin => exact .login trivial (lose_moves ctx true)
  | findObjectsInit session answers refreshBefore objects matching =>
    obtain ⟨ctx₁, hmoves, heq | ⟨found, operation, hfound, heq⟩⟩ :=
      findObjectsInit_moves ctx session answers refreshBefore objects matching
    · exact .object (heq ▸ hmoves)
    · exact .search operation trivial hmoves hfound heq
  | findObjects session maxObjectCount =>
    unfold perform findObjects
    dsimp only
    cases hsession : ctx.getSession session with
    | error error => exact .object .refl
    | ok found =>
      dsimp only
      split
      · exact .object .refl
      · exact .search _ trivial .refl hsession rfl
  | findObjectsFinal session => exact .object (findObjectsFinal_moves ctx session)
  | changeOperations session operations =>
    exact .object (changeOperations_moves ctx session operations)
  | insertObject session object => exact .object (insertObject_moves ctx session object)
  | storeBackedObject session answers storage object =>
    exact .object (storeBackedObject_moves ctx encode answers storage session object)
  | destroyObject session answers storage handle =>
    exact .object (destroyObject_moves ctx session answers storage handle)
  | setAttributeValue session answers storage handle templ =>
    exact .object (setAttributeValue_moves encode hctx session answers storage handle templ)
  | refreshTokenObjects answers replaced =>
    exact .object (refreshTokenObjects_moves ctx answers replaced)
  | otherSlot object session => exact .object (otherSlot_moves ctx object session)

/-- **Every call** keeps the handles in use. -/
theorem perform_live : LiveStep ctx.state (ctx.perform encode call).2.state := by
  cases perform_moves encode hctx call with
  | login hcall h => exact h.live hctx
  | object h => exact h.live hctx
  | search operation hcall h hfound heq =>
    rw [heq]
    exact h.live hctx
  | closeAll answers heq => exact closeAllSessions_live hctx answers

end

end Pkcs11rs.Analysis
