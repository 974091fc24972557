import Pkcs11rs.Model.ObjectHandles

/-!
# Sessions and logins of a slot

`SlotContext` with its sessions, their operations and the login of the token
(`context.rs:300-330`, `context.rs:1774-1816`, `context.rs:1876-1895`, `context.rs:2010-2111`,
`api/session.rs:232-465`, `api/session.rs:587-732`).

The login lives twice: `loginRole` is what the context has recorded, `loginActive` what
`Slot::login_is_active` answers.  The slot can lose its login at any time, also in the middle of a
call; the `lost` fields of the answers say where that happens.  Only an authentication can make a
login active.

Every session of a context is a session of its slot, so the comparisons of `slotID` are left out.
-/

set_option autoImplicit false

namespace Pkcs11rs.Model

open Pkcs11rs.Library

/-- `CK_SESSION_HANDLE`. -/
abbrev SessionHandle := UInt64

/-! ## The search of a session -/

/-- `FindOperation`: the handles that matched and the cursor. -/
structure FindOperation where
  objects : List ObjectHandle
  next : ℕ
  deriving DecidableEq

variable (operation : FindOperation)

namespace FindOperation

/-- How often a handle stands before the cursor (`removed_before_cursor`). -/
def removedBeforeCursor (handle : ObjectHandle) : ℕ :=
  ((operation.objects.take (min operation.next operation.objects.length)).filter
    fun candidate => candidate = handle).length

/-- What `remove_object_handle` does to a search. -/
def forget (handle : ObjectHandle) : FindOperation where
  objects := operation.objects.filter fun candidate => candidate ≠ handle
  next := operation.next - operation.removedBeforeCursor handle

/-- The handles behind the cursor. -/
def remaining : List ObjectHandle :=
  operation.objects.drop operation.next

/-- The batch of `find_objects` and the search after it. -/
def batch (maxObjectCount : ℕ) : List ObjectHandle × FindOperation :=
  let returned := min operation.remaining.length maxObjectCount
  (operation.remaining.take returned, { operation with next := operation.next + returned })

end FindOperation

/-! ## Sessions and the slot context -/

/-- The operations of a session other than the search. -/
inductive OperationKind where
  | digest
  | encrypt
  | decrypt
  | sign
  | verify
  deriving DecidableEq, Repr

structure SessionContext where
  /-- `CKF_RW_SESSION` of the session. -/
  readWrite : Bool
  /-- The references in the session's own `MemoryStorageProvider`. -/
  storage : List ContentReference := []
  findOperation : Option FindOperation := none
  /-- The other operations that are active. -/
  operations : List OperationKind := []
  deriving DecidableEq

def SessionContext.clearOperations (session : SessionContext) : SessionContext :=
  { session with findOperation := none, operations := [] }

/-- The fields of `SlotContext` that sessions and logins use. -/
structure SlotContext where
  state : SlotState
  sessions : List (SessionHandle × SessionContext)
  /-- `HandleCounters::next_session`; 0 once every handle has been given out. -/
  nextSession : UInt64
  /-- `login_role` as the context has recorded it. -/
  loginRole : Option LoginRole
  /-- `Slot::login_is_active`. -/
  loginActive : Bool
  tokenStorage : List ContentReference
  deriving DecidableEq

/-- The handles that name an object. -/
def SlotState.liveHandles (s : SlotState) : List ObjectHandle :=
  keys s.memoryObjects ++ keys s.tokenObjectHandles

/-- The handles that an operation has taken out of the maps. -/
def SlotState.removedHandles (s s' : SlotState) : List ObjectHandle :=
  s.liveHandles.filter fun handle => handle ∉ s'.liveHandles

variable (ctx : SlotContext)

namespace SlotContext

def new (slotId : Ulong) (nextObject nextSession : UInt64) : SlotContext where
  state := SlotState.empty slotId nextObject
  sessions := []
  nextSession := nextSession
  loginRole := none
  loginActive := false
  tokenStorage := []

/-- Change every session. -/
def mapSessions (f : SessionContext → SessionContext) : SlotContext :=
  { ctx with sessions := ctx.sessions.map fun entry => (entry.1, f entry.2) }

/-- The part of `remove_object_handle` that edits the searches, for a list of handles. -/
def forgetInSearches (handles : List ObjectHandle) : SlotContext :=
  ctx.mapSessions fun session =>
    { session with
      findOperation := session.findOperation.map fun operation =>
        handles.foldl FindOperation.forget operation }

/-- The handle maps after an operation.  Handles leave the maps through `remove_object_handle`
only, which takes them out of the searches of all sessions as well. -/
def publish (state : SlotState) : SlotContext :=
  { ctx with state := state }.forgetInSearches (ctx.state.removedHandles state)

def getSession (session : SessionHandle) : Except Rv SessionContext :=
  match mapGet ctx.sessions session with
  | some found => .ok found
  | none => .error .sessionHandleInvalid

/-- Put a changed session back. -/
def setSession (session : SessionHandle) (changed : SessionContext) : SlotContext :=
  { ctx with sessions := mapInsert ctx.sessions session changed }

/-! ## The login of the token -/

/-- `login_role`: the recorded role while the login is active. -/
def role : Option LoginRole :=
  if ctx.loginActive then ctx.loginRole else none

def userLoggedIn : Bool := ctx.role = some .user

/-- The slot loses its login. -/
def lose (lost : Bool) : SlotContext :=
  if lost then { ctx with loginActive := false } else ctx

def clearLoginState (ctx : SlotContext) : SlotContext :=
  { ctx with loginRole := none, state := ctx.state.clearLoginState }.mapSessions
    SessionContext.clearOperations

def reconcileLoginState : SlotContext :=
  if ctx.loginRole.isSome ∧ ctx.role = none then ctx.clearLoginState else ctx

end SlotContext

/-- What the slot answers when a role is logged out. -/
structure LogoutAnswers where
  /-- The login is lost after `reconcile_login_state`. -/
  lost : Bool := false
  /-- The login is lost before `logout_slot` reads the role again. -/
  lostBefore : Bool := false
  /-- `logout_role`. -/
  command : Except Rv Unit := .ok ()
  /-- `set_login_role(None)`. -/
  setRole : Except Rv Unit := .ok ()
  /-- The login is lost by the time the slot has answered. -/
  lostAfter : Bool := true
  /-- `refresh_token_objects_after_logout`. -/
  refreshAfter : Bool := false
  listing : Answers

/-- What the slot answers when a role is logged in. -/
structure LoginAnswers where
  /-- The checks before `login_role`: the user type, the PIN, `supports_login_user`. -/
  before : Except Rv Unit := .ok ()
  /-- The login is lost after `reconcile_login_state`. -/
  lost : Bool := false
  authenticate : Except Rv Unit := .ok ()
  /-- `set_login_role(Some(role))`. -/
  setRole : Except Rv Unit := .ok ()
  /-- `refresh_token_objects_after_login`. -/
  refreshAfter : Bool := false
  listing : Answers
  /-- Whether the login is active when the call returns. -/
  activeAfter : Bool := true

/-- The flags of `C_OpenSession`. -/
structure OpenFlags where
  serial : Bool := true
  async : Bool := false
  readWrite : Bool := false

/-- What the slot and the registry answer when a session is opened. -/
structure OpenAnswers where
  /-- The login is lost after `reconcile_login_state`. -/
  lost : Bool := false
  /-- The login is lost while the slot is refreshed. -/
  lostAfter : Bool := false
  /-- `CKF_TOKEN_PRESENT` of the slot. -/
  present : Bool := true
  /-- `register_session`. -/
  registered : Except Rv Unit := .ok ()

namespace SlotContext

variable (answers : LogoutAnswers)

def logoutSlot : Except Rv Unit × SlotContext :=
  match ctx.role with
  | none => (.error .userNotLoggedIn, ctx)
  | some _ =>
    match answers.command, answers.setRole with
    | .error error, _ => (.error error, ctx.lose answers.lostAfter)
    | .ok (), .error error => (.error error, ctx.lose answers.lostAfter)
    | .ok (), .ok () =>
      let ctx := (ctx.lose answers.lostAfter).clearLoginState
      if answers.refreshAfter then
        let (result, state) := ctx.state.refresh answers.listing
        (result, ctx.publish state)
      else (.ok (), ctx)

/-- `logout` (`C_Logout`). -/
def logout (session : SessionHandle) (answers : LogoutAnswers) : Except Rv Unit × SlotContext :=
  match ctx.getSession session with
  | .error error => (.error error, ctx)
  | .ok _ =>
    let ctx := ctx.reconcileLoginState.lose answers.lost
    if ctx.role = none then (.error .userNotLoggedIn, ctx)
    else (ctx.lose answers.lostBefore).logoutSlot answers

/-- The logout of `C_CloseSession` and `C_CloseAllSessions`; a failure of it is reported after
the sessions have been closed. -/
def logoutToClose : Option Rv × SlotContext :=
  if ctx.role = none then (none, ctx)
  else
    match (ctx.lose answers.lostBefore).logoutSlot answers with
    | (.ok (), ctx) => (none, ctx)
    -- `clear_session` ends the login of the slot
    | (.error error, ctx) => (some error, ctx.clearLoginState.lose true)

/-- The result of a call that went on after a failed logout. -/
def closed : Option Rv → Except Rv Unit
  | none => .ok ()
  | some error => .error error

/-- `close_session` (`C_CloseSession`). -/
def closeSession (ctx : SlotContext) (session : SessionHandle) (answers : LogoutAnswers) :
    Except Rv Unit × SlotContext :=
  match ctx.getSession session with
  | .error error => (.error error, ctx)
  | .ok _ =>
    let isLastSession := ctx.sessions.all fun entry => entry.1 = session
    let ctx := ctx.reconcileLoginState.lose answers.lost
    let (failure, ctx) := if isLastSession then ctx.logoutToClose answers else (none, ctx)
    let ctx := { ctx with sessions := mapRemove ctx.sessions session }
    (closed failure, ctx.publish (ctx.state.closeSession session))

/-- `C_CloseAllSessions`. -/
def closeAllSessions : Except Rv Unit × SlotContext :=
  let closedSessions := keys ctx.sessions
  let (failure, ctx) := (ctx.reconcileLoginState.lose answers.lost).logoutToClose answers
  -- the object map is edited directly here, not with `remove_object_handle`
  let memoryObjects := ctx.state.memoryObjects.filter fun entry =>
    match entry.2.creatorSession with
    | some owner => owner ∉ closedSessions
    | none => true
  (closed failure,
    { ctx with sessions := [], state := { ctx.state with memoryObjects := memoryObjects } })

def login (session : SessionHandle) (role : LoginRole) (answers : LoginAnswers) :
    Except Rv Unit × SlotContext :=
  match ctx.getSession session, answers.before with
  | .error error, _ => (.error error, ctx)
  | .ok _, .error error => (.error error, ctx)
  | .ok _, .ok () =>
    let ctx := ctx.reconcileLoginState.lose answers.lost
    match ctx.role with
    | some active =>
      (.error (if active = role then .userAlreadyLoggedIn else .userAnotherAlreadyLoggedIn),
        ctx)
    | none =>
      if role = .so ∧ ctx.sessions.any fun entry => !entry.2.readWrite then
        (.error .sessionReadOnlyExists, ctx)
      else
        let ctx := { ctx with loginActive := answers.activeAfter }
        match answers.authenticate, answers.setRole with
        | .error error, _ => (.error error, ctx)
        | .ok (), .error error => (.error error, ctx)
        | .ok (), .ok () =>
          let ctx := { ctx with loginRole := some role }
          if answers.refreshAfter then
            match ctx.state.refresh answers.listing with
            | (.error error, state) => (.error error, (ctx.publish state).clearLoginState)
            | (.ok (), state) => (.ok (), ctx.publish state)
          else (.ok (), ctx)

def initToken (command : Except Rv Unit) (lostAfter : Bool) (listing : Answers) :
    Except Rv Unit × SlotContext :=
  if ctx.sessions ≠ [] then (.error .sessionExists, ctx)
  else
    match command with
    | .error error => (.error error, ctx.lose lostAfter)
    | .ok () =>
      let ctx := { ctx.lose lostAfter with loginRole := none }
      let (result, state) := ctx.state.refresh listing
      (result, ctx.publish state)

/-! ## Opening a session -/

def allocateSession : Option (SessionHandle × SlotContext) :=
  if ctx.nextSession = 0 then none
  else some (ctx.nextSession, { ctx with nextSession := ctx.nextSession + 1 })

/-- `open_session_inner` (`C_OpenSession`). -/
def openSession (flags : OpenFlags) (answers : OpenAnswers) :
    Except Rv SessionHandle × SlotContext :=
  if flags.serial = false then (.error .sessionParallelNotSupported, ctx)
  else if flags.async then (.error .sessionAsyncNotSupported, ctx)
  else
    let ctx := ctx.reconcileLoginState.lose answers.lost
    if flags.readWrite = false ∧ ctx.role = some .so then
      (.error .sessionReadWriteSoExists, ctx)
    else
      let ctx := ctx.lose answers.lostAfter
      if answers.present = false then (.error .tokenNotPresent, ctx)
      else
        match ctx.allocateSession with
        | none => (.error .hostMemory, ctx)
        | some (handle, ctx) =>
          match answers.registered with
          | .ok () => (.ok handle, ctx.setSession handle { readWrite := flags.readWrite })
          -- the session that was inserted is removed again
          | .error error =>
            (.error error, { ctx with sessions := mapRemove ctx.sessions handle })

end SlotContext

/-! ## The reported state of a session -/

/-- `CK_STATE`. -/
inductive SessionState where
  | roPublicSession
  | roUserFunctions
  | rwPublicSession
  | rwUserFunctions
  | rwSoFunctions
  deriving DecidableEq, Repr

def sessionState (readWrite : Bool) : Option LoginRole → SessionState
  | some .so => .rwSoFunctions
  | some .user => if readWrite then .rwUserFunctions else .roUserFunctions
  | none => if readWrite then .rwPublicSession else .roPublicSession

/-- `get_session_info`; `backend` is what the session's backend answers to
`get_session_info` where it is asked. -/
def SlotContext.getSessionInfo (session : SessionHandle) (lost : Bool) (backend : Except Rv Unit) :
    Except Rv SessionState × SlotContext :=
  match ctx.getSession session with
  | .error error => (.error error, ctx)
  | .ok found =>
    let ctx := (ctx.reconcileLoginState.lose lost).reconcileLoginState
    match backend with
    | .error error => (.error error, ctx)
    | .ok () => (.ok (sessionState found.readWrite ctx.role), ctx)

end Pkcs11rs.Model
