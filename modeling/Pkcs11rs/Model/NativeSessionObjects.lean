import Pkcs11rs.Library.AssocMap
import Pkcs11rs.Model.SessionRecreation

/-!
# Native session objects of a YubiHSM slot

A YubiHSM keeps volatile objects for a secure session, and the module has PKCS #11 objects that name them
by the handle that the device returned (`api/key.rs:25-145`).  The slot has one secure session, of a user or
of public discovery, which commands, logins, logouts and reconnections replace
(`backend/yubihsm.rs:1655-1843`, `backend/yubihsm.rs:3259-3331`); the recorded login is compared with it
when a call happens to do so (`context.rs:1774-1816`).

Secure sessions are numbered.  The number of the session that returned a handle (`origin`) and the list of
the handles that were sent are not in the source; the functions do not look at them.  What the device
answers is part of the event.
-/

set_option autoImplicit false

namespace Pkcs11rs.Model

open Pkcs11rs.Library

/-- A handle of the device, with the secure session that returned it. -/
@[ext]
structure DeviceHandle where
  handle : UInt64
  origin : ℕ
  deriving DecidableEq

/-- A PKCS #11 object with the material `YubiHsmSessionObject`. -/
structure NativeObject where
  native : DeviceHandle
  token : Bool
  private_ : Bool
  /-- `creator_session`. -/
  creator : Option ℕ
  deriving DecidableEq

/-- `CKA_COPYABLE` of such an object (`object.rs:1679-1686`). -/
def NativeObject.copyable (_ : NativeObject) : Bool := false

/-- A `verify_operation` with such a key. -/
structure NativeVerify where
  native : DeviceHandle
  requiresLogin : Bool
  deriving DecidableEq

/-- `YubiHsmSessionState` with a numbered session; `recreate` says that a recipe is retained. -/
inductive SessionCell where
  | loggedOut
  | invalidatedUser
  | active (session : ℕ) (role : YubiHsmSessionRole) (nativeSessionObjects recreate : Bool)
  deriving DecidableEq

/-- The state after the session of a role is lost. -/
def SessionCell.lost : YubiHsmSessionRole → SessionCell
  | .user => .invalidatedUser
  | .publicDiscovery => .loggedOut

/-- `login_is_active`. -/
def SessionCell.isUser : SessionCell → Bool
  | .active _ .user _ _ => true
  | _ => false

/-- What happens to one command of a valid session. -/
inductive CommandAnswer where
  /-- The command does not pass `validate_command` and is not sent. -/
  | refused
  | answered (ok : Bool)
  /-- The device says that the session is invalid. -/
  | expired
  /-- The transport or the protection of the answer fails, which ends the session. -/
  | broken
  deriving DecidableEq

/-- What happens to a command, and to a second attempt after `recipe.authenticate`. -/
structure Exchange where
  first : CommandAnswer
  reauthenticated : Bool
  second : CommandAnswer
  deriving DecidableEq

/-- A command with device handles was sent over a secure session. -/
structure SentHandle where
  session : ℕ
  native : DeviceHandle
  deriving DecidableEq

structure NativeSlot where
  recreateSessions : Bool
  cell : SessionCell
  nextSession : ℕ
  /-- `login_role`; a YubiHSM has no SO. -/
  loginRole : Bool
  sessions : List (ℕ × Option NativeVerify)
  objects : List (ℕ × NativeObject)
  nextObject : ℕ
  sent : List SentHandle
  /-- The handles that the device has returned. -/
  issued : List DeviceHandle
  deriving DecidableEq

variable (s : NativeSlot) (session : ℕ)

namespace NativeSlot

/-- After `C_Initialize`. -/
def initial (recreateSessions : Bool) : NativeSlot where
  recreateSessions := recreateSessions
  cell := .loggedOut
  nextSession := 0
  loginRole := false
  sessions := []
  objects := []
  nextObject := 1
  sent := []
  issued := []

/-- `is_slot_user_logged_in`: the login is recorded and its secure session is there. -/
def loggedIn : Bool := s.loginRole && s.cell.isUser

def log (carried : List DeviceHandle) : NativeSlot :=
  { s with sent := s.sent ++ carried.map (⟨session, ·⟩) }

/-- `send_secure_command`. -/
def send (carried : List DeviceHandle) (exchange : Exchange) : NativeSlot × Bool :=
  match s.cell with
  | .active session role native recreate =>
    match exchange.first with
    | .refused => (s, false)
    | .answered ok => (s.log session carried, ok)
    | .broken => ({ s.log session carried with cell := .lost role }, false)
    | .expired =>
      if recreate ∧ exchange.reauthenticated then
        let s := { s.log session carried with nextSession := s.nextSession + 1 }
        let s := s.log (s.nextSession - 1) carried
        match exchange.second with
        | .answered ok =>
          ({ s with cell := .active (s.nextSession - 1) role native recreate }, ok)
        | _ => ({ s with cell := .lost role }, false)
      else ({ s.log session carried with cell := .lost role }, false)
  | _ => (s, false)

def clearLoginState : NativeSlot :=
  { s with
    loginRole := false
    sessions := s.sessions.map fun entry => (entry.1, none)
    objects := s.objects.filter fun entry => entry.2.token || !entry.2.private_ }

def closeActiveSession : NativeSlot := { s with cell := .loggedOut }

/-- `reconcile_login_state`; `clear_lost_login` closes whatever session is there. -/
def reconcile : NativeSlot :=
  if s.loginRole ∧ ¬ s.cell.isUser then s.closeActiveSession.clearLoginState else s

variable (object : ℕ)

/-- `resolve_object(..).filter(is_visible_to)`. -/
def resolve : Option NativeObject :=
  (mapGet s.objects object).filter fun stored => !stored.private_ || s.loggedIn

def insert (object : NativeObject) : NativeSlot :=
  { s with
    objects := mapInsert s.objects s.nextObject object
    nextObject := s.nextObject + 1 }

/-- `remove_object_handle`. -/
def remove : NativeSlot :=
  { s with objects := mapRemove s.objects object }

/-- The secure session that answers now. -/
def currentSession : Option ℕ :=
  match s.cell with
  | .active session _ _ _ => some session
  | _ => none

def supportsNativeSessionObjects : Bool :=
  match s.cell with
  | .active _ .user true _ => true
  | _ => false

/-- What becomes of a handle that the device has returned (`publish_native_session_secret`). -/
inductive Publication where
  /-- The object is deleted: a token object, a usage that the device does not have, no PKCS #11 handle. -/
  | discard (delete : Exchange)
  /-- The value is read and the object deleted, and the key goes on in the module. -/
  | software (read delete : Exchange)
  | native
  deriving DecidableEq

/-- `publish_native_session_secret` with the session of the caller. -/
def publish (private_ : Bool) (native : DeviceHandle) : Publication → NativeSlot
  | .discard delete => (s.send [native] delete).1
  | .software read delete => ((s.send [native] read).1.send [native] delete).1
  | .native => s.insert ⟨native, false, private_, some session⟩

/-- `C_GenerateKeyPair` and the derivations: a command over the handles of the sources. -/
def create (sources : List ℕ) (private_ : Bool) (exchange : Exchange) (handle : UInt64)
    (publication : Publication) : NativeSlot :=
  if mapHas s.sessions session ∧ (private_ → s.loggedIn) ∧ s.supportsNativeSessionObjects ∧
      ∀ source ∈ sources, (s.resolve source).isSome then
    match s.send ((sources.filterMap s.resolve).map NativeObject.native) exchange with
    | (s, true) =>
      match s.currentSession with
      | some origin =>
        let native := ⟨handle, origin⟩
        publish { s with issued := native :: s.issued } session private_ native publication
      | none => s
    | (s, false) => s
  else s

/-- `C_CopyObject`, which asks for `CKA_COPYABLE`; the template may change `CKA_TOKEN` and `CKA_PRIVATE`. -/
def copy (readWrite : Bool) (token private_ : Option Bool) : NativeSlot :=
  match s.resolve object with
  | some stored =>
    let copied : NativeObject :=
      { stored with
        token := token.getD stored.token
        private_ := private_.getD stored.private_ }
    if mapHas s.sessions session ∧ stored.copyable ∧ (copied.private_ → s.loggedIn) ∧
        (copied.token → readWrite) then
      s.insert { copied with creator := if copied.token then none else some session }
    else s
  | none => s

/-- `C_DestroyObject`. -/
def destroy (permitted : Bool) (exchange : Exchange) : NativeSlot :=
  match s.resolve object with
  | some stored =>
    if mapHas s.sessions session ∧ permitted then
      match s.send [stored.native] exchange with
      | (s, true) => s.remove object
      | (s, false) => s
    else s
  | none => s

/-- `C_GetAttributeValue` of `CKA_VALUE`. -/
def getValue (readable : Bool) (exchange : Exchange) : NativeSlot :=
  match s.resolve object with
  | some stored =>
    if mapHas s.sessions session ∧ readable then (s.send [stored.native] exchange).1 else s
  | none => s

def setVerify (operation : Option NativeVerify) : NativeSlot :=
  { s with sessions := mapInsert s.sessions session operation }

/-- `C_VerifyInit`. -/
def verifyInit : NativeSlot :=
  match s.resolve object with
  | some stored =>
    if mapHas s.sessions session then
      s.setVerify session (some ⟨stored.native, stored.private_⟩)
    else s
  | none => s

/-- `C_Verify` and `C_VerifyFinal`; the operation is taken first. -/
def verify (exchange : Exchange) : NativeSlot :=
  match mapGet s.sessions session with
  | some (some operation) =>
    let s := s.setVerify session none
    if operation.requiresLogin ∧ ¬ s.loggedIn then s.reconcile
    else (s.send [operation.native] exchange).1
  | _ => s

/-- `logout_slot`; a close that fails leaves the login recorded. -/
def logoutSlot (closed : Bool) : NativeSlot :=
  if closed then s.closeActiveSession.clearLoginState else s.closeActiveSession

/-- `C_Logout`. -/
def logout (closed : Bool) : NativeSlot :=
  let s := s.reconcile
  if s.loggedIn then s.logoutSlot closed else s

/-- `C_Login`: the session of before is closed, whether or not the new one is established; when the objects
cannot be listed the login is taken back. -/
def login (authenticated nativeSessionObjects refreshed : Bool) : NativeSlot :=
  let s := s.reconcile
  if s.loggedIn then s
  else
    let s := s.closeActiveSession
    if authenticated then
      let s :=
        { s with
          cell := .active s.nextSession .user nativeSessionObjects s.recreateSessions
          nextSession := s.nextSession + 1
          loginRole := true }
      if refreshed then s else s.closeActiveSession.clearLoginState
    else s

/-- The logout that goes with the last session; after a failed one the login is cleared all the same. -/
def logoutLast : NativeSlot :=
  if s.loggedIn then s.closeActiveSession.clearLoginState else s

/-- The loop over the objects of a session that is closed; what the deletions answer is not looked at. -/
def deleteCreated (s : NativeSlot) : List (ℕ × DeviceHandle) → List Exchange → NativeSlot
  | [], _ => s
  | (object, native) :: rest, exchanges =>
    let exchange := exchanges.headD ⟨.broken, false, .broken⟩
    ((s.send [native] exchange).1.remove object).deleteCreated rest exchanges.tail

/-- `C_CloseSession`. -/
def closeSession (deletions : List Exchange) : NativeSlot :=
  if mapHas s.sessions session then
    let s := s.reconcile
    let s := if s.sessions.all fun entry => entry.1 = session then s.logoutLast else s
    let s := { s with sessions := mapRemove s.sessions session }
    let created := s.objects.filter fun entry => entry.2.creator = some session
    s.deleteCreated (created.map fun entry => (entry.1, entry.2.native)) deletions
  else s

/-- `C_CloseAllSessions`. -/
def closeAllSessions : NativeSlot :=
  let s := s.reconcile.logoutLast
  { s with
    objects := s.objects.filter fun entry => entry.2.creator.all fun c => !mapHas s.sessions c
    sessions := [] }

/-- `ensure_read_session`; `opened` says whether a session for discovery is established. -/
def ensureReadSession (opened : Bool) : NativeSlot :=
  match s.cell with
  | .active _ _ _ _ => s
  | .invalidatedUser => { s with cell := .loggedOut }
  | .loggedOut =>
    if opened then
      { s with
        cell := .active s.nextSession .publicDiscovery false s.recreateSessions
        nextSession := s.nextSession + 1 }
    else s

/-- `synchronize_caches` after the connector has reconnected. -/
def reconnected : NativeSlot :=
  { s with cell := if s.cell.isUser then .invalidatedUser else .loggedOut }

/-- `C_OpenSession`. -/
def openSession : NativeSlot :=
  if mapHas s.sessions session then s else s.reconcile.setVerify session none

end NativeSlot

/-- The calls, with what the device answers. -/
inductive NativeEvent where
  | openSession (session : ℕ)
  | create (session : ℕ) (sources : List ℕ) (private_ : Bool) (exchange : Exchange)
      (handle : UInt64) (publication : NativeSlot.Publication)
  | copy (session object : ℕ) (readWrite : Bool) (token private_ : Option Bool)
  | destroy (session object : ℕ) (permitted : Bool) (exchange : Exchange)
  | getValue (session object : ℕ) (readable : Bool) (exchange : Exchange)
  | verifyInit (session object : ℕ)
  | verify (session : ℕ) (exchange : Exchange)
  | logout (closed : Bool)
  | login (authenticated nativeSessionObjects refreshed : Bool)
  | closeSession (session : ℕ) (deletions : List Exchange)
  | closeAllSessions
  /-- A call that compares the recorded login with the session. -/
  | reconcile
  | ensureReadSession (opened : Bool)
  /-- Another command, over the session that is there. -/
  | command (exchange : Exchange)
  | reconnected
  deriving DecidableEq

/-- One call. -/
def NativeSlot.step : NativeEvent → NativeSlot
  | .openSession session => s.openSession session
  | .create session sources private_ exchange handle publication =>
    s.create session sources private_ exchange handle publication
  | .copy session object readWrite token private_ =>
    s.copy session object readWrite token private_
  | .destroy session object permitted exchange => s.destroy session object permitted exchange
  | .getValue session object readable exchange => s.getValue session object readable exchange
  | .verifyInit session object => s.verifyInit session object
  | .verify session exchange => s.verify session exchange
  | .logout closed => s.logout closed
  | .login authenticated nativeSessionObjects refreshed =>
    s.login authenticated nativeSessionObjects refreshed
  | .closeSession session deletions => s.closeSession session deletions
  | .closeAllSessions => s.closeAllSessions
  | .reconcile => s.reconcile
  | .ensureReadSession opened => s.ensureReadSession opened
  | .command exchange => (s.send [] exchange).1
  | .reconnected => s.reconnected

end Pkcs11rs.Model
