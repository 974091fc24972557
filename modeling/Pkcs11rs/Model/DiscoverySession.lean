import Pkcs11rs.Library.Scripts
import Pkcs11rs.Model.NativeSessionObjects

/-!
# What a YubiHSM slot sends over its secure session

The slot has one session cell, for a user or for public discovery, and `send_secure_command` sends a command
over whatever session is there (`backend/yubihsm.rs:3241-3340`).  Discovery sessions are opened by
`ensure_read_session` and `public_discovery_available` (`backend/yubihsm.rs:1776-1843`,
`backend/yubihsm.rs:2193-2331`).  Refreshes, stored records and companion metadata are scripts of what they
do with the session, in the order of the source (`backend/yubihsm.rs:1040-1240`,
`backend/yubihsm.rs:1906-2056`, `backend/yubihsm.rs:2566-3240`, `backend/yubihsm.rs:4460-4546`).

What the device holds and what is cached decides how many objects are read or deleted, so it is in the plan
of a script; what the device and the transport answer is in the answers.  The trace has the commands that
were sent and is not in the source.
-/

set_option autoImplicit false

namespace Pkcs11rs.Model

open Pkcs11rs.Library

/-! ### The session cell -/

/-- `YubiHsmSessionState`; `recreate` says that a recipe is retained. -/
inductive RoleCell where
  | loggedOut
  | invalidatedUser
  | active (role : YubiHsmSessionRole) (nativeSessionObjects recreate : Bool)
  deriving DecidableEq

/-- `is_active_as(User)`. -/
def RoleCell.isUser : RoleCell → Bool
  | .active .user _ _ => true
  | _ => false

/-- `YubiHsmDiscoveryCache`. -/
inductive DiscoveryCache where
  | unattempted
  | failed
  | available
  deriving DecidableEq

/-- What happened on the secure sessions of the slot. -/
inductive SecureEvent where
  | sent (role : YubiHsmSessionRole) (code : CommandCode)
  /-- The session of a user is gone: it was lost, or closed. -/
  | userEnded
  /-- A login has succeeded. -/
  | userStarted
  deriving DecidableEq

/-- The operations that a PKCS #11 session can have at the same time. -/
inductive DeviceOperation where
  | sign
  | verify
  | encrypt
  | decrypt
  deriving DecidableEq

/-- An operation with a key of the device. -/
structure HsmOperation where
  requiresLogin : Bool
  /-- The key is a native session object. -/
  native : Bool
  deriving DecidableEq

/-- A native session object of the slot, with its `creator_session`. -/
structure NativeSecret where
  token : Bool
  private_ : Bool
  creator : Option ℕ
  deriving DecidableEq

/-- `CKA_COPYABLE` of such an object (`object.rs:1679-1686`). -/
def NativeSecret.copyable (_ : NativeSecret) : Bool := false

structure SecureSlot where
  recreateSessions : Bool
  /-- `public_discovery_config` is there. -/
  discoveryConfigured : Bool
  cell : RoleCell
  discovery : DiscoveryCache
  loginRole : Bool
  sessions : List ℕ
  operations : List ((ℕ × DeviceOperation) × HsmOperation)
  objects : List (ℕ × NativeSecret)
  nextObject : ℕ
  trace : List SecureEvent
  deriving DecidableEq

/-- What the device and the transport answer to one request. -/
structure HsmAnswer where
  exchange : Exchange
  /-- The connection epoch has changed. -/
  reconnected : Bool
  /-- `select_explicit_login` finds the authentication source of public discovery. -/
  selected : Bool
  /-- A new secure session is authenticated. -/
  authenticated : Bool
  /-- Its objects are listed. -/
  listed : Bool
  /-- Its authentication key, or the discovery, is accepted. -/
  accepted : Bool
  deriving DecidableEq

/-- Nothing is answered. -/
def HsmAnswer.quiet : HsmAnswer := ⟨⟨.refused, false, .refused⟩, false, false, false, false, false⟩

/-- The reads of `discover_objects` after the list, and of the certificates after it. -/
inductive DiscoveryRead where
  | objectInfo
  | value
  | publicKey
  deriving DecidableEq

def DiscoveryRead.code : DiscoveryRead → CommandCode
  | objectInfo => .getObjectInfo
  | value => .getOpaque
  | publicKey => .getPublicKey

variable (s : SecureSlot)

namespace SecureSlot

/-- After `C_Initialize`. -/
def initial (recreateSessions discoveryConfigured : Bool) : SecureSlot where
  recreateSessions := recreateSessions
  discoveryConfigured := discoveryConfigured
  cell := .loggedOut
  discovery := .unattempted
  loginRole := false
  sessions := []
  operations := []
  objects := []
  nextObject := 1
  trace := []

def loggedIn : Bool := s.loginRole && s.cell.isUser

def log (events : List SecureEvent) : SecureSlot :=
  { s with trace := s.trace ++ events }

/-- The session of the cell is lost. -/
def lose : YubiHsmSessionRole → SecureSlot
  | .user => { s.log [.userEnded] with cell := .invalidatedUser }
  | .publicDiscovery => { s with cell := .loggedOut }

def send (code : CommandCode) (exchange : Exchange) : Bool × SecureSlot :=
  match s.cell with
  | .active role _ recreate =>
    match exchange.first with
    | .refused => (false, s)
    | .answered ok => (ok, s.log [.sent role code])
    | .broken => (false, (s.log [.sent role code]).lose role)
    | .expired =>
      if recreate ∧ exchange.reauthenticated then
        let s := s.log [.sent role code, .sent role code]
        match exchange.second with
        | .answered ok => (ok, s)
        | _ => (false, s.lose role)
      else (false, (s.log [.sent role code]).lose role)
  | _ => (false, s)

def closeActiveSession : SecureSlot :=
  match s.cell with
  | .active .user _ _ =>
    { s.log [.sent .user .closeSession, .userEnded] with cell := .loggedOut }
  | .active .publicDiscovery _ _ =>
    { s.log [.sent .publicDiscovery .closeSession] with cell := .loggedOut }
  | _ => { s with cell := .loggedOut }

def synchronizeCaches (reconnected : Bool) : SecureSlot :=
  if reconnected then
    let s := if s.cell.isUser then s.lose .user else { s with cell := .loggedOut }
    { s with discovery := .unattempted }
  else s

/-- A session for discovery is in the cell. -/
def installDiscovery : SecureSlot :=
  { s with cell := .active .publicDiscovery false s.recreateSessions }

def ensureReadSession (answer : HsmAnswer) : Bool × SecureSlot :=
  let s := s.synchronizeCaches answer.reconnected
  match s.cell with
  | .active _ _ _ => (true, s)
  | .invalidatedUser => (false, { s with cell := .loggedOut })
  | .loggedOut =>
    if s.discoveryConfigured ∧ answer.authenticated then
      let s := s.log [.sent .publicDiscovery .getObjectInfo]
      if answer.accepted then (true, s.installDiscovery)
      else (false, s.log [.sent .publicDiscovery .closeSession])
    else (false, s)

/-- The discovery over a session of its own, which is retained if it succeeds. -/
def attemptDiscovery (reads : List DiscoveryRead) (answer : HsmAnswer) : Bool × SecureSlot :=
  if answer.authenticated then
    let s := s.log [.sent .publicDiscovery .getObjectInfo]
    if answer.listed then
      let s := s.log (.sent .publicDiscovery .listObjects ::
        reads.map fun read => .sent .publicDiscovery read.code)
      if answer.accepted then (true, { s.installDiscovery with discovery := .available })
      else (false, s.log [.sent .publicDiscovery .closeSession])
    else (false, s.log [.sent .publicDiscovery .closeSession])
  else (false, s)

/-- `public_discovery_available`, which stays unattempted while its authentication source is not found; the
reply is not looked at except by `C_LoginUser`. -/
def publicDiscoveryAvailable (reads : List DiscoveryRead) (answer : HsmAnswer) :
    Bool × SecureSlot :=
  let s := s.synchronizeCaches answer.reconnected
  if s.discoveryConfigured then
    match s.discovery with
    | .available => (true, s)
    | .failed => (false, s)
    | .unattempted =>
      if s.cell.isUser ∨ answer.selected = false then (false, s)
      else { s with discovery := .failed }.attemptDiscovery reads answer
  else (false, s)

def clearLoginState : SecureSlot :=
  { s with
    loginRole := false
    operations := []
    objects := s.objects.filter fun entry => entry.2.token || !entry.2.private_ }

/-- `reconcile_login_state`. -/
def reconcile : SecureSlot :=
  if s.loginRole ∧ ¬ s.cell.isUser then s.closeActiveSession.clearLoginState else s

end SecureSlot

/-! ### Scripts -/

/-- What a call does with the session of its slot. -/
inductive HsmRequest where
  | command (code : CommandCode)
  | synchronizeCaches
  | ensureReadSession
  | publicDiscoveryAvailable (reads : List DiscoveryRead)
  /-- `has_session_role(User)`. -/
  | isUser
  /-- A session is there, of whatever role. -/
  | isActive
  /-- The cell is `LoggedOut`. -/
  | isLoggedOut
  deriving DecidableEq

/-- What a request does. -/
def SecureSlot.handle (request : HsmRequest) (answer : HsmAnswer) : Bool × SecureSlot :=
  match request with
  | .command code => s.send code answer.exchange
  | .synchronizeCaches => (true, s.synchronizeCaches answer.reconnected)
  | .ensureReadSession => s.ensureReadSession answer
  | .publicDiscoveryAvailable reads => s.publicDiscoveryAvailable reads answer
  | .isUser => (s.cell.isUser, s)
  | .isActive => (decide (s.cell ≠ .loggedOut ∧ s.cell ≠ .invalidatedUser), s)
  | .isLoggedOut => (decide (s.cell = .loggedOut), s)

abbrev HsmScript := Script HsmRequest

def ask (request : HsmRequest) : HsmScript Bool := .request request .done

def command (code : CommandCode) : HsmScript Bool := ask (.command code)

/-- Commands one after the other, until one fails. -/
def commands : List CommandCode → HsmScript Bool
  | [] => pure true
  | code :: codes => do
      if ← command code then commands codes else pure false

/-- The reads of `discover_objects`; a public key that cannot be read is skipped. -/
def discoverReads : List DiscoveryRead → HsmScript Bool
  | [] => pure true
  | read :: reads => do
      let ok ← command read.code
      if ok ∨ read = .publicKey then discoverReads reads else pure false

/-- `discover_objects` over the session of the cell. -/
def discoverObjects (reads : List DiscoveryRead) : HsmScript Bool := do
  if ← command .listObjects then discoverReads reads else pure false

def backendTokenObjects (reads : List DiscoveryRead) : HsmScript Bool := do
  if ← ask .isUser then discoverObjects reads
  else
    let _ ← ask (.publicDiscoveryAvailable reads)
    pure true

/-- What is known of an object whose value is read. -/
structure ObjectRead where
  infoCached : Bool
  valueCached : Bool
  template : Bool
  deriving DecidableEq

/-- `read_object_value_with_session`. -/
def readObjectValue (read : ObjectRead) : HsmScript Bool :=
  if read.valueCached then pure true
  else command (if read.template then .getTemplate else .getOpaque)

/-- `object_info_with_session`. -/
def objectInfo (infoCached : Bool) : HsmScript Bool :=
  if infoCached then pure true else command .getObjectInfo

def readObjectValueById (read : ObjectRead) : HsmScript Bool := do
  if ← objectInfo read.infoCached then readObjectValue read else pure false

/-- One attempt of `read_object_value_with_public_discovery`. -/
def readAttempt (read : ObjectRead) : HsmScript Bool := do
  if ← ask .ensureReadSession then readObjectValueById read else pure false

/-- `read_object_value_with_public_discovery`: a session that is lost is opened once more. -/
def readWithPublicDiscovery (read : ObjectRead) : HsmScript Bool := do
  if ← ask .ensureReadSession then
    if ← readObjectValueById read then pure true
    else if ← ask .isLoggedOut then readAttempt read
    else pure false
  else pure false

def yubihsmReadObject (read : ObjectRead) : HsmScript Bool := do
  if ← ask .isUser then readObjectValueById read else readWithPublicDiscovery read

def storageObjectValue (read : ObjectRead) : HsmScript Bool := do
  if ← ask .isUser then readObjectValue read else readWithPublicDiscovery read

/-- The values of stored objects, until one cannot be read. -/
def storageValues : List ObjectRead → HsmScript Bool
  | [] => pure true
  | read :: reads => do
      if ← storageObjectValue read then storageValues reads else pure false

/-- A pass over the stored objects: `list` or `get`. -/
structure StorageScan where
  reads : List DiscoveryRead
  values : List ObjectRead
  deriving DecidableEq

def refreshStorageObjects (reads : List DiscoveryRead) : HsmScript Bool := do
  if ← ask .isActive then discoverObjects reads else pure true

def storageScan (scan : StorageScan) : HsmScript Bool := do
  if ← refreshStorageObjects scan.reads then storageValues scan.values else pure false

def storageScans : List StorageScan → HsmScript Bool
  | [] => pure true
  | scan :: scans => do
      if ← storageScan scan then storageScans scans else pure false

/-- What a refresh reads: the objects of the device and the stored ones. -/
structure RefreshPlan where
  reads : List DiscoveryRead
  scans : List StorageScan
  /-- The stored objects are decoded. -/
  decoded : Bool
  deriving DecidableEq

def refreshSlotTokenObjects (plan : RefreshPlan) : HsmScript Bool := do
  if ← backendTokenObjects plan.reads then
    if ← storageScans plan.scans then pure plan.decoded else pure false
  else pure false

/-! ### Stored records and companion metadata -/

/-- `StorageProvider::put`. -/
structure StoragePut where
  valid : Bool
  /-- The record is in `metadata_storage_writes`. -/
  written : Bool
  values : List ObjectRead
  /-- One of the stored values is the record. -/
  existing : Bool
  /-- The record is the companion of a key. -/
  backed : Bool
  infoCached : Bool
  deriving DecidableEq

def writeBackedKeyMetadata (infoCached : Bool) : HsmScript Bool := do
  if ← ask .ensureReadSession then
    if ← objectInfo infoCached then command .putOpaque else pure false
  else pure false

def storagePut (put : StoragePut) : HsmScript Bool :=
  if put.valid then
    if put.written then pure true
    else do
      if ← storageValues put.values then
        if put.existing then pure true
        else if put.backed then writeBackedKeyMetadata put.infoCached
        else command .putOpaque
      else pure false
  else pure false

def storagePuts : List StoragePut → HsmScript Bool
  | [] => pure true
  | put :: puts => do
      if ← storagePut put then storagePuts puts else pure false

/-- `delete_metadata_objects`: every deletion is tried. -/
def deleteMetadataObjects : ℕ → HsmScript Bool
  | 0 => pure true
  | count + 1 => do
      let ok ← command .deleteObject
      let rest ← deleteMetadataObjects count
      pure (ok && rest)

/-- `StorageProvider::delete`. -/
structure StorageDeletion where
  values : List ObjectRead
  found : ℕ
  deriving DecidableEq

def storageDelete (deletion : StorageDeletion) : HsmScript Bool := do
  if ← storageValues deletion.values then deleteMetadataObjects deletion.found else pure false

def storageDeletions : List StorageDeletion → HsmScript Bool
  | [] => pure true
  | deletion :: deletions => do
      if ← storageDelete deletion then storageDeletions deletions else pure false

/-- How the companion of a key changes. -/
inductive MetadataChange where
  | unchanged
  | refused
  | erase (deletions : List StorageDeletion)
  /-- `overwrite`: there is a companion to write over; `tooLong`: the device refuses that value. -/
  | replace (overwrite tooLong : Bool) (put : StoragePut) (deletions : List StorageDeletion)
  deriving DecidableEq

/-- `replace_pkcs11_metadata_record` and its callers. -/
structure MetadataPlan where
  /-- `metadata_target_by_unique_id` finds the key. -/
  found : Bool
  oldValues : List ObjectRead
  change : MetadataChange
  deriving DecidableEq

/-- `try_update_storage_object`, and `put` if there is nothing to write over. -/
def writeCompanion (overwrite tooLong : Bool) (put : StoragePut) : HsmScript Bool :=
  if overwrite then do
    if ← command .putOpaque then pure true
    else if tooLong then storagePut put
    else pure false
  else storagePut put

def replacePkcs11Metadata (plan : MetadataPlan) : HsmScript Bool :=
  if plan.found then do
    if ← storageValues plan.oldValues then
      match plan.change with
      | .unchanged => pure true
      | .refused => pure false
      | .erase deletions => storageDeletions deletions
      | .replace overwrite tooLong put deletions => do
          if ← writeCompanion overwrite tooLong put then storageDeletions deletions else pure false
    else pure false
  else pure false

/-- The stored public key that takes the place of a companion when its key is destroyed. -/
structure DetachPlan where
  scan : StorageScan
  linkedValues : List ObjectRead
  /-- The record is stored already. -/
  existed : Bool
  deriving DecidableEq

/-- The companion goes and the public key is stored in its place; after a failure it is written again. -/
def detachPublic (plan : DetachPlan) : HsmScript Bool := do
  if ← storageScan plan.scan then
    if ← storageValues plan.linkedValues then
      if ← deleteMetadataObjects 1 then
        if plan.existed then pure true
        else if ← command .putOpaque then pure true
        else
          let _ ← command .putOpaque
          pure false
      else pure false
    else pure false
  else pure false

/-- The key is not deleted, so the companion is put back. -/
def restoreCompanion : Option DetachPlan → HsmScript Bool
  | none => pure false
  | some plan => do
      if plan.existed then
        let _ ← command .putOpaque
        pure false
      else
        let _ ← command .deleteObject
        let _ ← command .putOpaque
        pure false

/-- What the destruction of a key of the device does. -/
structure DestroyPlan where
  found : Bool
  detach : Option DetachPlan
  obsolete : ℕ
  deriving DecidableEq

/-- The first part of `destroy_native_object`. -/
def detachIfPublic : Option DetachPlan → HsmScript Bool
  | none => pure true
  | some plan => detachPublic plan

def destroyNativeObject (plan : DestroyPlan) : HsmScript Bool :=
  if plan.found then do
    if ← detachIfPublic plan.detach then
      if ← command .deleteObject then deleteMetadataObjects plan.obsolete
      else restoreCompanion plan.detach
    else pure false
  else pure false

end Pkcs11rs.Model
