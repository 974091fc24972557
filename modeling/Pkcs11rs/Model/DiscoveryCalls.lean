import Pkcs11rs.Model.DiscoverySession

/-!
# The calls of a YubiHSM slot and their login checks

Every API call that may send a command over the secure session of the slot.  A call checks the login in its
own way, with what is recorded when it begins: the visibility of an object (`is_visible_to`), the access to
a new one (`validate_new_object_access`), `token_mutations_require_login`, a check of its own, or none
(`api/object.rs:126-213`, `api/object.rs:1806-2061`, `api/object.rs:2405-2574`, `api/key.rs:25-145`,
`api/key.rs:2671-2910`, `api/wrap.rs:715-1060`, `api/kem.rs:32-190`, `api/yubihsm.rs:84-155`,
`api/platform_credential.rs:303-568`, `api/session.rs:304-720`).
-/

set_option autoImplicit false

namespace Pkcs11rs.Model

open Pkcs11rs.Library

/-! ### Calls that create token objects -/

inductive ImportCommand where
  | putOpaque
  | putAsymmetricKey
  | putWrapKey
  | putHmacKey
  | putSymmetricKey
  | putPublicWrapKey
  deriving DecidableEq

def ImportCommand.code : ImportCommand → CommandCode
  | putOpaque => .putOpaque
  | putAsymmetricKey => .putAsymmetricKey
  | putWrapKey => .putWrapKey
  | putHmacKey => .putHmacKey
  | putSymmetricKey => .putSymmetricKey
  | putPublicWrapKey => .putPublicWrapKey

/-- The refreshes, the search for the new object and its metadata. -/
structure PublishPlan where
  refresh : RefreshPlan
  resolved : List DiscoveryRead
  found : Bool
  metadata : MetadataPlan
  refreshed : RefreshPlan
  resolvedAgain : List DiscoveryRead
  foundAgain : Bool
  deriving DecidableEq

/-- The new object of the device gets its metadata; the second refresh is made in any case. -/
def publishTokenObject (plan : PublishPlan) : HsmScript Bool := do
  if ← refreshSlotTokenObjects plan.refresh then
    if ← backendTokenObjects plan.resolved then
      if plan.found then
        let described ← replacePkcs11Metadata plan.metadata
        let refreshed ← refreshSlotTokenObjects plan.refreshed
        pure (described && refreshed)
      else pure false
    else pure false
  else pure false

/-- What an import does. -/
structure ImportPlan where
  code : ImportCommand
  /-- The identifier in the response is well formed. -/
  parsed : Bool
  publish : PublishPlan
  /-- The refresh after a failure. -/
  cleanup : RefreshPlan
  deriving DecidableEq

/-- The imported object is published and found again. -/
def publishImported (plan : PublishPlan) : HsmScript Bool := do
  if ← publishTokenObject plan then
    if ← backendTokenObjects plan.resolvedAgain then pure plan.foundAgain else pure false
  else pure false

/-- `import_yubihsm_token_object_in_slot`. -/
def importTokenObject (plan : ImportPlan) : HsmScript Bool := do
  if ← command plan.code.code then
    if plan.parsed then
      if ← publishImported plan.publish then pure true
      else
        -- an object that is not published is deleted
        let _ ← command .deleteObject
        let _ ← refreshSlotTokenObjects plan.cleanup
        pure false
    else pure false
  else pure false

/-- `generate_yubihsm_token_key_in_slot`: a symmetric key, or one for HMAC. -/
def generateTokenKey (hmac parsed : Bool) (publish : PublishPlan) : HsmScript Bool := do
  if ← command (if hmac then .generateHmacKey else .generateSymmetricKey) then
    if parsed then publishTokenObject publish else pure false
  else pure false

def storeBackedObject (puts : List StoragePut) (refresh : RefreshPlan) : HsmScript Bool := do
  if ← ask .isUser then
    if ← storagePuts puts then refreshSlotTokenObjects refresh else pure false
  else pure false

/-- `yubihsm_persist_public_projection`, and the refresh after it. -/
def persistPublicProjection (metadata : MetadataPlan) (refresh : RefreshPlan)
    (resolved : List DiscoveryRead) : HsmScript Bool := do
  if ← replacePkcs11Metadata metadata then
    if ← refreshSlotTokenObjects refresh then backendTokenObjects resolved else pure false
  else pure false

/-- What becomes of the public key of a pair. -/
inductive ProjectionPlan where
  /-- A wrapping key is imported as an object of its own. -/
  | imported (plan : ImportPlan)
  | companion (metadata : MetadataPlan) (refresh : RefreshPlan) (resolved : List DiscoveryRead)
  /-- The public key is an object of the PKCS #11 session. -/
  | session
  deriving DecidableEq

def projectPublic : ProjectionPlan → HsmScript Bool
  | .imported plan => importTokenObject plan
  | .companion metadata refresh resolved => persistPublicProjection metadata refresh resolved
  | .session => pure true

/-- `generate_yubihsm_token_pair_in_slot`. -/
def generateTokenPair (wrapKey parsed : Bool) (publish : PublishPlan) (projection : ProjectionPlan) :
    HsmScript Bool := do
  if ← command (if wrapKey then .generateWrapKey else .generateAsymmetricKey) then
    if parsed then
      if ← publishTokenObject publish then
        let _ ← ask .synchronizeCaches
        projectPublic projection
      else pure false
    else pure false
  else pure false

/-- The commands of `C_UnwrapKey` with a key of the device. -/
inductive UnwrapCommand where
  | importWrapped
  | importRsaWrapped
  | putRsaWrappedKey
  deriving DecidableEq

def UnwrapCommand.code : UnwrapCommand → CommandCode
  | importWrapped => .importWrapped
  | importRsaWrapped => .importRsaWrapped
  | putRsaWrappedKey => .putRsaWrappedKey

/-- What `C_UnwrapKey` does. -/
structure UnwrapPlan where
  code : UnwrapCommand
  parsed : Bool
  /-- The new object has the type that was asked for. -/
  expected : Bool
  refresh : RefreshPlan
  publish : PublishPlan
  /-- The template gives attributes. -/
  described : Bool
  deriving DecidableEq

/-- `unwrap_key` after its checks. -/
def unwrapKey (plan : UnwrapPlan) : HsmScript Bool := do
  if ← command plan.code.code then
    if plan.parsed then
      if plan.expected then
        if plan.described then publishTokenObject plan.publish
        else if ← refreshSlotTokenObjects plan.refresh then backendTokenObjects plan.publish.resolved
        else pure false
      else
        let _ ← command .deleteObject
        let _ ← refreshSlotTokenObjects plan.refresh
        pure false
    else pure false
  else pure false

/-- A script, and the refresh that follows it. -/
def thenRefresh (script : HsmScript Bool) (refresh : RefreshPlan) : HsmScript Bool := do
  if ← script then refreshSlotTokenObjects refresh else pure false

/-- What `provision_platform_credential` does after its checks. -/
structure ProvisionPlan where
  refresh : RefreshPlan
  resolved : List DiscoveryRead
  /-- The objects that are there allow the credential. -/
  consistent : Bool
  /-- The stored public key is written first. -/
  projection : Option (List StoragePut × RefreshPlan)
  /-- The record that is deleted after a failure. -/
  rollback : StorageDeletion
  rollbackRefresh : RefreshPlan
  installed : Bool
  finish : RefreshPlan
  deriving DecidableEq

def rollbackProjection (plan : ProvisionPlan) : HsmScript Bool :=
  if plan.projection.isSome then thenRefresh (storageDelete plan.rollback) plan.rollbackRefresh
  else pure true

def provisionProjection : Option (List StoragePut × RefreshPlan) → HsmScript Bool
  | none => pure true
  | some (puts, refresh) => storeBackedObject puts refresh

def provisionPlatformCredential (plan : ProvisionPlan) : HsmScript Bool := do
  if ← refreshSlotTokenObjects plan.refresh then
    if ← backendTokenObjects plan.resolved then
      if plan.consistent then
        if ← provisionProjection plan.projection then
          let created ← command .putAuthenticationKey
          if created ∧ plan.installed then refreshSlotTokenObjects plan.finish
          else
            let _ ← rollbackProjection plan
            pure false
        else pure false
      else pure false
    else pure false
  else pure false

/-- What `unprovision_platform_credential` does after its checks. -/
structure UnprovisionPlan where
  refresh : RefreshPlan
  resolved : List DiscoveryRead
  consistent : Bool
  /-- The authentication key is destroyed, if it is there. -/
  key : Option (DestroyPlan × RefreshPlan)
  resolvedAgain : List DiscoveryRead
  /-- And its stored public key. -/
  projection : Option (StorageDeletion × RefreshPlan)
  deriving DecidableEq

def unprovisionKey : Option (DestroyPlan × RefreshPlan) → HsmScript Bool
  | none => pure true
  | some (plan, refresh) => thenRefresh (destroyNativeObject plan) refresh

def unprovisionProjection : Option (StorageDeletion × RefreshPlan) → HsmScript Bool
  | none => pure true
  | some (deletion, refresh) => thenRefresh (storageDelete deletion) refresh

def unprovisionPlatformCredential (plan : UnprovisionPlan) : HsmScript Bool := do
  if ← refreshSlotTokenObjects plan.refresh then
    if ← backendTokenObjects plan.resolved then
      if plan.consistent then
        if ← unprovisionKey plan.key then
          if ← backendTokenObjects plan.resolvedAgain then unprovisionProjection plan.projection
          else pure false
        else pure false
      else pure false
    else pure false
  else pure false

/-! ### Calls on keys -/

/-- The commands of the operations with keys of the device. -/
inductive CryptCommand where
  | signHmac
  | signMlDsa
  | signPkcs1
  | signPss
  | signEcdsa
  | signEddsa
  | verifyHmac
  | decryptPkcs1
  | decryptOaep
  | encryptEcb
  | decryptEcb
  | encryptCbc
  | decryptCbc
  | wrapData
  | unwrapData
  deriving DecidableEq

def CryptCommand.code : CryptCommand → CommandCode
  | signHmac => .signHmac
  | signMlDsa => .signMlDsa
  | signPkcs1 => .signPkcs1
  | signPss => .signPss
  | signEcdsa => .signEcdsa
  | signEddsa => .signEddsa
  | verifyHmac => .verifyHmac
  | decryptPkcs1 => .decryptPkcs1
  | decryptOaep => .decryptOaep
  | encryptEcb => .encryptEcb
  | decryptEcb => .decryptEcb
  | encryptCbc => .encryptCbc
  | decryptCbc => .decryptCbc
  | wrapData => .wrapData
  | unwrapData => .unwrapData

/-- The commands of calls that use a private or secret key of the device at once. -/
inductive KeyUse where
  | decapsulateMlKem
  | decapsulateHybridKem
  | deriveEcdh
  | deriveEcdhKdf
  /-- The CMACs of the counter KDF. -/
  | counterKdf (blocks : List CryptCommand)
  deriving DecidableEq

def KeyUse.codes : KeyUse → List CommandCode
  | decapsulateMlKem => [.decapsulateMlKem]
  | decapsulateHybridKem => [.decapsulateHybridKem]
  | deriveEcdh => [.deriveEcdh]
  | deriveEcdhKdf => [.deriveEcdhKdf]
  | counterKdf blocks => blocks.map CryptCommand.code

/-- The commands of `C_WrapKey` with a key of the device. -/
inductive WrapCommand where
  | exportWrapped
  | exportRsaWrapped
  | getRsaWrappedKey
  deriving DecidableEq

def WrapCommand.code : WrapCommand → CommandCode
  | exportWrapped => .exportWrapped
  | exportRsaWrapped => .exportRsaWrapped
  | getRsaWrappedKey => .getRsaWrappedKey

/-- A key that a call names. -/
inductive HsmKey where
  /-- A private or secret key of the device; `CKA_PRIVATE` is true. -/
  | device
  /-- A native session object. -/
  | native (object : ℕ)
  deriving DecidableEq

/-- The attributes of a new object that `validate_new_object_access` looks at. -/
structure NewObject where
  token : Bool
  private_ : Bool
  deriving DecidableEq

/-- `validate_new_object_access`. -/
def NewObject.allowed (object : NewObject) (readWrite loggedIn : Bool) : Bool :=
  (!object.private_ || loggedIn) && (!object.token || readWrite)

/-- A value that `object_attribute_value` reads. -/
inductive ValueRead where
  /-- An opaque object, a certificate or a template of the device; they are not private. -/
  | stored (read : ObjectRead)
  | native (object : ℕ)
  /-- The certificate of `lazy_yubihsm_attestation_certificate`, which is not private. -/
  | attestation
  deriving DecidableEq

variable (s : SecureSlot)

namespace SecureSlot

/-- `resolve_object(..).filter(is_visible_to)` of a native session object. -/
def resolveNative (object : ℕ) : Option NativeSecret :=
  (mapGet s.objects object).filter fun secret => !secret.private_ || s.loggedIn

/-- `CKA_PRIVATE` of a key, if the call sees it. -/
def visibleKey : HsmKey → Option Bool
  | .device => if s.loggedIn then some true else none
  | .native object => (s.resolveNative object).map NativeSecret.private_

def supportsNativeSessionObjects : Bool :=
  match s.cell with
  | .active .user native _ => native
  | _ => false

/-- The value of one object; that of an attestation is missing when it cannot be read. -/
def valueScript : ValueRead → HsmScript Bool
  | .stored read => yubihsmReadObject read
  | .native object =>
    if (s.resolveNative object).isSome then command .sessionObject else pure true
  | .attestation => do
      let _ ← command .signAttestationCertificate
      pure true

def valueScripts (s : SecureSlot) : List ValueRead → HsmScript Bool
  | [] => pure true
  | read :: reads => do
      if ← s.valueScript read then s.valueScripts reads else pure false

end SecureSlot

/-- How a new token object is stored. -/
inductive StorePlan where
  /-- As a record, with those it depends on. -/
  | record (puts : List StoragePut) (refresh : RefreshPlan)
  /-- As an object of the device. -/
  | imported (plan : ImportPlan)
  deriving DecidableEq

def storeObject : StorePlan → HsmScript Bool
  | .record puts refresh => storeBackedObject puts refresh
  | .imported plan => importTokenObject plan

/-- What becomes of a handle that the device has returned (`publish_native_session_secret`). -/
inductive NativePublication where
  | discard
  | software
  | native
  deriving DecidableEq

def publishNative : NativePublication → HsmScript Bool
  | .discard => do
      let _ ← command .sessionObject
      pure false
  | .software => do
      let _ ← command .sessionObject
      let _ ← command .sessionObject
      pure false
  | .native => pure true

/-- The calls that do nothing with the login, but what they check. -/
inductive HsmCall where
  /-- `PKCS11RS_RefreshTokenObjects`, and the refresh after a discovery of slots. -/
  | refreshTokenObjects (plan : RefreshPlan)
  | findObjectsInit (resolved : List DiscoveryRead) (values : List ValueRead)
  | getAttributeValue (value : ValueRead) (count : ℕ)
  /-- `C_CreateObject`, and `C_CopyObject` of data or a certificate. -/
  | createObject (object : NewObject) (readWrite : Bool) (plan : StorePlan)
  /-- `C_SetAttributeValue` of a key of the device. -/
  | setKeyAttributes (metadata : MetadataPlan) (refresh : RefreshPlan)
  /-- `C_SetAttributeValue` of a stored object. -/
  | setRecordAttributes (puts : List StoragePut) (deletion : Option StorageDeletion)
      (refresh : RefreshPlan)
  /-- `C_DestroyObject` of a key of the device. -/
  | destroyKey (resolved : List DiscoveryRead) (plan : DestroyPlan) (refresh : RefreshPlan)
  /-- `C_DestroyObject` of a public projection. -/
  | destroyProjection (metadata : MetadataPlan) (refresh : RefreshPlan)
  /-- `C_DestroyObject` of a stored object. -/
  | destroyRecord (deletion : StorageDeletion) (refresh : RefreshPlan)
  | generateKey (object : NewObject) (readWrite hmac parsed : Bool) (publish : PublishPlan)
  | generateKeyPair (privateObject publicObject : NewObject) (readWrite wrapKey parsed : Bool)
      (publish : PublishPlan) (projection : ProjectionPlan)
  /-- `C_DeriveKey` of the public key of a private one. -/
  | derivePublicKey (object : NewObject) (readWrite : Bool) (projection : ProjectionPlan)
  /-- `C_EncapsulateKey` with a public projection, which is not private. -/
  | encapsulateKey (hybrid : Bool)
  /-- `C_DecapsulateKey` and `C_DeriveKey`. -/
  | useKey (object : NewObject) (readWrite : Bool) (use : KeyUse)
  | wrapKey (code : WrapCommand)
  | unwrapKey (readWrite : Bool) (plan : UnwrapPlan)
  /-- `PKCS11RS_YubiHsmEnrollDevice…`. -/
  | enrollDevice (readWrite : Bool)
  | provisionPlatformCredential (readWrite : Bool) (plan : ProvisionPlan)
  | unprovisionPlatformCredential (readWrite : Bool) (plan : UnprovisionPlan)
  deriving DecidableEq

/-- The stored object is written, the one before it deleted and the objects listed. -/
def replaceBackedObject (puts : List StoragePut) (deletion : Option StorageDeletion)
    (refresh : RefreshPlan) : HsmScript Bool := do
  if ← ask .isUser then
    if ← storagePuts puts then
      match deletion with
      | none => refreshSlotTokenObjects refresh
      | some deletion => thenRefresh (storageDelete deletion) refresh
    else pure false
  else pure false

namespace HsmCall

/-- What a call does after its checks, which it makes first. -/
def script : HsmCall → HsmScript Bool
  | refreshTokenObjects plan => refreshSlotTokenObjects plan
  | findObjectsInit resolved values => do
      if ← backendTokenObjects resolved then s.valueScripts values else pure false
  | getAttributeValue value count => do
      -- a native session object and an attestation certificate are in the memory of the module
      match value with
      | .stored _ =>
        let _ ← ask .synchronizeCaches
        s.valueScripts (List.replicate count value)
      | _ => s.valueScripts (List.replicate count value)
  | createObject object readWrite plan =>
    if object.allowed readWrite s.loggedIn then
      if object.token then storeObject plan else pure true
    else pure false
  | setKeyAttributes metadata refresh => do
      let _ ← ask .synchronizeCaches
      if s.loggedIn then
        let described ← replacePkcs11Metadata metadata
        let refreshed ← refreshSlotTokenObjects refresh
        pure (described && refreshed)
      else pure false
  | setRecordAttributes puts deletion refresh => replaceBackedObject puts deletion refresh
  | destroyKey resolved plan refresh => do
      let _ ← ask .synchronizeCaches
      if s.loggedIn then
        if ← backendTokenObjects resolved then thenRefresh (destroyNativeObject plan) refresh
        else pure false
      else pure false
  | destroyProjection metadata refresh => do
      let _ ← ask .synchronizeCaches
      if s.loggedIn then thenRefresh (replacePkcs11Metadata metadata) refresh else pure false
  | destroyRecord deletion refresh =>
    if s.loggedIn then thenRefresh (storageDelete deletion) refresh else pure false
  | generateKey object readWrite hmac parsed publish =>
    if object.allowed readWrite s.loggedIn then generateTokenKey hmac parsed publish else pure false
  | generateKeyPair privateObject publicObject readWrite wrapping parsed publish projection =>
    if privateObject.allowed readWrite s.loggedIn ∧ publicObject.allowed readWrite s.loggedIn then
      generateTokenPair wrapping parsed publish projection
    else pure false
  | derivePublicKey object readWrite projection => do
      let _ ← ask .synchronizeCaches
      if s.loggedIn ∧ object.allowed readWrite s.loggedIn then projectPublic projection
      else pure false
  | encapsulateKey hybrid => do
      let _ ← ask .synchronizeCaches
      command (if hybrid then .encapsulateHybridKem else .encapsulateMlKem)
  | useKey object readWrite use => do
      let _ ← ask .synchronizeCaches
      if s.loggedIn ∧ object.allowed readWrite s.loggedIn then commands use.codes else pure false
  | wrapKey code => do
      let _ ← ask .synchronizeCaches
      if s.loggedIn then command code.code else pure false
  | unwrapKey readWrite plan => do
      let _ ← ask .synchronizeCaches
      if s.loggedIn ∧ readWrite then Model.unwrapKey plan else pure false
  | enrollDevice readWrite =>
    if s.loggedIn ∧ readWrite then commands [.signAttestationCertificate, .getOpaque]
    else pure false
  | provisionPlatformCredential readWrite plan =>
    if s.loggedIn ∧ readWrite then Model.provisionPlatformCredential plan else pure false
  | unprovisionPlatformCredential readWrite plan =>
    if s.loggedIn ∧ readWrite then Model.unprovisionPlatformCredential plan else pure false

end HsmCall

/-! ### The calls of the slot -/

namespace SecureSlot

/-- Make a script. -/
def perform {α : Type} (s : SecureSlot) (script : HsmScript α) (answers : List HsmAnswer) :
    α × List HsmAnswer × SecureSlot :=
  script.run SecureSlot.handle .quiet answers s

/-- `C_OpenSession`. -/
def openSession (session : ℕ) : SecureSlot :=
  if session ∈ s.sessions then s
  else
    let s := s.reconcile
    { s with sessions := session :: s.sessions }

/-- `logout_slot`; a close that fails leaves the login recorded. -/
def logoutSlot (closed : Bool) : SecureSlot :=
  if closed then s.closeActiveSession.clearLoginState else s.closeActiveSession

/-- `C_Logout`. -/
def logout (closed : Bool) : SecureSlot :=
  let s := s.reconcile
  if s.loggedIn then s.logoutSlot closed else s

/-- The logout that goes with the last session. -/
def logoutLast : SecureSlot :=
  if s.loggedIn then s.closeActiveSession.clearLoginState else s

/-- The commands of `C_CloseSession` for the native objects that it created; no reply is looked at. -/
def deleteNatives : List (ℕ × NativeSecret) → HsmScript Bool
  | [] => pure true
  | _ :: rest => do
      let _ ← command .sessionObject
      deleteNatives rest

/-- `C_CloseSession`. -/
def closeSession (session : ℕ) (answers : List HsmAnswer) : SecureSlot :=
  if session ∈ s.sessions then
    let s := s.reconcile
    let s := if s.sessions.all fun other => other = session then s.logoutLast else s
    let s :=
      { s with
        sessions := s.sessions.filter fun other => other ≠ session
        operations := s.operations.filter fun entry => entry.1.1 ≠ session }
    let created := s.objects.filter fun entry => entry.2.creator = some session
    let s := (s.perform (deleteNatives created) answers).2.2
    { s with objects := s.objects.filter fun entry => entry.2.creator ≠ some session }
  else s

/-- `C_CloseAllSessions`. -/
def closeAllSessions : SecureSlot :=
  let s := s.reconcile.logoutLast
  { s with
    objects := s.objects.filter fun entry => entry.2.creator.all fun c => decide (c ∉ s.sessions)
    sessions := []
    operations := [] }

/-- `install_authenticated_login` of a session that is authenticated. -/
def installLogin (accepted native : Bool) : SecureSlot :=
  let s := s.log [.sent .user .getObjectInfo]
  if accepted then
    { s.log [.userStarted] with
      cell := .active .user native s.recreateSessions
      loginRole := true }
  else s.log [.sent .user .closeSession]

/-- `login_role` of a user, after the search of `C_LoginUser`. -/
def loginRoleUser (authenticated accepted native : Bool) (refresh : RefreshPlan)
    (answers : List HsmAnswer) : SecureSlot :=
  let s := s.closeActiveSession
  if authenticated then
    let s := s.installLogin accepted native
    if accepted then
      let (refreshed, _, s) := s.perform (refreshSlotTokenObjects refresh) answers
      if refreshed then s
      else (if s.cell.isUser then s.closeActiveSession else s).clearLoginState
    else s
  else s

/-- `C_Login`. -/
def login (authenticated accepted native : Bool) (refresh : RefreshPlan) (answers : List HsmAnswer) :
    SecureSlot :=
  let s := s.reconcile
  if s.loggedIn then s else s.loginRoleUser authenticated accepted native refresh answers

/-- `C_LoginUser` with a wildcard, which lists the objects first and needs public discovery. -/
def loginUser (resolved reads : List DiscoveryRead) (authenticated accepted native : Bool)
    (refresh : RefreshPlan) (answers : List HsmAnswer) : SecureSlot :=
  match s.perform (backendTokenObjects resolved) answers with
  | (false, _, s) => s
  | (true, answers, s) =>
    let s := s.reconcile
    if s.loggedIn then s
    else
      match s.perform (ask (.publicDiscoveryAvailable reads)) answers with
      | (false, _, s) => s
      | (true, answers, s) => s.loginRoleUser authenticated accepted native refresh answers

/-- `C_GetSessionInfo`. -/
def getSessionInfo (answers : List HsmAnswer) : SecureSlot :=
  let s := s.reconcile
  let (_, _, s) := s.perform (command .getStorageInfo) answers
  s.reconcile

/-- `C_GenerateRandom`, 1024 bytes a command. -/
def generateRandom (chunks : ℕ) (answers : List HsmAnswer) : SecureSlot :=
  let s := s.reconcile
  match s.perform (ask .ensureReadSession) answers with
  | (false, _, s) => s
  | (true, answers, s) =>
    (s.perform (commands (List.replicate chunks .getPseudoRandom)) answers).2.2

/-- `C_SignInit`, `C_VerifyInit`, `C_EncryptInit` and `C_DecryptInit`. -/
def operationInit (session : ℕ) (kind : DeviceOperation) (key : HsmKey) : SecureSlot :=
  match s.visibleKey key with
  | some private_ =>
    if session ∈ s.sessions ∧ ¬ mapHas s.operations (session, kind) then
      { s with
        operations := mapInsert s.operations (session, kind) ⟨private_, key ≠ .device⟩ }
    else s
  | none => s

/-- The commands of a part of an operation; a native session object can only verify. -/
def operationCodes (operation : HsmOperation) (parts : List CryptCommand) : List CommandCode :=
  if operation.native then [.sessionObject] else parts.map CryptCommand.code

/-- One part of an operation, or its end; it goes on if the part has succeeded. -/
def operationStep (session : ℕ) (kind : DeviceOperation) (parts : List CryptCommand)
    (finalizing : Bool) (answers : List HsmAnswer) : SecureSlot :=
  match mapGet s.operations (session, kind) with
  | some operation =>
    let s := { s with operations := mapRemove s.operations (session, kind) }
    if operation.requiresLogin ∧ ¬ s.loggedIn then s.reconcile
    else
      let (ok, _, s) := s.perform (commands (operationCodes operation parts)) answers
      if ok ∧ ¬ finalizing then
        { s with operations := mapInsert s.operations (session, kind) operation }
      else s
  | none => s

/-- `insert_object`. -/
def insertNative (secret : NativeSecret) : SecureSlot :=
  { s with
    objects := mapInsert s.objects s.nextObject secret
    nextObject := s.nextObject + 1 }

/-- `C_GenerateKeyPair` and `C_DeriveKey` of a native session object. -/
def createNative (session : ℕ) (sources : List HsmKey) (private_ : Bool)
    (publication : NativePublication) (answers : List HsmAnswer) : SecureSlot :=
  if session ∈ s.sessions ∧ (private_ → s.loggedIn) ∧ s.supportsNativeSessionObjects ∧
      ∀ source ∈ sources, (s.visibleKey source).isSome then
    match s.perform (command .sessionObject) answers with
    | (false, _, s) => s
    | (true, answers, s) =>
      match s.perform (publishNative publication) answers with
      | (false, _, s) => s
      | (true, _, s) => s.insertNative ⟨false, private_, some session⟩
  else s

/-- `C_CopyObject` of a native session object; the template may change `CKA_TOKEN` and `CKA_PRIVATE`. -/
def copyNative (session object : ℕ) (readWrite : Bool) (token private_ : Option Bool) : SecureSlot :=
  match s.resolveNative object with
  | some secret =>
    let copied : NewObject := ⟨token.getD secret.token, private_.getD secret.private_⟩
    if session ∈ s.sessions ∧ secret.copyable ∧ copied.allowed readWrite s.loggedIn then
      s.insertNative ⟨copied.token, copied.private_, if copied.token then none else some session⟩
    else s
  | none => s

/-- `C_DestroyObject` of a native session object. -/
def destroyNative (object : ℕ) (answers : List HsmAnswer) : SecureSlot :=
  if (s.resolveNative object).isSome then
    match s.perform (command .sessionObject) answers with
    | (false, _, s) => s
    | (true, _, s) => { s with objects := mapRemove s.objects object }
  else s

end SecureSlot

/-- An API call on the slot. -/
inductive SecureCall where
  | openSession (session : ℕ)
  | closeSession (session : ℕ)
  | closeAllSessions
  | login (authenticated accepted native : Bool) (refresh : RefreshPlan)
  | loginUser (resolved reads : List DiscoveryRead) (authenticated accepted native : Bool)
      (refresh : RefreshPlan)
  | logout (closed : Bool)
  | getSessionInfo
  | generateRandom (chunks : ℕ)
  | operationInit (session : ℕ) (kind : DeviceOperation) (key : HsmKey)
  | operationStep (session : ℕ) (kind : DeviceOperation) (parts : List CryptCommand)
      (finalizing : Bool)
  | createNative (session : ℕ) (sources : List HsmKey) (private_ : Bool)
      (publication : NativePublication)
  | copyNative (session object : ℕ) (readWrite : Bool) (token private_ : Option Bool)
  | destroyNative (object : ℕ)
  | other (call : HsmCall)
  deriving DecidableEq

/-- One call, with what the device and the transport answer meanwhile. -/
def SecureSlot.step (call : SecureCall) (answers : List HsmAnswer) : SecureSlot :=
  match call with
  | .openSession session => s.openSession session
  | .closeSession session => s.closeSession session answers
  | .closeAllSessions => s.closeAllSessions
  | .login authenticated accepted native refresh =>
    s.login authenticated accepted native refresh answers
  | .loginUser resolved reads authenticated accepted native refresh =>
    s.loginUser resolved reads authenticated accepted native refresh answers
  | .logout closed => s.logout closed
  | .getSessionInfo => s.getSessionInfo answers
  | .generateRandom chunks => s.generateRandom chunks answers
  | .operationInit session kind key => s.operationInit session kind key
  | .operationStep session kind parts finalizing =>
    s.operationStep session kind parts finalizing answers
  | .createNative session sources private_ publication =>
    s.createNative session sources private_ publication answers
  | .copyNative session object readWrite token private_ =>
    s.copyNative session object readWrite token private_
  | .destroyNative object => s.destroyNative object answers
  | .other call => (s.perform (call.script s) answers).2.2

end Pkcs11rs.Model
