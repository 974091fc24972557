import Pkcs11rs.Model.ObjectHandles

/-!
# Keys in the volatile memory of a YubiHSM

A derivation or the generation of a P-256 key pair leaves the key in a session object of the device and
publishes a PKCS #11 session object that has its handle (`api/key.rs:67-145`, `api/key.rs:513-590`,
`api/key.rs:2258-2297`, `api/key/counter_kdf.rs:150-173`, `api/key/secret_derive.rs:151-199`).
-/

set_option autoImplicit false

namespace Pkcs11rs.Model

open Pkcs11rs.Library

/-- The commands for session objects; the derivations and the generation are `create`. -/
inductive SessionObjectCommand where
  | create
  | read (native : UInt64)
  | delete (native : UInt64)
  deriving DecidableEq

/-- The secure session of the slot, and the commands that the call has sent over it. -/
structure SecureLink where
  active : Bool
  sent : List SessionObjectCommand
  deriving DecidableEq

/-- `yubihsm_command`; the answer is `none` when the secure session ends. -/
def SecureLink.command (link : SecureLink) (command : SessionObjectCommand)
    (answer : Option (Except Rv Bytes)) : Except Rv Bytes × SecureLink :=
  if link.active then
    (answer.getD (.error .deviceError), ⟨answer.isSome, link.sent ++ [command]⟩)
  else (.error .userNotLoggedIn, link)

/-- What the device answers to the commands of one call. -/
structure SessionObjectAnswers where
  created : Option (Except Rv Bytes)
  read : Option (Except Rv Bytes)
  deleted : Option (Except Rv Bytes)
  deletedAgain : Option (Except Rv Bytes)

namespace TokenObject

variable (object : TokenObject)

/-- `native_session_object_handle`. -/
def nativeSessionObjectHandle : Option UInt64 :=
  match object.material with
  | .external (.yubiHsmSessionObject native _) => some native
  | _ => none

/-- `native_session_object_supports_requested_operations`. -/
def supportsRequestedOperations : Bool :=
  !object.encrypt && !object.decrypt && !object.sign && !object.wrap && !object.unwrap &&
    !object.encapsulate && !object.decapsulate && (!object.verify || object.keyType = Ckk.aes)

def validateNewObjectAccess (readWrite loggedIn : Bool) : Except Rv Unit :=
  if object.isPrivate ∧ ¬ loggedIn then .error .userNotLoggedIn
  else if object.token ∧ ¬ readWrite then .error .sessionReadOnly
  else .ok ()

end TokenObject

def parseNativeSessionHandle (response : Bytes) : Except Rv UInt64 :=
  if response.length = 8 then .ok (.ofNat (beValue response)) else .error .deviceError

variable (s : SlotState) (session : Ulong) (answers : SessionObjectAnswers)

namespace SlotState

variable (link : SecureLink)

/-- The end of a publication: without a handle for the object the device object is deleted. -/
def insertOrDelete (object : TokenObject) (native : UInt64) (answer : Option (Except Rv Bytes)) :
    Except Rv ObjectHandle × SlotState × SecureLink :=
  match s.insertObject (object.setCreator session s.slotId) with
  | (.ok handle, s) => (.ok handle, s, link)
  | (.error error, s) => (.error error, s, (link.command (.delete native) answer).2)

def publishNativeSessionSecret (object : TokenObject) (native : UInt64) (length : ℕ) :
    Except Rv ObjectHandle × SlotState × SecureLink :=
  if object.token then
    (.error .templateInconsistent, s, (link.command (.delete native) answers.deleted).2)
  else if object.supportsRequestedOperations then
    s.insertOrDelete session link
      { object with material := .external (.yubiHsmSessionObject native length) } native answers.deleted
  else if object.sensitive ∨ ¬ object.extractable then
    (.error .keyFunctionNotPermitted, s, (link.command (.delete native) answers.deleted).2)
  else
    let (value, link) := link.command (.read native) answers.read
    let link := (link.command (.delete native) answers.deleted).2
    match value with
    | .error error => (.error error, s, link)
    | .ok value =>
      if value.length ≠ length then (.error .deviceError, s, link)
      else
        s.insertOrDelete session link { object with material := .softwareSecret value } native
          answers.deletedAgain

/-- A call from the check of the access on: a device object is created, its reply is read and the object
is published. -/
def createSessionObject {α β : Type} (access : Except Rv Unit) (parse : Bytes → Except Rv α)
    (publish : SecureLink → α → Except Rv β × SlotState × SecureLink) :
    Except Rv β × SlotState × SecureLink :=
  match access with
  | .error error => (.error error, s, link)
  | .ok () =>
    match link.command .create answers.created with
    | (.error error, link) => (.error error, s, link)
    | (.ok response, link) =>
      match parse response with
      | .error error => (.error error, s, link)
      | .ok created => publish link created

/-- The derivations; the functions of the source differ in the command and in the object. -/
def deriveSessionSecret (readWrite loggedIn : Bool) (object : TokenObject) (length : ℕ) :
    Except Rv ObjectHandle × SlotState × SecureLink :=
  s.createSessionObject answers link (object.validateNewObjectAccess readWrite loggedIn)
    parseNativeSessionHandle fun link native =>
      s.publishNativeSessionSecret session answers link object native length

end SlotState

/-- The objects of a key pair that the device generates for a session, with `local` and
`key_gen_mechanism` as they are published. -/
structure SessionPair where
  publicObject : TokenObject
  privateObject : TokenObject
  publicSession : publicObject.token = false
  privateSession : privateObject.token = false

/-- The handle and the point of a generated key. -/
def parseSessionPair (response : Bytes) : Except Rv (UInt64 × Bytes) :=
  if response.length ≠ 73 ∨ response[8]? ≠ some 4 then .error .deviceError
  else .ok (.ofNat (beValue (response.take 8)), response.drop 9)

namespace SlotState

variable (link : SecureLink) (storage : Answers) (parameters : Bytes) (pair : SessionPair)

/-- The private object first, then the public one. -/
def publishSessionPair (native : UInt64) (point : Bytes) :
    Except Rv (ObjectHandle × ObjectHandle) × SlotState × SecureLink :=
  let key : PublicKeyMaterial := .ec parameters point
  match s.insertOrDelete session link
      { pair.privateObject with
        publicKey := some key
        material := .external (.yubiHsmSessionObject native 32) } native answers.deleted with
  | (.error error, s, link) => (.error error, s, link)
  | (.ok handle, s, link) =>
    match s.storeBackedObject storage session { pair.publicObject with material := .pub key } with
    | (.ok publicHandle, s) => (.ok (publicHandle, handle), s, link)
    | (.error error, s) =>
      (.error error, s.removeObjectHandle handle, (link.command (.delete native) answers.deleted).2)

/-- `C_GenerateKeyPair`; `parameters` are those of P-256. -/
def generateSessionPair (readWrite loggedIn : Bool) :
    Except Rv (ObjectHandle × ObjectHandle) × SlotState × SecureLink :=
  s.createSessionObject answers link
    (pair.publicObject.validateNewObjectAccess readWrite loggedIn >>= fun _ =>
      pair.privateObject.validateNewObjectAccess readWrite loggedIn)
    parseSessionPair fun link created =>
      s.publishSessionPair session answers link storage parameters pair created.1 created.2

end SlotState

end Pkcs11rs.Model
