import Pkcs11rs.Library.AssocMap
import Pkcs11rs.Library.Calls
import Pkcs11rs.Model.TokenObject

/-!
# The storage provider of a YubiHSM

`YubiHsmSlot` keeps records as opaque objects of the device (`backend/yubihsm.rs:2894-3206`).  It remembers
the ids of the records that it has written (`metadata_storage_writes`) and, for every opaque object that it
has seen, the sequence number, the info and the value (`native_objects`).  Other clients of the device create,
replace and delete opaque objects between the calls.

What the session and the device answer to a call is a list of replies: every command, every look at the role
of the session and every `ensure_read_session` takes one.  A command that changes the device may fail after
the device has executed it, when the answer is lost or cannot be verified (`execute`).  The reference of a
record and the checks that `put` makes of its contents are those of the environment.
-/

set_option autoImplicit false

namespace Pkcs11rs.Model

open Pkcs11rs.Library

/-- `YUBIHSM_ALGO_OPAQUE_DATA`. -/
def opaqueData : ℕ := 30

/-- The info of an opaque object. -/
structure OpaqueInfo where
  sequence : ℕ
  algorithm : ℕ
  label : String
  deriving DecidableEq

/-- An opaque object of the device. -/
structure DeviceOpaque where
  info : OpaqueInfo
  value : Bytes
  deriving DecidableEq

/-- `YubiHsmCachedObjectProperties` of an opaque object. -/
structure CachedOpaque where
  sequence : Option ℕ
  info : Option OpaqueInfo
  value : Option Bytes
  deriving DecidableEq

/-- `YubiHsmMetadataPhysicalFormat`. -/
inductive MetadataFormat where
  | legacyMdb1
  | canonicalCbor
  deriving DecidableEq

/-- What follows the beginning of a label. -/
def labelRest (start label : String) : Option (List Char) :=
  if start.toList.isPrefixOf label.toList then some (label.toList.drop start.length) else none

def yubihsmMetadataLabel (label : String) : Option MetadataFormat :=
  let found := match labelRest "Meta object for 0x" label with
    | some encoded => some (MetadataFormat.legacyMdb1, encoded)
    | none => (labelRest "pkcs11rs metadata 0x" label).map fun encoded => (.canonicalCbor, encoded)
  (found.filter fun entry => entry.2.length = 8 ∧
    entry.2.all fun c => c.isDigit || ('a' ≤ c ∧ c ≤ 'f') || ('A' ≤ c ∧ c ≤ 'F')).map (·.1)

/-- An object that `cached_storage_objects` returns. -/
def OpaqueInfo.isStorage (info : OpaqueInfo) : Bool :=
  info.algorithm = opaqueData ∧ ((labelRest "pkcs11rs stored " info.label).isSome ∨
    yubihsmMetadataLabel info.label = some .canonicalCbor)

/-- Whose record `put` stores. -/
inductive RecordKind where
  | companion
  | publicKey
  deriving DecidableEq

/-- References and the contents of records. -/
structure StorageEnv where
  forObject : Bytes → ContentReference
  /-- `BackedKeyMetadata::from_cbor` returns a record. -/
  isRecord : Bytes → Bool
  /-- The provider of a record that passes the checks of `put`. -/
  recordKind : Bytes → Option RecordKind

/-- What the session or the device answers. -/
structure StorageReply where
  ok : Bool := true
  /-- A command that fails has been executed all the same. -/
  executed : Bool := false
  /-- The session is that of the user. -/
  user : Bool := true
  /-- The connector has reconnected. -/
  reconnected : Bool := false
  /-- The id and the sequence number of a new object. -/
  id : ℕ := 0
  sequence : ℕ := 0
  /-- The target in the label of a companion. -/
  target : String := ""
  deriving DecidableEq

/-- `StorageError`. -/
inductive StorageFault where
  | rejected
  | device
  deriving DecidableEq

/-- The slot and the opaque objects of its device. -/
structure StorageSlot where
  writes : List (ContentReference × ℕ)
  cache : List (ℕ × CachedOpaque)
  device : List (ℕ × DeviceOpaque)
  replies : List StorageReply
  deriving DecidableEq

variable (s : StorageSlot)

namespace StorageSlot

def reply : Outcome StorageFault StorageSlot StorageReply :=
  match s.replies with
  | [] => (.error .device, s)
  | answer :: replies => (.ok answer, { s with replies := replies })

/-- A command of the session that reads. -/
def command : Outcome StorageFault StorageSlot StorageReply :=
  s.reply.andThen fun answer s => if answer.ok then (.ok answer, s) else (.error .device, s)

/-- A command that changes the device, unless the device refuses it. -/
def execute (effect : StorageReply → List (ℕ × DeviceOpaque) → Option (List (ℕ × DeviceOpaque))) :
    Outcome StorageFault StorageSlot StorageReply :=
  s.reply.andThen fun answer s =>
    match effect answer s.device with
    | none => (.error .device, s)
    | some device =>
      if answer.ok then (.ok answer, { s with device := device })
      else (.error .device, if answer.executed then { s with device := device } else s)

/-! ### The cache -/

/-- The entry of an object with a sequence number; one with another number is replaced. -/
def entryAt (id sequence : ℕ) : CachedOpaque :=
  match mapGet s.cache id with
  | none => ⟨some sequence, none, none⟩
  | some entry =>
    if entry.sequence.any fun cached => cached ≠ sequence then ⟨some sequence, none, none⟩
    else { entry with sequence := some sequence }

def setEntry (id : ℕ) (entry : CachedOpaque) : StorageSlot :=
  { s with cache := mapInsert s.cache id entry }

def forgetCachedObject (id : ℕ) : StorageSlot :=
  { s with
    cache := mapRemove s.cache id
    writes := s.writes.filter fun entry => entry.2 ≠ id }

def readObjectInfo (id : ℕ) (expected : Option ℕ) : Outcome StorageFault StorageSlot OpaqueInfo :=
  s.command.andThen fun _ s =>
    match mapGet s.device id with
    | none => (.error .device, s)
    | some object =>
      if expected.any fun sequence => sequence ≠ object.info.sequence then (.error .device, s)
      else (.ok object.info,
        s.setEntry id { s.entryAt id object.info.sequence with info := some object.info })

def listedObjectInfo (id sequence : ℕ) : Outcome StorageFault StorageSlot OpaqueInfo :=
  let entry := s.entryAt id sequence
  let s := s.setEntry id entry
  match entry.info with
  | some info => (.ok info, s)
  | none => s.readObjectInfo id (some sequence)

def objectInfoWithSession (id : ℕ) : Outcome StorageFault StorageSlot OpaqueInfo :=
  match (mapGet s.cache id).bind (·.info) with
  | some info => (.ok info, s)
  | none => s.readObjectInfo id none

/-- `read_object_value_with_session`, with `object_value_cache_entry`. -/
def readObjectValueWithSession (id : ℕ) (info : OpaqueInfo) :
    Outcome StorageFault StorageSlot Bytes :=
  let entry := s.entryAt id info.sequence
  let entry := { entry with info := some (entry.info.getD info) }
  let s := s.setEntry id entry
  match entry.value with
  | some value => (.ok value, s)
  | none =>
    s.command.andThen fun _ s =>
      match mapGet s.device id with
      | none => (.error .device, s)
      | some object => (.ok object.value, s.setEntry id { entry with value := some object.value })

/-- `ensure_read_session`, with `synchronize_caches`. -/
def ensureReadSession : Outcome StorageFault StorageSlot Unit :=
  s.reply.andThen fun answer s =>
    let s := if answer.reconnected then { s with cache := [], writes := [] } else s
    if answer.ok then (.ok (), s) else (.error .device, s)

/-- One attempt of `read_object_value_with_public_discovery`. -/
def publicRead (id : ℕ) : Outcome StorageFault StorageSlot Bytes :=
  s.ensureReadSession.andThen fun _ s =>
    (s.objectInfoWithSession id).andThen fun info s => s.readObjectValueWithSession id info

/-- `storage_object_value`; a session that was invalidated is opened once more. -/
def storageObjectValue (id : ℕ) (info : OpaqueInfo) : Outcome StorageFault StorageSlot Bytes :=
  s.reply.andThen fun answer s =>
    if answer.user then s.readObjectValueWithSession id info
    else
      match s.publicRead id with
      | (.ok value, s) => (.ok value, s)
      | (.error fault, s) =>
        s.reply.andThen fun answer s => if answer.ok then s.publicRead id else (.error fault, s)

def cachedStorageObjects : List (ℕ × OpaqueInfo) :=
  s.cache.filterMap fun entry =>
    (entry.2.info.filter OpaqueInfo.isStorage).map fun info => (entry.1, info)

/-- The opaque objects of `discover_objects`: infos, and the values of companions. -/
def discoverListed (s : StorageSlot) : List (ℕ × ℕ) → Outcome StorageFault StorageSlot Unit
  | [] => (.ok (), s)
  | (id, sequence) :: listed =>
    (s.listedObjectInfo id sequence).andThen fun info s =>
      if info.algorithm = opaqueData ∧ (labelRest "pkcs11rs stored " info.label).isNone ∧
          (yubihsmMetadataLabel info.label).isSome then
        (s.readObjectValueWithSession id info).andThen fun _ s => s.discoverListed listed
      else s.discoverListed listed

/-- `refresh_storage_objects`; other objects of the device may make the discovery fail. -/
def refreshStorageObjects : Outcome StorageFault StorageSlot (List (ℕ × OpaqueInfo)) :=
  s.reply.andThen fun answer s =>
    if answer.ok then
      s.command.andThen fun _ s =>
        (s.discoverListed (s.device.map fun entry => (entry.1, entry.2.info.sequence))).andThen fun _ s =>
          s.command.andThen fun _ s => (.ok s.cachedStorageObjects, s)
    else (.ok s.cachedStorageObjects, s)

/-! ### The calls -/

section Calls

variable (env : StorageEnv)

/-- The loop of `list`. -/
def listRecords (s : StorageSlot) (references : List ContentReference) :
    List (ℕ × OpaqueInfo) → Outcome StorageFault StorageSlot (List ContentReference)
  | [] => (.ok (references.mergeSort (· ≤ ·)), s)
  | (id, info) :: infos =>
    (s.storageObjectValue id info).andThen fun object s =>
      if env.isRecord object then
        let reference := env.forObject object
        s.listRecords (if reference ∈ references then references else references ++ [reference]) infos
      else (.error .rejected, s)

def list (s : StorageSlot) : Outcome StorageFault StorageSlot (List ContentReference) :=
  s.refreshStorageObjects.andThen fun infos s => s.listRecords env [] infos

/-- The loop of `get`. -/
def getRecord (s : StorageSlot) (reference : ContentReference) :
    List (ℕ × OpaqueInfo) → Outcome StorageFault StorageSlot (Option Bytes)
  | [] => (.ok none, s)
  | (id, info) :: infos =>
    (s.storageObjectValue id info).andThen fun object s =>
      if env.forObject object = reference then (.ok (some object), s)
      else s.getRecord reference infos

def get (s : StorageSlot) (reference : ContentReference) :
    Outcome StorageFault StorageSlot (Option Bytes) :=
  s.refreshStorageObjects.andThen fun infos s => s.getRecord env reference infos

/-- `PutOpaque` with id 0, for which the device takes an id that is free. -/
def putOpaque (label : String) (object : Bytes) : Outcome StorageFault StorageSlot ℕ :=
  (s.execute fun answer device =>
    if mapHas device answer.id then none
    else some (mapInsert device answer.id ⟨⟨answer.sequence, opaqueData, label⟩, object⟩)).andThen
      fun answer s => (.ok answer.id, s.forgetCachedObject answer.id)

def writeBackedKeyMetadata (object : Bytes) : Outcome StorageFault StorageSlot ℕ :=
  s.ensureReadSession.andThen fun _ s =>
    s.command.andThen fun answer s => s.putOpaque ("pkcs11rs metadata 0x" ++ answer.target) object

def writeStandaloneStorageObject (object : Bytes) (reference : ContentReference) :
    Outcome StorageFault StorageSlot ℕ :=
  s.putOpaque ("pkcs11rs stored " ++ lowerHex (reference.take 11)) object

/-- The loop of `put`: the object is there. -/
def holdsRecord (s : StorageSlot) (object : Bytes) (reference : ContentReference) :
    List (ℕ × OpaqueInfo) → Outcome StorageFault StorageSlot Bool
  | [] => (.ok false, s)
  | (id, info) :: infos =>
    (s.storageObjectValue id info).andThen fun existing s =>
      if env.forObject existing = reference ∧ existing = object then (.ok true, s)
      else s.holdsRecord object reference infos

def put (s : StorageSlot) (object : Bytes) : Outcome StorageFault StorageSlot ContentReference :=
  match env.recordKind object with
  | none => (.error .rejected, s)
  | some kind =>
    let reference := env.forObject object
    if mapHas s.writes reference then (.ok reference, s)
    else
      (s.holdsRecord env object reference s.cachedStorageObjects).andThen fun found s =>
        if found then (.ok reference, s)
        else
          (match kind with
            | .companion => s.writeBackedKeyMetadata object
            | .publicKey => s.writeStandaloneStorageObject object reference).andThen fun id s =>
              (.ok reference, { s with writes := mapInsert s.writes reference id })

/-- The loop of `delete`: the ids of the objects with the reference. -/
def matching (s : StorageSlot) (reference : ContentReference) (ids : List ℕ) :
    List (ℕ × OpaqueInfo) → Outcome StorageFault StorageSlot (List ℕ)
  | [] => (.ok ids, s)
  | (id, info) :: infos =>
    (s.storageObjectValue id info).andThen fun object s =>
      s.matching reference
        (if env.forObject object = reference ∧ id ∉ ids then ids ++ [id] else ids) infos

/-- `delete_metadata_objects`: all are deleted, and the first error is returned. -/
def deleteMetadataObjects (s : StorageSlot) : List ℕ → Outcome StorageFault StorageSlot Unit
  | [] => (.ok (), s)
  | id :: ids =>
    match s.execute fun _ device => if mapHas device id then some (mapRemove device id) else none with
    | (.ok _, s) => (s.forgetCachedObject id).deleteMetadataObjects ids
    | (.error fault, s) => (.error fault, (s.deleteMetadataObjects ids).2)

def delete (s : StorageSlot) (reference : ContentReference) : Outcome StorageFault StorageSlot Bool :=
  (s.matching env reference (mapGet s.writes reference).toList s.cachedStorageObjects).andThen
    fun ids s =>
      if ids = [] then (.ok false, s)
      else (s.deleteMetadataObjects ids).andThen fun _ s => (.ok true, s)

end Calls

end StorageSlot

/-- A call, or what another client does between calls. -/
inductive StorageEvent where
  | list (replies : List StorageReply)
  | get (replies : List StorageReply) (reference : ContentReference)
  | put (replies : List StorageReply) (object : Bytes)
  | delete (replies : List StorageReply) (reference : ContentReference)
  /-- Another client creates, replaces or deletes an opaque object. -/
  | other (id : ℕ) (object : Option DeviceOpaque)
  deriving DecidableEq

namespace StorageSlot

/-- Another client changes an object. -/
def change (id : ℕ) : Option DeviceOpaque → StorageSlot
  | none => { s with device := mapRemove s.device id }
  | some object => { s with device := mapInsert s.device id object }

def step (env : StorageEnv) (s : StorageSlot) : StorageEvent → Option StorageSlot
  | .list replies => some ({ s with replies := replies }.list env).2
  | .get replies reference => some ({ s with replies := replies }.get env reference).2
  | .put replies object => some ({ s with replies := replies }.put env object).2
  | .delete replies reference => some ({ s with replies := replies }.delete env reference).2
  | .other id object => some (s.change id object)

end StorageSlot

end Pkcs11rs.Model
