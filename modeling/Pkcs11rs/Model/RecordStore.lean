import Mathlib.Data.List.Sort
import Pkcs11rs.Library.AssocMap
import Pkcs11rs.Model.TokenHeader
import Pkcs11rs.Model.TokenRecords

/-!
# The record store of a software token

`load_objects`, `put_object` and `delete_object` (`software_storage.rs:610-664`) over the local
storage provider (`storage.rs:385-521`), and the login that loads the objects
(`backend/software.rs:181-208`).

The storage directory is a map from content references to files.  A call to the operating system
that fails before anything is published is the `ioError` of an operation.
-/

set_option autoImplicit false

namespace Pkcs11rs.Model

open Pkcs11rs.Library

variable [CborCodec]

/-- The functions of other crates that the store is made with. -/
structure StoreEnv extends RecordEnv where
  digest : Bytes → ContentReference
  /-- `validate_cbor_object`. -/
  isCborObject : Bytes → Bool

/-- The files of the storage directory. -/
abbrev Records := List (ContentReference × Bytes)

def maxRecordLength : ℕ := 1024 * 1024

def recordUniqueId (reference : ContentReference) : String :=
  "software-private-" ++ lowerHex reference

/-! ## The storage provider -/

variable (env : StoreEnv) (records : Records)

def readVerified (reference : ContentReference) : Except Rv (Option Bytes) :=
  match mapGet records reference with
  | none => .ok none
  | some object =>
    if env.isCborObject object = false then .error .dataInvalid
    else if env.digest object ≠ reference then .error .deviceError
    else .ok (some object)

/-- The check that `list` makes of a file. -/
def verifyRecord (reference : ContentReference) : Except Rv Unit :=
  readVerified env records reference >>= fun object =>
    match object with
    | none => .error .deviceError
    | some _ => .ok ()

/-- The loop of `list`. -/
def verifyRecords (env : StoreEnv) (records : Records) :
    List ContentReference → Except Rv Unit
  | [] => .ok ()
  | reference :: rest =>
    verifyRecord env records reference >>= fun _ => verifyRecords env records rest

def listRecords : Except Rv (List ContentReference) :=
  verifyRecords env records (keys records) >>= fun _ =>
    .ok ((keys records).insertionSort (· ≤ ·)).dedup

def putRecord (ioError : Option Rv) (records : Records) (object : Bytes) :
    Except Rv (ContentReference × Records) :=
  if env.isCborObject object = false then .error .dataInvalid
  else
    let reference := env.digest object
    readVerified env records reference >>= fun existing =>
      match existing with
      | some existing =>
        if existing = object then .ok (reference, records) else .error .deviceError
      | none =>
        match ioError with
        | some error => .error error
        | none => .ok (reference, mapInsert records reference object)

/-! ## The token store -/

/-- `put_object`: its result and the files it leaves. -/
def putObject (name : Bytes) (slotId : Ulong) (masterKey : Bytes) (random : Option Nonce)
    (ioError : Option Rv) (records : Records) (object : TokenObject) :
    Except Rv (TokenObject × ContentReference) × Records :=
  match encodeRecord env.toRecordEnv name masterKey random object with
  | .error error => (.error error, records)
  | .ok encoded =>
    match putRecord env ioError records encoded with
    | .error error => (.error error, records)
    | .ok (reference, records) =>
      -- the file is in the store before it is read back
      ((decodeRecord env.toRecordEnv name slotId (recordUniqueId reference) masterKey
        encoded).map fun stored => (stored, reference), records)

def deleteObject (ioError : Option Rv) (records : Records) (reference : ContentReference) :
    Except Rv Unit × Records :=
  match ioError with
  | some error => (.error error, records)
  | none =>
    if mapHas records reference then (.ok (), mapRemove records reference)
    else (.error .deviceError, records)

/-- One file in the loop of `load_objects`. -/
def loadObject (name : Bytes) (slotId : Ulong) (masterKey : Bytes) (records : Records)
    (reference : ContentReference) : Except Rv TokenObject :=
  readVerified env records reference >>= fun encoded =>
    match encoded with
    | none => .error .deviceError
    | some encoded =>
      if maxRecordLength < encoded.length then .error .dataInvalid
      else
        decodeRecord env.toRecordEnv name slotId (recordUniqueId reference) masterKey encoded

/-- The loop of `load_objects`. -/
def loadEach (env : StoreEnv) (name : Bytes) (slotId : Ulong) (masterKey : Bytes)
    (records : Records) : List ContentReference → Except Rv (List TokenObject)
  | [] => .ok []
  | reference :: rest =>
    loadObject env name slotId masterKey records reference >>= fun object =>
      loadEach env name slotId masterKey records rest >>= fun objects =>
        .ok (object :: objects)

/-- `load_objects`: the objects and the references by unique identifier. -/
def loadObjects (name : Bytes) (slotId : Ulong) (masterKey : Bytes) (records : Records) :
    Except Rv (List TokenObject × List (String × ContentReference)) :=
  listRecords env records >>= fun references =>
    loadEach env name slotId masterKey records references >>= fun objects =>
      .ok (objects.insertionSort (fun left right => left.uniqueId ≤ right.uniqueId),
        references.map fun reference => (recordUniqueId reference, reference))

/-- `SoftwareSlot::login` with a store: the master keys and the objects that it loads. -/
def slotLogin (crypto : HeaderCrypto) (store : TokenStore) (header : Option Header)
    (records : Records) (pin : Bytes) :
    Except Rv ((Bytes × Bytes) × List TokenObject × List (String × ContentReference)) :=
  validateSoftwarePin pin >>= fun _ =>
    loginHeader crypto store pin header >>= fun masterKeys =>
      loadObjects env store.name 0 masterKeys.2 records >>= fun loaded =>
        .ok (masterKeys, loaded)

end Pkcs11rs.Model
