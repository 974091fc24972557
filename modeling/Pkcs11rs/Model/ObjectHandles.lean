import Mathlib.Data.List.Sort
import Pkcs11rs.Library.AssocMap
import Pkcs11rs.Model.ObjectTemplates

/-!
# Object handles of a slot

`SlotState` with its handle maps and the operations that change them
(`context.rs:1256-2112`, `api/object.rs:1895-2060`, `api/object.rs:2405-2575`).

The slot and the storage answer the calls of an operation; their answers are the
`Answers` of the event, so every device and every storage content is covered.  A function that
the source can leave with an error after it has changed the state returns the result together
with the state.  Hash maps are lists of pairs (`Library.AssocMap`).
-/

set_option autoImplicit false

namespace Pkcs11rs.Model

open Pkcs11rs.Library

/-- `CK_OBJECT_HANDLE`. -/
abbrev ObjectHandle := UInt64

/-! ## State and answers -/

/-- The fields of `SlotState` that the object operations use, and the counter they share. -/
structure SlotState where
  slotId : Ulong
  /-- `HandleCounters::next_object`; 0 once every handle has been given out. -/
  nextObject : UInt64
  memoryObjects : List (ObjectHandle × TokenObject)
  tokenObjectHandles : List (ObjectHandle × String)
  backedTokenObjects : List (String × TokenObject)
  backedObjectReferences : List (String × ContentReference)
  backedObjectHandles : List (ObjectHandle × ContentReference)
  deriving DecidableEq

inductive LoginRole where
  | user
  | so
  deriving DecidableEq, Repr

/-- What the slot, the storage and the session answer during one operation. -/
structure Answers where
  /-- `CKF_RW_SESSION` of the session. -/
  readWrite : Bool := true
  role : Option LoginRole := none
  storesSoftwareTokenKeys : Bool := false
  tokenMutationsRequireLogin : Bool := false
  /-- `Slot::token_objects` before the device command of the operation. -/
  before : Except Rv (List TokenObject) := .ok []
  /-- The device commands of the operation. -/
  command : Except Rv Unit := .ok ()
  /-- The object that `yubihsm_destroy_native_object` detaches. -/
  detached : Option String := none
  /-- `StorageProvider::put` of an encoded object. -/
  put : Except Rv ContentReference := .error .tokenWriteProtected
  /-- `store_software_private_object`: the identifier of the stored object. -/
  persisted : Except Rv String := .error .functionNotSupported
  /-- `StorageProvider::delete`. -/
  delete : Except Rv Bool := .ok true
  /-- `Slot::token_objects` after the device command. -/
  device : Except Rv (List TokenObject)
  /-- The content that `decode_backed_object` reads for each stored reference. -/
  stored : Except Rv (List (ContentReference × TokenObject))

/-- Whether the user is logged in (`session_details`). -/
def Answers.loggedIn (answers : Answers) : Bool := answers.role = some .user

def backedObjectUniqueId (reference : ContentReference) : String :=
  "pkcs11rs stored " ++ lowerHex reference

/-- `stored_token_objects`: a decoded object is a token object, named after its reference. -/
def Answers.storedTokenObjects (answers : Answers) :
    Except Rv (List (ContentReference × TokenObject)) :=
  answers.stored.map fun entries =>
    entries.map fun entry =>
      (entry.1, { entry.2 with token := true, uniqueId := backedObjectUniqueId entry.1 })

variable (s : SlotState) (answers : Answers) (handle : ObjectHandle)

namespace SlotState

def allocateObject : Option (ObjectHandle × SlotState) :=
  if s.nextObject = 0 then none
  else some (s.nextObject, { s with nextObject := s.nextObject + 1 })

def insertObject (object : TokenObject) : Except Rv ObjectHandle × SlotState :=
  match s.allocateObject with
  | none => (.error .hostMemory, s)
  | some (handle, s) =>
    let object :=
      if object.uniqueId = "" then { object with uniqueId := toString handle } else object
    (.ok handle, { s with memoryObjects := mapInsert s.memoryObjects handle object })

def removeObjectHandle : SlotState :=
  { s with
    backedObjectHandles := mapRemove s.backedObjectHandles handle
    backedObjectReferences :=
      match mapGet s.memoryObjects handle with
      | some object =>
        if object.token then s.backedObjectReferences
        else mapRemove s.backedObjectReferences object.uniqueId
      | none => s.backedObjectReferences
    memoryObjects := mapRemove s.memoryObjects handle
    tokenObjectHandles := mapRemove s.tokenObjectHandles handle }

def removeObjectHandles (handles : List ObjectHandle) : SlotState :=
  handles.foldl removeObjectHandle s

/-- `resolve_object`; the device lists the objects that are not held here. -/
def resolveObject : Except Rv (Option TokenObject) :=
  match mapGet s.memoryObjects handle with
  | some object => .ok (some object)
  | none =>
    match mapGet s.tokenObjectHandles handle with
    | none => .ok none
    | some uniqueId =>
      match mapGet s.backedTokenObjects uniqueId with
      | some object => .ok (some object)
      | none =>
        answers.before >>= fun objects =>
          .ok (objects.find? fun object => object.token ∧ object.uniqueId = uniqueId)

/-- The object of a locator in `resolved_objects`; of two listed objects with one identifier the
hash map there keeps the later one. -/
def locatedObject (listed : List TokenObject) (uniqueId : String) : Option TokenObject :=
  match mapGet s.backedTokenObjects uniqueId with
  | some object => some object
  | none => listed.reverse.find? fun object => object.token ∧ object.uniqueId = uniqueId

def resolvedObjects : Except Rv (List (ObjectHandle × TokenObject)) :=
  answers.before >>= fun listed =>
    .ok (s.memoryObjects ++ s.tokenObjectHandles.filterMap fun entry =>
      (s.locatedObject listed entry.2).map fun object => (entry.1, object))

def isNativeTokenObjectHandle : Bool :=
  mapHas s.tokenObjectHandles handle && !mapHas s.backedObjectHandles handle

end SlotState

/-! ## Reconciliation with the listed objects -/

/-- The identifiers of the token objects of a list, in its order. -/
def tokenUniqueIds (objects : List TokenObject) : List String :=
  (objects.filter (·.token)).map (·.uniqueId)

namespace SlotState

/-- The loop over the rebindings that checks each of them. -/
def checkRebindings (s : SlotState) (ids : List String) :
    List (ObjectHandle × String) → Except Rv Unit
  | [] => .ok ()
  | (handle, uniqueId) :: rest =>
    if mapHas s.tokenObjectHandles handle = false then .error .objectHandleInvalid
    else if uniqueId ∉ ids then .error .deviceError
    else checkRebindings s ids rest

variable (rebindings : List (ObjectHandle × String))

/-- The handles whose object a rebinding takes over. -/
def conflicts : List ObjectHandle :=
  (s.tokenObjectHandles.filter fun entry =>
    entry.2 ∈ rebindings.map (·.2) ∧ entry.1 ∉ rebindings.map (·.1)).map (·.1)

/-- The loop that sets the locators of the rebound handles. -/
def rebind : SlotState :=
  { s with
    tokenObjectHandles := mapInsertAll s.tokenObjectHandles rebindings }

def unlisted (ids : List String) : List ObjectHandle :=
  (s.tokenObjectHandles.filter fun entry => entry.2 ∉ ids).map (·.1)

/-- The listed objects without a handle, sorted. -/
def newUniqueIds (ids : List String) : List String :=
  (ids.filter fun uniqueId => uniqueId ∉ s.tokenObjectHandles.map (·.2)).insertionSort (· ≤ ·)

/-- The loop that gives handles to new objects. -/
def allocateHandles : List String → SlotState → Except Rv Unit × SlotState
  | [], s => (.ok (), s)
  | uniqueId :: rest, s =>
    match s.allocateObject with
    | none => (.error .hostMemory, s)
    | some (handle, s) =>
      allocateHandles rest
        { s with tokenObjectHandles := mapInsert s.tokenObjectHandles handle uniqueId }

def reconcileWithRebindings (objects : List TokenObject) (rebindings : List (ObjectHandle × String)) :
    Except Rv Unit × SlotState :=
  let ids := tokenUniqueIds objects
  if "" ∈ ids ∨ ¬ ids.Nodup then (.error .deviceError, s)
  else
    match s.checkRebindings ids rebindings with
    | .error error => (.error error, s)
    | .ok () =>
      let s := (s.removeObjectHandles (s.conflicts rebindings)).rebind rebindings
      let s := s.removeObjectHandles (s.unlisted ids)
      allocateHandles (s.newUniqueIds ids) s

def recordBackedObjects (stored : List (ContentReference × TokenObject)) : SlotState :=
  let references := mapInsertAll [] (stored.map fun entry => (entry.2.uniqueId, entry.1))
  { s with
    backedTokenObjects := mapInsertAll [] (stored.map fun entry => (entry.2.uniqueId, entry.2))
    backedObjectReferences := references
    backedObjectHandles :=
      mapInsertAll s.backedObjectHandles (s.tokenObjectHandles.filterMap fun entry =>
        (mapGet references entry.2).map fun reference => (entry.1, reference)) }

/-- `refresh_slot_token_objects_with_rebindings`. -/
def refreshWithRebindings : Except Rv Unit × SlotState :=
  match answers.device, answers.storedTokenObjects with
  | .error error, _ => (.error error, s)
  | .ok _, .error error => (.error error, s)
  | .ok objects, .ok stored =>
    (s.recordBackedObjects stored).reconcileWithRebindings
      (objects ++ stored.map (·.2)) rebindings

/-- `refresh_slot_token_objects`. -/
def refresh : Except Rv Unit × SlotState :=
  s.refreshWithRebindings answers []

/-! ## Backed objects -/

def storeBackedObject (session : Ulong) (object : TokenObject) :
    Except Rv ObjectHandle × SlotState :=
  match answers.put with
  | .error error => (.error error, s)
  | .ok reference =>
    if object.token then
      let uniqueId := backedObjectUniqueId reference
      let s :=
        { s with
          backedObjectReferences := mapInsert s.backedObjectReferences uniqueId reference }
      match s.refresh answers with
      | (.error error, s) => (.error error, s)
      | (.ok (), s) =>
        match s.tokenObjectHandles.find? fun entry => entry.2 = uniqueId with
        | none => (.error .deviceError, s)
        | some (handle, _) =>
          (.ok handle,
            { s with
              backedObjectHandles := mapInsert s.backedObjectHandles handle reference })
    else
      match s.insertObject (object.setCreator session s.slotId) with
      | (.error error, s) => (.error error, s)
      | (.ok handle, s) =>
        (.ok handle,
          { s with backedObjectHandles := mapInsert s.backedObjectHandles handle reference })

/-- The reference of a backed object: by its handle, else by its identifier. -/
def backedReference (object : TokenObject) : Option ContentReference :=
  match mapGet s.backedObjectHandles handle with
  | some reference => some reference
  | none => mapGet s.backedObjectReferences object.uniqueId

def backedReferenceIsShared (reference : ContentReference) (object : TokenObject) : Bool :=
  s.backedObjectHandles.any fun entry =>
    entry.1 ≠ handle ∧ entry.2 = reference ∧
      if object.token then mapHas s.tokenObjectHandles entry.1
      else
        (mapGet s.memoryObjects entry.1).any fun candidate =>
          !candidate.token && candidate.creatorSession = object.creatorSession

end SlotState

namespace SlotState

/-- The deletion of a stored object in `destroy_backed_object` and `replace_backed_object`. -/
def deleteStored (object : TokenObject) : Except Rv Unit :=
  if object.token = false ∧ object.creatorSession = none then .error .deviceError
  else
    answers.delete >>= fun deleted => if deleted then .ok () else .error .deviceError

/-- `destroy_backed_object`; the result says whether the object is a backed one. -/
def destroyBackedObject (object : TokenObject) : Except Rv Bool × SlotState :=
  match s.backedReference handle object with
  | none => (.ok false, s)
  | some reference =>
    let deleted :=
      if s.backedReferenceIsShared handle reference object then .ok ()
      else deleteStored answers object
    match deleted with
    | .error error => (.error error, s)
    | .ok () =>
      let s := { s with backedObjectHandles := mapRemove s.backedObjectHandles handle }
      if object.token then
        let s :=
          { s with
            backedObjectReferences := mapRemove s.backedObjectReferences object.uniqueId }
        match s.refresh answers with
        | (.error error, s) => (.error error, s)
        | (.ok (), s) => (.ok true, s)
      else (.ok true, s.removeObjectHandle handle)

/-- The storage part of `replace_backed_object`: the replacement is stored and the previous
content deleted. -/
def replaceStored (previousReference : ContentReference) (previous replacement : TokenObject) :
    Except Rv ContentReference :=
  if replacement.token = false ∧ previous.creatorSession = none then .error .deviceError
  else
    answers.put >>= fun reference =>
      if reference ≠ previousReference ∧
          s.backedReferenceIsShared handle previousReference previous = false then
        answers.delete >>= fun deleted => if deleted then .ok reference else .error .deviceError
      else .ok reference

/-- `replace_backed_object`; the result says whether the object is a backed one. -/
def replaceBackedObject (previous replacement : TokenObject) : Except Rv Bool × SlotState :=
  match s.backedReference handle previous with
  | none => (.ok false, s)
  | some previousReference =>
    match s.replaceStored answers handle previousReference previous replacement with
    | .error error => (.error error, s)
    | .ok reference =>
      if replacement.token then
        let uniqueId := backedObjectUniqueId reference
        let s :=
          { s with
            backedObjectReferences :=
              mapInsert (mapRemove s.backedObjectReferences previous.uniqueId) uniqueId
                reference
            backedObjectHandles := mapInsert s.backedObjectHandles handle reference }
        match s.refreshWithRebindings answers [(handle, uniqueId)] with
        | (.error error, s) => (.error error, s)
        | (.ok (), s) => (.ok true, s)
      else
        match previous.creatorSession with
        | none => (.error .deviceError, s)
        | some creator =>
          let replacement :=
            { replacement.setCreator creator s.slotId with uniqueId := previous.uniqueId }
          (.ok true,
            { s with
              backedObjectHandles := mapInsert s.backedObjectHandles handle reference
              memoryObjects := mapInsert s.memoryObjects handle replacement })

/-! ## Sessions and logins -/

def insertSessionObjects (session : Ulong) :
    List TokenObject → SlotState → Except Rv Unit × SlotState
  | [], s => (.ok (), s)
  | object :: rest, s =>
    if object.token then insertSessionObjects session rest s
    else if object.uniqueId ≠ "" ∧
        s.memoryObjects.any fun entry =>
          !entry.2.token && entry.2.uniqueId = object.uniqueId then
      insertSessionObjects session rest s
    else
      match s.insertObject (object.setCreator session s.slotId) with
      | (.error error, s) => (.error error, s)
      | (.ok _, s) => insertSessionObjects session rest s

/-- The object part of `clear_login_state`. -/
def clearLoginState : SlotState :=
  { s with memoryObjects := s.memoryObjects.filter fun entry => entry.2.token || !entry.2.isPrivate }

/-- The object part of `logout_slot`; `refreshAfter` is `refresh_token_objects_after_logout`. -/
def logoutSlot (refreshAfter : Bool) : Except Rv Unit × SlotState :=
  match answers.command with
  | .error error => (.error error, s)
  | .ok () =>
    let s := s.clearLoginState
    if refreshAfter then s.refresh answers else (.ok (), s)

/-- The object part of `login_role`; `refreshAfter` is `refresh_token_objects_after_login`. -/
def loginRole (refreshAfter : Bool) : Except Rv Unit × SlotState :=
  match answers.command with
  | .error error => (.error error, s)
  | .ok () =>
    if refreshAfter then
      match s.refresh answers with
      | (.error error, s) => (.error error, s.clearLoginState)
      | (.ok (), s) => (.ok (), s)
    else (.ok (), s)

/-- The object part of `C_CloseSession`: the objects that the session created. -/
def closeSession (session : Ulong) : SlotState :=
  s.removeObjectHandles
    ((s.memoryObjects.filter fun entry => entry.2.creatorSession = some session).map (·.1))

end SlotState

/-! ## Destroying an object -/

/-- `Slot::from_cka_id`, a PIV slot being its `CKA_ID` byte; 25 is the attestation slot. -/
def pivSlotFromCkaId (id : UInt8) : Option UInt8 := if 1 ≤ id ∧ id ≤ 25 then some id else none

/-- The materials that `destroy_object` always refuses. -/
def KeyMaterial.isUndestroyable : KeyMaterial → Bool
  | .external (.profile _) => true
  | .external .issuerSecurityDomainData => true
  | .external .issuerSecurityDomainCertificate => true
  | .external .hsmAuthCredential => true
  | .external (.openPgpPrivate _) => true
  | .external .openPgpCertificate => true
  | _ => false

def KeyMaterial.isSoftwareStored : KeyMaterial → Bool
  | .softwarePrivate _ => true
  | .softwareSecret _ => true
  | .data _ _ _ _ => true
  | .certificate _ _ => true
  | _ => false

/-- How `destroy_object` removes an object. -/
inductive DestroyAction where
  /-- The call is refused before anything happens. -/
  | refuse (rv : Rv)
  /-- `destroy_backed_object`. -/
  | backed (object : TokenObject)
  /-- Only the handle goes. -/
  | forget
  /-- A device command, then the handle goes. -/
  | commandForget
  /-- A device command, then the objects are listed again. -/
  | commandRefresh
  /-- A device command, then the handle goes and the objects are listed again. -/
  | commandForgetRefresh
  /-- `yubihsm_destroy_native_object` with the rebinding of the public projections. -/
  | yubihsm (id : UInt16) (objectType : UInt8)
  deriving DecidableEq

/-- A deletion on the PIV applet, which the security officer must be logged in for. -/
def pivDelete : DestroyAction :=
  if answers.role = some .so then .commandRefresh else .refuse .userNotLoggedIn

namespace SlotState

/-- The branches of `destroy_object` before the backed objects. -/
def destroyFirst (object : TokenObject) : Option DestroyAction :=
  if object.token ∧ answers.readWrite = false then some (.refuse .sessionReadOnly)
  else if object.material.isUndestroyable then some (.refuse .actionProhibited)
  else if object.token ∧ answers.tokenMutationsRequireLogin ∧ answers.loggedIn = false then
    some (.refuse .userNotLoggedIn)
  else if object.isOath then some .commandForgetRefresh
  else if object.isYubihsmPublicProjection then
    some (if object.token then .commandRefresh else .forget)
  else none

/-- The branches of `destroy_object` after the backed objects. -/
def destroyRest (object : TokenObject) : DestroyAction :=
  match object.material with
  | .previewSignRegistration _ true => .commandForget
  | material =>
    if object.token ∧ material.isSoftwareStored ∧ answers.storesSoftwareTokenKeys then
      .commandRefresh
    else
      match material with
      | .pub _ =>
        if object.class_ = Cko.publicKey ∧ s.isNativeTokenObjectHandle handle then
          .refuse .actionProhibited
        else .forget
      | .external (.pivPrivate _) => pivDelete answers
      | .external .pivCertificate =>
        match object.id with
        | [id] =>
          if (pivSlotFromCkaId id).isSome then pivDelete answers else .refuse .deviceError
        | _ => .refuse .deviceError
      | .external (.pivData _) => pivDelete answers
      | .external (.yubiHsm id objectType _ _) => .yubihsm id objectType
      | .external (.yubiHsmSessionObject _ _) => .commandForget
      | _ => .forget

/-- The handles of the public projections that the YubiHSM branch collects. -/
def yubihsmPublicHandles (id : UInt16) (objectType : UInt8)
    (objects : List (ObjectHandle × TokenObject)) : List ObjectHandle :=
  (objects.filter fun entry =>
    decide (entry.2.slotId = some s.slotId) && entry.2.token &&
      entry.2.isYubihsmPublicProjection &&
      match entry.2.material with
      | .external (.yubiHsm candidateId candidateType _ _) =>
        decide (candidateId = id ∧ candidateType &&& 0x7f = objectType &&& 0x7f)
      | _ => false).map (·.1)

/-- The branch that `destroy_object` takes. -/
def destroyAction : DestroyAction :=
  match s.resolveObject answers handle with
  | .error error => .refuse error
  | .ok none => .refuse .objectHandleInvalid
  | .ok (some object) =>
    if object.isVisibleTo answers.loggedIn = false then .refuse .objectHandleInvalid
    else
      match destroyFirst answers object with
      | some action => action
      | none =>
        if (s.backedReference handle object).isSome then .backed object
        else s.destroyRest answers handle object

/-- The rebindings of the YubiHSM branch. -/
def yubihsmRebindings (id : UInt16) (objectType : UInt8) :
    Except Rv (List (ObjectHandle × String)) :=
  s.resolvedObjects answers >>= fun objects =>
    answers.command >>= fun _ =>
      match answers.detached with
      | none => .ok []
      | some uniqueId =>
        .ok ((s.yubihsmPublicHandles id objectType objects).map fun handle => (handle, uniqueId))

def destroyObject : Except Rv Unit × SlotState :=
  match s.destroyAction answers handle with
  | .refuse rv => (.error rv, s)
  | .backed object =>
    let (result, s) := s.destroyBackedObject answers handle object
    (result.map fun _ => (), s)
  | .forget => (.ok (), s.removeObjectHandle handle)
  | .commandForget =>
    match answers.command with
    | .error error => (.error error, s)
    | .ok () => (.ok (), s.removeObjectHandle handle)
  | .commandRefresh =>
    match answers.command with
    | .error error => (.error error, s)
    | .ok () => s.refresh answers
  | .commandForgetRefresh =>
    match answers.command with
    | .error error => (.error error, s)
    | .ok () => (s.removeObjectHandle handle).refresh answers
  | .yubihsm id objectType =>
    match s.yubihsmRebindings answers id objectType with
    | .error error => (.error error, s)
    | .ok rebindings => s.refreshWithRebindings answers rebindings

end SlotState

/-! ## Changing the attributes of an object -/

namespace SlotState

/-- `piv_key_object_handles`: the handle, the class and whether it is a token object. -/
def pivKeyObjectHandles (pivSlot : UInt8) (objects : List (ObjectHandle × TokenObject)) :
    List (ObjectHandle × ObjectClass × Bool) :=
  objects.filterMap fun entry =>
    let keyObject : Bool :=
      entry.2.slotId = some s.slotId ∧ entry.2.id = [pivSlot] ∧
        (entry.2.class_ = Cko.publicKey ∨ entry.2.class_ = Cko.privateKey)
    let attestation : Bool :=
      entry.2.slotId = some s.slotId ∧ entry.2.material = .external (.pivAttestation pivSlot)
    if keyObject || attestation then some (entry.1, entry.2.class_, entry.2.token) else none

/-- The rebindings of a PIV key move: each handle of the source slot goes to the object of its
class that the device lists for the destination. -/
def pivMoveRebindings (destination : UInt8) (listed : List TokenObject) :
    List (ObjectHandle × ObjectClass) → Except Rv (List (ObjectHandle × String))
  | [] => .ok []
  | (handle, cls) :: rest =>
    match listed.find? fun candidate =>
        candidate.id = [destination] ∧ candidate.class_ = cls ∧ candidate.token with
    | none => .error .deviceError
    | some target =>
      pivMoveRebindings destination listed rest >>= fun bindings =>
        .ok ((handle, target.uniqueId) :: bindings)

/-- The destination that the template of a PIV key move names. -/
def pivMoveDestination (templ : List CkAttribute) : Except Rv UInt8 :=
  if answers.role ≠ some .so then .error .userNotLoggedIn
  else
    match templ with
    | [attr] =>
      if attr.type ≠ Cka.id then .error .attributeReadOnly
      else
        readAttributeValue attr >>= fun value =>
          match value with
          | [id] =>
            match pivSlotFromCkaId id with
            | none => .error .attributeValueInvalid
            | some destination =>
              if destination = 25 then .error .attributeValueInvalid else .ok destination
          | _ => .error .attributeValueInvalid
    | _ => .error .templateInconsistent

/-- The handles of session objects that a PIV key move removes. -/
def pivSessionHandles (entries : List (ObjectHandle × ObjectClass × Bool)) : List ObjectHandle :=
  (entries.filter fun entry => !entry.2.2).map (·.1)

/-- The handles of token objects that a PIV key move rebinds. -/
def pivTokenHandles (entries : List (ObjectHandle × ObjectClass × Bool)) :
    List (ObjectHandle × ObjectClass) :=
  (entries.filter fun entry => entry.2.2).map fun entry => (entry.1, entry.2.1)

/-- The objects of the source and of the destination, once the key has been moved. -/
def pivMoveObjects (templ : List CkAttribute) (source : UInt8) :
    Except Rv (UInt8 × List (ObjectHandle × ObjectClass × Bool) ×
      List (ObjectHandle × ObjectClass × Bool)) :=
  pivMoveDestination answers templ >>= fun destination =>
    s.resolvedObjects answers >>= fun objects =>
      answers.command >>= fun _ =>
        .ok (destination, s.pivKeyObjectHandles source objects,
          s.pivKeyObjectHandles destination objects)

/-- The `PivPrivate` branch of `set_attribute_value`. -/
def movePivKey (templ : List CkAttribute) (source : UInt8) : Except Rv Unit × SlotState :=
  match s.pivMoveObjects answers templ source with
  | .error error => (.error error, s)
  | .ok (destination, sources, destinations) =>
    let s := s.removeObjectHandles (pivSessionHandles (sources ++ destinations))
    match answers.device with
    | .error error => (.error error, s)
    | .ok listed =>
      match pivMoveRebindings destination listed (pivTokenHandles sources) with
      | .error error => (.error error, s)
      | .ok rebindings => s.reconcileWithRebindings listed rebindings

/-- The template of a YubiHSM object: only `CKA_ID` and `CKA_LABEL` can be changed. -/
def yubihsmTemplate : List CkAttribute → Except Rv Unit
  | [] => .ok ()
  | attr :: rest =>
    if attr.type = Cka.id then readAttributeValue attr >>= fun _ => yubihsmTemplate rest
    else if attr.type = Cka.label then
      readAttributeValue attr >>= fun value => readText value >>= fun _ => yubihsmTemplate rest
    else .error .attributeReadOnly

/-- The `YubiHsm` branch of `set_attribute_value`. -/
def setYubihsmAttributes (templ : List CkAttribute) : Except Rv Unit × SlotState :=
  match templ with
  | [] => (.ok (), s)
  | templ =>
    match yubihsmTemplate templ with
    | .error error => (.error error, s)
    | .ok () =>
      if answers.loggedIn = false then (.error .userNotLoggedIn, s)
      else
        let (result, s) := s.refresh answers
        match answers.command with
        | .error error => (.error error, s)
        | .ok () => (result, s)

/-- The `OpenPgpPrivate` branch of `set_attribute_value`. -/
def setOpenPgpTouchPolicy (templ : List CkAttribute) : Except Rv Unit × SlotState :=
  match templ with
  | [attr] =>
    if attr.type ≠ Cka.yubicoTouchPolicy then (.error .attributeReadOnly, s)
    else
      match readUlongTemplateAttribute attr with
      | .error error => (.error error, s)
      | .ok policy =>
        if policy < 1 ∨ 5 < policy then (.error .attributeValueInvalid, s)
        else
          match answers.command with
          | .error error => (.error error, s)
          | .ok () => s.refresh answers
  | _ => (.error .templateInconsistent, s)

/-- Whether a changed object is stored again by the software token. -/
def storedAgain (object : TokenObject) : Bool :=
  object.token && object.isPrivate && answers.storesSoftwareTokenKeys &&
    match object.material with
    | .data _ _ _ _ => true
    | .certificate _ _ => true
    | _ => false

/-- The last part of `set_attribute_value`, for an object that has been changed. -/
def publishUpdated (previous updated : TokenObject) : Except Rv Unit × SlotState :=
  match s.replaceBackedObject answers handle previous updated with
  | (.error error, s) => (.error error, s)
  | (.ok true, s) => (.ok (), s)
  | (.ok false, s) =>
    if storedAgain answers previous then
      match answers.persisted, answers.command with
      | .error error, _ => (.error error, s)
      | .ok _, .error error => (.error error, s)
      | .ok uniqueId, .ok () => s.refreshWithRebindings answers [(handle, uniqueId)]
    else if mapHas s.tokenObjectHandles handle then (.error .attributeReadOnly, s)
    else (.ok (), { s with memoryObjects := mapInsert s.memoryObjects handle updated })

/-- The branches of `set_attribute_value`. -/
inductive SetAction where
  | refuse (rv : Rv)
  | openPgp
  | piv (source : UInt8)
  | yubihsm
  | publish (previous updated : TokenObject)
  deriving DecidableEq

/-- The branch that `set_attribute_value` takes. -/
def setAction (templ : List CkAttribute) : SetAction :=
  match validateUniqueTemplate templ, s.resolveObject answers handle with
  | .error error, _ => .refuse error
  | .ok _, .error error => .refuse error
  | .ok _, .ok none => .refuse .objectHandleInvalid
  | .ok _, .ok (some object) =>
    if object.isVisibleTo answers.loggedIn = false then .refuse .objectHandleInvalid
    else if object.token ∧ answers.readWrite = false then .refuse .sessionReadOnly
    else
      match object.material with
      | .external (.openPgpPrivate _) => .openPgp
      | .external (.pivPrivate source) => .piv source
      | material =>
        match object.token, material with
        | true, .external (.yubiHsm _ _ _ _) => .yubihsm
        | _, _ =>
          match attributesApplied TokenObject.setAttributeValue templ object with
          | .error error => .refuse error
          | .ok updated => .publish object updated

def setAttributeValue (templ : List CkAttribute) : Except Rv Unit × SlotState :=
  match s.setAction answers handle templ with
  | .refuse rv => (.error rv, s)
  | .openPgp => s.setOpenPgpTouchPolicy answers templ
  | .piv source => s.movePivKey answers templ source
  | .yubihsm => s.setYubihsmAttributes answers templ
  | .publish previous updated => s.publishUpdated answers handle previous updated

end SlotState

/-! ## The operations on a slot -/

/-- An operation on the objects of a slot, with what the slot and the storage answer. -/
inductive ObjectEvent where
  /-- `refresh_slot_token_objects`, as discovery and the search for objects make it. -/
  | refresh (answers : Answers)
  | login (answers : Answers) (refreshAfter : Bool)
  | logout (answers : Answers) (refreshAfter : Bool)
  /-- `clear_login_state` after a login that ended outside the module. -/
  | clearLogin
  /-- `init_token`, once no session is open. -/
  | initToken (answers : Answers)
  /-- `store_backed_object`. -/
  | store (answers : Answers) (session : Ulong) (object : TokenObject)
  | insert (object : TokenObject)
  | insertSession (session : Ulong) (objects : List TokenObject)
  | destroy (answers : Answers) (handle : ObjectHandle)
  | setAttribute (answers : Answers) (handle : ObjectHandle) (templ : List CkAttribute)
  | closeSession (session : Ulong)
  /-- Another slot takes a handle from the shared counter. -/
  | otherSlot

namespace SlotState

/-- `SlotState` of a new slot context, before its first reconciliation. -/
def empty (slotId : Ulong) (nextObject : UInt64) : SlotState where
  slotId := slotId
  nextObject := nextObject
  memoryObjects := []
  tokenObjectHandles := []
  backedTokenObjects := []
  backedObjectReferences := []
  backedObjectHandles := []

/-- Carry out an operation. -/
def perform : ObjectEvent → Except Rv Unit × SlotState
  | .refresh answers => s.refresh answers
  | .login answers refreshAfter => s.loginRole answers refreshAfter
  | .logout answers refreshAfter => s.logoutSlot answers refreshAfter
  | .clearLogin => (.ok (), s.clearLoginState)
  | .initToken answers =>
    match answers.command with
    | .error error => (.error error, s)
    | .ok () => s.refresh answers
  | .store answers session object =>
    let (result, s) := s.storeBackedObject answers session object
    (result.map fun _ => (), s)
  | .insert object =>
    let (result, s) := s.insertObject object
    (result.map fun _ => (), s)
  | .insertSession session objects => insertSessionObjects session objects s
  | .destroy answers handle => s.destroyObject answers handle
  | .setAttribute answers handle templ => s.setAttributeValue answers handle templ
  | .closeSession session => (.ok (), s.closeSession session)
  | .otherSlot =>
    match s.allocateObject with
    | none => (.error .hostMemory, s)
    | some (_, s) => (.ok (), s)

/-- The state after an operation, whatever it returns. -/
def step (event : ObjectEvent) : Option SlotState := some (s.perform event).2

end SlotState

end Pkcs11rs.Model
