import Pkcs11rs.Model.SlotSessions

/-!
# Calls on a slot

The storage of backed objects (`context.rs:1501-1671`, `backed_object.rs:462-474`), the object
search (`api/object.rs:2614-2735`) and `SlotCall`, the calls that an application and the world make
on a slot.

What `encode_backed_object` and `ContentReference::for_object` give for an object is the parameter
`encode`: the references of the record and of the records that it depends on.
-/

set_option autoImplicit false

namespace Pkcs11rs.Model

open Pkcs11rs.Library

/-! ## Storage -/

/-- The references of an `EncodedBackedObject`. -/
structure EncodedReferences where
  object : ContentReference
  dependencies : List ContentReference
  deriving DecidableEq

abbrev BackedEncoding := TokenObject → Except Rv EncodedReferences

/-- A write that fails; it may have taken place before, as when a file has been linked or removed but the
directory cannot be synchronized. -/
structure StorageFailure where
  error : Rv
  written : Bool := false

/-- What a storage answers during one operation. -/
structure StorageAnswers where
  supportsMutation : Bool := true
  /-- The failures of the puts, in their order. -/
  put : List (Option StorageFailure) := []
  /-- The failure of the deletion. -/
  delete : Option StorageFailure := none

/-- Put records, one after the other. -/
def putRecords : List (Option StorageFailure) → List ContentReference → List ContentReference →
    Except Rv Unit × List ContentReference
  | _, [], storage => (.ok (), storage)
  | failures, reference :: rest, storage =>
    match failures.head? with
    | some (some failure) =>
      (.error failure.error, if failure.written then storage.insert reference else storage)
    | _ => putRecords failures.tail rest (storage.insert reference)

def putBackedObject (encode : BackedEncoding) (answers : StorageAnswers) (object : TokenObject)
    (storage : List ContentReference) : Except Rv ContentReference × List ContentReference :=
  if answers.supportsMutation = false then (.error .tokenWriteProtected, storage)
  else
    match encode object with
    | .error error => (.error error, storage)
    | .ok encoded =>
      let (result, storage) :=
        putRecords answers.put (encoded.dependencies ++ [encoded.object]) storage
      (result.map fun _ => encoded.object, storage)

/-- `StorageProvider::delete`. -/
def deleteRecord (answers : StorageAnswers) (reference : ContentReference)
    (storage : List ContentReference) : Except Rv Bool × List ContentReference :=
  let remaining := storage.filter fun kept => kept ≠ reference
  match answers.delete with
  | some failure => (.error failure.error, if failure.written then remaining else storage)
  | none => (.ok (decide (reference ∈ storage)), remaining)

/-- Where a record is stored. -/
inductive StoragePlace where
  | token
  | session (handle : SessionHandle)
  deriving DecidableEq

variable (ctx : SlotContext)

namespace SlotContext

/-- Use a storage; `get_session_context` fails for a session that is closed. -/
def withStorage {α : Type} (ctx : SlotContext) (place : StoragePlace)
    (use : List ContentReference → Except Rv α × List ContentReference) :
    Except Rv α × SlotContext :=
  match place with
  | .token =>
    let (result, storage) := use ctx.tokenStorage
    (result, { ctx with tokenStorage := storage })
  | .session handle =>
    match ctx.getSession handle with
    | .error error => (.error error, ctx)
    | .ok session =>
      let (result, storage) := use session.storage
      (result, ctx.setSession handle { session with storage := storage })

/-- The storage of an object that exists: the token's, or that of the session that created it. -/
def placeOf (object : TokenObject) : Except Rv StoragePlace :=
  if object.token then .ok .token
  else
    match object.creatorSession with
    | some creator => .ok (.session creator)
    | none => .error .deviceError

/-! ## Backed objects -/

variable (encode : BackedEncoding)

def storeBackedObject (ctx : SlotContext) (answers : Answers) (storage : StorageAnswers)
    (session : SessionHandle) (object : TokenObject) : Except Rv ObjectHandle × SlotContext :=
  let place := if object.token then .token else .session session
  match ctx.withStorage place (putBackedObject encode storage object) with
  | (.error error, ctx) => (.error error, ctx)
  | (.ok reference, ctx) =>
    let (result, state) :=
      ctx.state.storeBackedObject { answers with put := .ok reference } session object
    (result, ctx.publish state)

/-- The deletion of a record that no other handle shares. -/
def deleteUnshared (storage : StorageAnswers) (shared : Bool) (object : TokenObject)
    (reference : ContentReference) : Except Rv Bool × SlotContext :=
  if shared then (.ok true, ctx)
  else
    match placeOf object with
    | .error error => (.error error, ctx)
    | .ok place => ctx.withStorage place (deleteRecord storage reference)

/-- `destroy_backed_object`; the result says whether the object is a backed one. -/
def destroyBackedObject (ctx : SlotContext) (answers : Answers) (storage : StorageAnswers)
    (handle : ObjectHandle) (object : TokenObject) : Except Rv Bool × SlotContext :=
  match ctx.state.backedReference handle object with
  | none => (.ok false, ctx)
  | some reference =>
    let shared := ctx.state.backedReferenceIsShared handle reference object
    let (deleted, ctx) := ctx.deleteUnshared storage shared object reference
    let (result, state) :=
      ctx.state.destroyBackedObject { answers with delete := deleted } handle object
    (result, ctx.publish state)

/-- `replace_backed_object`; the result says whether the object is a backed one. -/
def replaceBackedObject (ctx : SlotContext) (answers : Answers) (storage : StorageAnswers)
    (handle : ObjectHandle) (previous replacement : TokenObject) :
    Except Rv Bool × SlotContext :=
  match ctx.state.backedReference handle previous with
  | none => (.ok false, ctx)
  | some previousReference =>
    match placeOf { replacement with creatorSession := previous.creatorSession } with
    | .error error => (.error error, ctx)
    | .ok place =>
      match ctx.withStorage place (putBackedObject encode storage replacement) with
      | (.error error, ctx) => (.error error, ctx)
      | (.ok reference, ctx) =>
        let kept :=
          decide (reference = previousReference) ||
            ctx.state.backedReferenceIsShared handle previousReference previous
        let (deleted, ctx) :=
          if kept then (.ok true, ctx)
          else ctx.withStorage place (deleteRecord storage previousReference)
        let (result, state) :=
          ctx.state.replaceBackedObject
            { answers with put := .ok reference, delete := deleted } handle previous
            replacement
        (result, ctx.publish state)

/-- What a session knows about itself and the login when it makes a call. -/
def callAnswers (session : SessionContext) (answers : Answers) : Answers :=
  { answers with readWrite := session.readWrite, role := ctx.role }

/-- `destroy_object` (`C_DestroyObject`). -/
def destroyObject (ctx : SlotContext) (session : SessionHandle) (answers : Answers)
    (storage : StorageAnswers) (handle : ObjectHandle) : Except Rv Unit × SlotContext :=
  match ctx.getSession session with
  | .error error => (.error error, ctx)
  | .ok found =>
    let answers := ctx.callAnswers found answers
    match ctx.state.destroyAction answers handle with
    | .backed object =>
      let (result, ctx) := ctx.destroyBackedObject answers storage handle object
      (result.map fun _ => (), ctx)
    | _ =>
      let (result, state) := ctx.state.destroyObject answers handle
      (result, ctx.publish state)

/-- `set_attribute_value` (`C_SetAttributeValue`). -/
def setAttributeValue (ctx : SlotContext) (session : SessionHandle) (answers : Answers)
    (storage : StorageAnswers) (handle : ObjectHandle) (templ : List CkAttribute) :
    Except Rv Unit × SlotContext :=
  match ctx.getSession session with
  | .error error => (.error error, ctx)
  | .ok found =>
    let answers := ctx.callAnswers found answers
    let unbacked : Except Rv Unit × SlotContext :=
      let (result, state) := ctx.state.setAttributeValue answers handle templ
      (result, ctx.publish state)
    match ctx.state.setAction answers handle templ with
    | .publish previous updated =>
      if (ctx.state.backedReference handle previous).isSome then
        let (result, ctx) :=
          ctx.replaceBackedObject encode answers storage handle previous updated
        (result.map fun _ => (), ctx)
      else unbacked
    | _ => unbacked

/-! ## Searching for objects -/

/-- The loop of `find_objects_init` over the resolved objects; `matching` compares the attributes
of an object with the template. -/
def matchingHandles (loggedIn : Bool) (matching : ObjectHandle → TokenObject → Except Rv Bool) :
    List (ObjectHandle × TokenObject) → Except Rv (List ObjectHandle)
  | [] => .ok []
  | (handle, object) :: rest =>
    if object.isVisibleTo loggedIn = false then matchingHandles loggedIn matching rest
    else
      matching handle object >>= fun found =>
        matchingHandles loggedIn matching rest >>= fun handles =>
          .ok (if found then handle :: handles else handles)

/-- The handles that match, in ascending order. -/
def matchedObjects (loggedIn : Bool) (answers : Answers)
    (matching : ObjectHandle → TokenObject → Except Rv Bool) : Except Rv (List ObjectHandle) :=
  ctx.state.resolvedObjects answers >>= fun objects =>
    matchingHandles loggedIn matching objects >>= fun handles =>
      .ok (handles.insertionSort (· ≤ ·))

/-- The refresh of `find_objects_init`; `refreshBefore` is `refresh_token_objects_before_find`. -/
def refreshBeforeFind (answers : Answers) (refreshBefore : Bool) : Except Rv Unit × SlotContext :=
  if refreshBefore then
    match answers.command with
    | .error error => (.error error, ctx)
    | .ok () =>
      let (result, state) := ctx.state.refresh answers
      (result, ctx.publish state)
  else (.ok (), ctx)

def insertSessionObjects (ctx : SlotContext) (session : SessionHandle)
    (objects : Except Rv (List TokenObject)) : Except Rv Unit × SlotContext :=
  match objects with
  | .error error => (.error error, ctx)
  | .ok objects =>
    let (result, state) := SlotState.insertSessionObjects session objects ctx.state
    (result, ctx.publish state)

/-- `find_objects_init` (`C_FindObjectsInit`). -/
def findObjectsInit (session : SessionHandle) (answers : Answers) (refreshBefore : Bool)
    (sessionObjects : Except Rv (List TokenObject))
    (matching : ObjectHandle → TokenObject → Except Rv Bool) : Except Rv Unit × SlotContext :=
  match ctx.getSession session with
  | .error error => (.error error, ctx)
  | .ok found =>
    let loggedIn := ctx.userLoggedIn
    if found.findOperation.isSome then (.error .operationActive, ctx)
    else
      match ctx.refreshBeforeFind answers refreshBefore with
      | (.error error, ctx) => (.error error, ctx)
      | (.ok (), ctx) =>
        match ctx.insertSessionObjects session sessionObjects with
        | (.error error, ctx) => (.error error, ctx)
        | (.ok (), ctx) =>
          match ctx.matchedObjects loggedIn answers matching with
          | .error error => (.error error, ctx)
          | .ok objects =>
            (.ok (), ctx.setSession session
              { found with findOperation := some ⟨objects, 0⟩ })

/-- `find_objects` (`C_FindObjects`). -/
def findObjects (session : SessionHandle) (maxObjectCount : ℕ) :
    Except Rv (List ObjectHandle) × SlotContext :=
  match ctx.getSession session with
  | .error error => (.error error, ctx)
  | .ok found =>
    match found.findOperation with
    | none => (.error .operationNotInitialized, ctx)
    | some operation =>
      let (returned, operation) := operation.batch maxObjectCount
      (.ok returned, ctx.setSession session { found with findOperation := some operation })

/-- `find_objects_final` (`C_FindObjectsFinal`). -/
def findObjectsFinal (session : SessionHandle) : Except Rv Unit × SlotContext :=
  match ctx.getSession session with
  | .error error => (.error error, ctx)
  | .ok found =>
    match found.findOperation with
    | none => (.error .operationNotInitialized, ctx)
    | some _ => (.ok (), ctx.setSession session { found with findOperation := none })

/-! ## Other operations and session objects -/

/-- A change of the operations of a session: they start with `C_DigestInit` and the like, and end
with the last call of the operation or `C_SessionCancel`. -/
def changeOperations (session : SessionHandle)
    (operations : List OperationKind → List OperationKind) : Except Rv Unit × SlotContext :=
  match ctx.getSession session with
  | .error error => (.error error, ctx)
  | .ok found =>
    (.ok (), ctx.setSession session { found with operations := operations found.operations })

def insertObject (ctx : SlotContext) (session : SessionHandle) (object : TokenObject) :
    Except Rv ObjectHandle × SlotContext :=
  match ctx.getSession session with
  | .error error => (.error error, ctx)
  | .ok _ =>
    let (result, state) :=
      ctx.state.insertObject (object.setCreator session ctx.state.slotId)
    (result, ctx.publish state)

/-- `refresh_slot_token_objects` after a device command; `replaced` are the handles of objects that
the command has overwritten (`create_piv_object_in_slot`, `generate_piv_token_pair_in_slot`). -/
def refreshTokenObjects (answers : Answers) (replaced : List ObjectHandle) :
    Except Rv Unit × SlotContext :=
  match answers.command with
  | .error error => (.error error, ctx)
  | .ok () =>
    let (result, state) := (ctx.state.removeObjectHandles replaced).refresh answers
    (result, ctx.publish state)

end SlotContext

/-! ## Calls -/

/-- A call on a slot, with what the slot and the storage answer. -/
inductive SlotCall where
  | openSession (flags : OpenFlags) (answers : OpenAnswers)
  | closeSession (session : SessionHandle) (answers : LogoutAnswers)
  | closeAllSessions (answers : LogoutAnswers)
  /-- `C_Login` and `C_LoginUser`. -/
  | login (session : SessionHandle) (role : LoginRole) (answers : LoginAnswers)
  | logout (session : SessionHandle) (answers : LogoutAnswers)
  | initToken (command : Except Rv Unit) (lostAfter : Bool) (listing : Answers)
  | getSessionInfo (session : SessionHandle) (lost : Bool) (backend : Except Rv Unit)
  /-- The slot loses its login between two calls. -/
  | loseLogin
  | findObjectsInit (session : SessionHandle) (answers : Answers) (refreshBefore : Bool)
      (sessionObjects : Except Rv (List TokenObject))
      (matching : ObjectHandle → TokenObject → Except Rv Bool)
  | findObjects (session : SessionHandle) (maxObjectCount : ℕ)
  | findObjectsFinal (session : SessionHandle)
  | changeOperations (session : SessionHandle)
      (operations : List OperationKind → List OperationKind)
  | insertObject (session : SessionHandle) (object : TokenObject)
  | storeBackedObject (session : SessionHandle) (answers : Answers) (storage : StorageAnswers)
      (object : TokenObject)
  | destroyObject (session : SessionHandle) (answers : Answers) (storage : StorageAnswers)
      (handle : ObjectHandle)
  | setAttributeValue (session : SessionHandle) (answers : Answers) (storage : StorageAnswers)
      (handle : ObjectHandle) (templ : List CkAttribute)
  | refreshTokenObjects (answers : Answers) (replaced : List ObjectHandle)
  /-- Other slots take handles from the shared counters. -/
  | otherSlot (object session : Bool)

namespace SlotContext

variable (encode : BackedEncoding)

/-- The reply of a call that returns no handles. -/
def reply {α : Type} (result : Except Rv α × SlotContext) :
    Except Rv (List ObjectHandle) × SlotContext :=
  (result.1.map fun _ => [], result.2)

/-- Handles that other slots take. -/
def otherSlot (object session : Bool) : SlotContext :=
  let ctx :=
    match object, ctx.state.allocateObject with
    | true, some (_, state) => { ctx with state := state }
    | _, _ => ctx
  match session, ctx.allocateSession with
  | true, some (_, ctx) => ctx
  | _, _ => ctx

/-- Make a call; the handles in the reply are those that `C_FindObjects` returns. -/
def perform (ctx : SlotContext) : SlotCall → Except Rv (List ObjectHandle) × SlotContext
  | .openSession flags answers => reply (ctx.openSession flags answers)
  | .closeSession session answers => reply (ctx.closeSession session answers)
  | .closeAllSessions answers => reply (ctx.closeAllSessions answers)
  | .login session role answers => reply (ctx.login session role answers)
  | .logout session answers => reply (ctx.logout session answers)
  | .initToken command lostAfter listing => reply (ctx.initToken command lostAfter listing)
  | .getSessionInfo session lost backend => reply (ctx.getSessionInfo session lost backend)
  | .loseLogin => (.ok [], ctx.lose true)
  | .findObjectsInit session answers refreshBefore sessionObjects matching =>
    reply (ctx.findObjectsInit session answers refreshBefore sessionObjects matching)
  | .findObjects session maxObjectCount => ctx.findObjects session maxObjectCount
  | .findObjectsFinal session => reply (ctx.findObjectsFinal session)
  | .changeOperations session operations => reply (ctx.changeOperations session operations)
  | .insertObject session object => reply (ctx.insertObject session object)
  | .storeBackedObject session answers storage object =>
    reply (ctx.storeBackedObject encode answers storage session object)
  | .destroyObject session answers storage handle =>
    reply (ctx.destroyObject session answers storage handle)
  | .setAttributeValue session answers storage handle templ =>
    reply (ctx.setAttributeValue encode session answers storage handle templ)
  | .refreshTokenObjects answers replaced => reply (ctx.refreshTokenObjects answers replaced)
  | .otherSlot object session => (.ok [], ctx.otherSlot object session)

def after (ctx : SlotContext) (calls : List SlotCall) : SlotContext :=
  calls.foldl (fun ctx call => (ctx.perform encode call).2) ctx

end SlotContext

end Pkcs11rs.Model
