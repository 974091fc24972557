import Pkcs11rs.Library.LockOrder

/-!
# The locks of API calls

Every API call is the sequence of locks that it takes (`lib.rs:801-998`): the module lock, which is only
tried, the registry of slots, the mutex of a slot and the operation lock of its device
(`device.rs:122-154`).  While it has them, a login, the recreation of a secure channel or session and the
release of a bound credential use a session on another slot through a provider
(`pkcs11_provider.rs:95-183`): they take the mutex of that slot and the lock of its device, and may need a
session on a third slot in turn.  A provider has a module context of its own, so neither the module lock nor
the registry is taken again.

A credential is selected among the registered slots that match a selector (`auth_slots.rs:35-76`,
`auth_slots.rs:178-298`, `context.rs:924-948`).  Such a slot is looked at with `try_lock`, and the guard is
dropped; then a session is opened on it, asked for its state and closed, each with `lock`, whether the slot
becomes the source or not.  A call goes on with or without the source.

A slot or a device that a discovery is creating is not shared yet, so its locks are left out until it is.
Slots and devices are elements of arbitrary types.
-/

set_option autoImplicit false

namespace Pkcs11rs.Model

open Pkcs11rs.Library

inductive LockId (S D : Type) where
  | module
  /-- `slot_contexts`. -/
  | registry
  | slot (slot : S)
  /-- `DeviceContext::operation`. -/
  | device (device : D)
  deriving DecidableEq

inductive DeviceOperationKind where
  | hid
  | ccid
  deriving DecidableEq

/-- HID operations share a device. -/
def DeviceOperationKind.mode : DeviceOperationKind → LockMode
  | hid => .shared
  | ccid => .exclusive

/-- Which device a slot is on, and how it uses it. -/
structure SlotLayout (S D : Type) where
  device : S → Option D
  operationKind : S → DeviceOperationKind

/-- What is done with slots, one thing after the other. -/
inductive LockScript (S D : Type) where
  | done
  /-- A slot is looked at with `try_lock`; the call goes on in one of two ways. -/
  | select (slot : S) (found missed : LockScript S D)
  /-- The mutex of a slot is taken, and with `operate` the lock of its device; `body` is done meanwhile. -/
  | use (slot : S) (operate : Bool) (body rest : LockScript S D)
  /-- A reader is probed under the lock of its device. -/
  | probe (device : D) (rest : LockScript S D)

variable {S D : Type}

/-- `device.lock_operation(kind)`, held during a body. -/
def lockOperation (layout : SlotLayout S D) (slot : S) (operate : Bool)
    (body : LockProgram (LockId S D) → LockProgram (LockId S D))
    (rest : LockProgram (LockId S D)) : LockProgram (LockId S D) :=
  match operate, layout.device slot with
  | true, some device =>
    .acquire (.device device) (layout.operationKind slot).mode
      (body (.release (.device device) rest))
  | _, _ => body rest

/-- The locks of a script, before what follows it. -/
def LockScript.program (layout : SlotLayout S D) :
    LockScript S D → LockProgram (LockId S D) → LockProgram (LockId S D)
  | done => fun rest => rest
  | select slot found missed => fun rest =>
    .tryAcquire (.slot slot) .exclusive (.release (.slot slot) (found.program layout rest))
      (missed.program layout rest)
  | use slot operate body after => fun rest =>
    .acquire (.slot slot) .exclusive
      (lockOperation layout slot operate (body.program layout)
        (.release (.slot slot) (after.program layout rest)))
  | probe device after => fun rest =>
    .acquire (.device device) .exclusive (.release (.device device) (after.program layout rest))

/-- A part of a call: what is done with slots, while the registry is held or not. -/
structure CallPart (S D : Type) where
  registry : Option LockMode
  script : LockScript S D

/-- The locks of a part, before what follows it. -/
def CallPart.program (layout : SlotLayout S D) (part : CallPart S D)
    (rest : LockProgram (LockId S D)) : LockProgram (LockId S D) :=
  match part.registry with
  | none => part.script.program layout rest
  | some mode => .acquire .registry mode (part.script.program layout (.release .registry rest))

/-- Slots are used one after the other, each with its own body. -/
def useEach (operate : Bool) (uses : List (S × LockScript S D)) : LockScript S D :=
  uses.foldr (fun entry rest => .use entry.1 operate entry.2 rest) .done

/-- `ModuleContext::init`: the first call discovers devices under the registry, and refreshes slots. -/
def initParts (discovery : LockScript S D) : List (CallPart S D) :=
  [⟨some .exclusive, discovery⟩]

/-- `slot_context`: the slot is looked up and its visibility is checked. -/
def slotContext (discovery : LockScript S D) (slot : S) : List (CallPart S D) :=
  initParts discovery ++ [⟨some .shared, .done⟩, ⟨none, .use slot false .done .done⟩]

/-- `with_slot_context` and `with_slot_context_mut_in_context`. -/
def withSlotContext (discovery : LockScript S D) (slot : S) (body : LockScript S D) :
    List (CallPart S D) :=
  slotContext discovery slot ++ [⟨none, .use slot true body .done⟩]

/-- `with_session_context` and `with_session_context_mut_in_context`. -/
def withSessionContext (slot : S) (body : LockScript S D) : List (CallPart S D) :=
  [⟨some .shared, .done⟩, ⟨none, .use slot true body .done⟩]

/-- `reconcile_discovery_snapshot`: every new candidate is prepared without the registry. -/
def reconcileDiscoverySnapshot (prepares : List (LockScript S D)) : List (CallPart S D) :=
  ⟨some .shared, .done⟩ ::
    prepares.flatMap fun prepare => [⟨some .shared, .done⟩, ⟨none, prepare⟩, ⟨some .exclusive, .done⟩]

def refreshRegisteredSlots (refreshes : List (S × LockScript S D)) : List (CallPart S D) :=
  [⟨some .shared, .done⟩, ⟨none, useEach true refreshes⟩]

/-- `refresh_discovery_inner`: readers are reconciled under the registry, then the snapshots and slots. -/
def refreshDiscovery (readers : LockScript S D) (snapshots : List (List (LockScript S D)))
    (refreshes : List (S × LockScript S D)) : List (CallPart S D) :=
  ⟨some .exclusive, readers⟩ ::
    (snapshots.flatMap reconcileDiscoverySnapshot ++ refreshRegisteredSlots refreshes)

/-- The API calls, with the slots that they find and what they do on the way. -/
inductive ApiCall (S D : Type) where
  /-- A call on a slot. -/
  | onSlot (discovery : LockScript S D) (slot : S) (body : LockScript S D)
  /-- A call on a session. -/
  | onSession (slot : S) (body : LockScript S D)
  /-- `cleanup` says that the session could not be registered. -/
  | openSession (discovery : LockScript S D) (slot : S) (body : LockScript S D) (cleanup : Bool)
  | closeSession (slot : S) (body : LockScript S D)
  | closeAllSessions (discovery : LockScript S D) (slot : S) (body : LockScript S D)
  | getSlotList (discovery readers : LockScript S D) (snapshots : List (List (LockScript S D)))
      (refreshes : List (S × LockScript S D)) (listed : List S)
  /-- Each slot with what its logout does, and the sessions that go with the module context. -/
  | finalize (logouts : List (S × LockScript S D)) (dropped : LockScript S D)

/-- What the call does after it has the module lock. -/
def ApiCall.parts : ApiCall S D → List (CallPart S D)
  | onSlot discovery slot body => withSlotContext discovery slot body
  | onSession slot body => withSessionContext slot body
  | openSession discovery slot body cleanup =>
    withSlotContext discovery slot body ++ [⟨some .exclusive, .done⟩] ++
      if cleanup then withSlotContext .done slot .done else []
  | closeSession slot body => withSessionContext slot body ++ [⟨some .exclusive, .done⟩]
  | closeAllSessions discovery slot body =>
    withSlotContext discovery slot body ++ [⟨some .exclusive, .done⟩]
  | getSlotList discovery readers snapshots refreshes listed =>
    initParts discovery ++ refreshDiscovery readers snapshots refreshes ++
      [⟨some .shared, useEach false (listed.map fun slot => (slot, .done))⟩]
  | finalize logouts dropped => [⟨some .shared, useEach false logouts⟩, ⟨none, dropped⟩]

/-- `lock_context_read` or, for `C_Finalize`, `lock_context_write`. -/
def ApiCall.moduleMode : ApiCall S D → LockMode
  | finalize _ _ => .exclusive
  | _ => .shared

/-- The locks of a call; without the module lock it fails at once. -/
def ApiCall.program (layout : SlotLayout S D) (call : ApiCall S D) : LockProgram (LockId S D) :=
  .tryAcquire .module call.moduleMode
    (call.parts.foldr (CallPart.program layout) (.release .module .done)) .done

/-- Inside the mutex of a slot a script uses the sources of that slot and the slots that its selectors match,
and it probes no reader. -/
def LockScript.Follows (source candidate : S → S → Prop) : Option S → LockScript S D → Prop
  | _, done => True
  | target, select slot found missed =>
    (∀ t, target = some t → candidate t slot) ∧ found.Follows source candidate target ∧
      missed.Follows source candidate target
  | target, use slot _ body rest =>
    (∀ t, target = some t → source t slot ∨ candidate t slot) ∧
      body.Follows source candidate (some slot) ∧ rest.Follows source candidate target
  | target, probe _ rest => target = none ∧ rest.Follows source candidate target

/-- The scripts of a call use the sources that are assigned to the slots, and select among the candidates. -/
def ApiCall.Follows (source candidate : S → S → Prop) (call : ApiCall S D) : Prop :=
  ∀ part ∈ call.parts, part.script.Follows source candidate none

/-- The calls of a module whose slots are arranged in a layout, with an assignment of sources and the slots
that the selectors match. -/
def CallPrograms (layout : SlotLayout S D) (source candidate : S → S → Prop)
    (program : LockProgram (LockId S D)) : Prop :=
  ∃ call : ApiCall S D, call.Follows source candidate ∧ program = call.program layout

end Pkcs11rs.Model
