import Mathlib.Logic.Function.Basic
import Pkcs11rs.Model.SlotSessions

/-!
# Routes of sessions

The registry knows the slot of a session handle (`context.rs:534-559`); the session itself is in the
context of the slot.  The two have different locks.  `C_OpenSession`, `C_CloseSession` and
`C_CloseAllSessions` take them one after the other (`api/session.rs:232-291`,
`api/session.rs:627-732`, `lib.rs:834-1000`), so a call is a sequence of sections: `RoutingEvent` has
an event for each section of a call, and `Pending` is what a thread carries from one section to the
next.

What a section does to its slot context is `Model.SlotSessions`.  Slots stay in the registry: only the
iOS build has `remove_slots`.
-/

set_option autoImplicit false

namespace Pkcs11rs.Model

open Pkcs11rs.Library

/-- What a call returns; `C_OpenSession` returns a handle. -/
abbrev SessionReply := Except Rv (Option SessionHandle)

/-- Where a thread is in its call. -/
inductive Pending where
  /-- The thread is in no call; `reply` is what the last one returned. -/
  | idle (reply : Option SessionReply)
  /-- `open_session_inner` has put the session into the slot context. -/
  | opening (slot : Ulong) (handle : SessionHandle)
  /-- `register_session` has failed; the session has to go again. -/
  | withdrawing (slot : Ulong) (handle : SessionHandle) (error : Rv)
  /-- `session_slot_context` has found the slot of the session to close. -/
  | closing (slot : Ulong) (handle : SessionHandle)
  /-- The sessions are gone from the slot context. -/
  | unregistering (handles : List SessionHandle) (result : SessionReply)
  deriving DecidableEq

/-- `ModuleContext` and the threads that use it. -/
structure ModuleContext (τ : Type) where
  /-- `SlotContextRegistry::slots`. -/
  slots : List (Ulong × SlotContext)
  /-- `SlotContextRegistry::session_slots`. -/
  sessionSlots : List (SessionHandle × Ulong)
  /-- `HandleCounters::next_session`. -/
  nextSession : UInt64
  pending : τ → Pending

/-- The sections of the calls.  `entry` is what stands before the body of a slot section: the slot
is visible and its device can be locked. -/
inductive RoutingEvent (τ : Type) where
  /-- `C_OpenSession` up to the end of its slot section. -/
  | openSession (thread : τ) (slot : Ulong) (flags : OpenFlags) (answers : OpenAnswers)
      (entry : Except Rv Unit)
  /-- The registry section of `C_OpenSession`. -/
  | register (thread : τ)
  /-- The slot section after a failed registration. -/
  | withdraw (thread : τ) (entry : Except Rv Unit)
  /-- `C_CloseSession` up to the end of the section that looks the slot up. -/
  | closeSession (thread : τ) (handle : SessionHandle)
  /-- The slot section of `C_CloseSession`. -/
  | closeSection (thread : τ) (answers : LogoutAnswers) (entry : Except Rv Unit)
  /-- `C_CloseAllSessions` up to the end of its slot section. -/
  | closeAllSessions (thread : τ) (slot : Ulong) (answers : LogoutAnswers) (entry : Except Rv Unit)
  /-- The registry section at the end of the last two. -/
  | unregister (thread : τ)

namespace ModuleContext

variable {τ : Type} [DecidableEq τ] (m : ModuleContext τ)

/-- The thread goes on to another point. -/
def goOn (thread : τ) (pending : Pending) : ModuleContext τ :=
  { m with pending := Function.update m.pending thread pending }

/-- The call of the thread returns. -/
def reply (thread : τ) (result : SessionReply) : ModuleContext τ :=
  m.goOn thread (.idle (some result))

variable (slot : Ulong)

/-- The context of a slot at the end of a section. -/
def setSlot (ctx : SlotContext) : ModuleContext τ :=
  { m with slots := mapInsert m.slots slot ctx }

def registerSession (handle : SessionHandle) (slot : Ulong) : Except Rv (ModuleContext τ) :=
  if mapHas m.slots slot = false then .error .sessionHandleInvalid
  else if mapHas m.sessionSlots handle then .error .sessionHandleInvalid
  else .ok { m with sessionSlots := mapInsert m.sessionSlots handle slot }

/-- `unregister_session_slots_in_context`. -/
def unregisterSessions (handles : List SessionHandle) : ModuleContext τ :=
  { m with sessionSlots := handles.foldl mapRemove m.sessionSlots }

def sessionSlotContext (handle : SessionHandle) : Except Rv Ulong :=
  match mapGet m.sessionSlots handle with
  | none => .error .sessionHandleInvalid
  | some slot => if mapHas m.slots slot then .ok slot else .error .sessionHandleInvalid

/-- `slot_context` and the locks of `with_slot_context_mut_in_context`. -/
def slotContext (entry : Except Rv Unit) : Except Rv SlotContext :=
  match mapGet m.slots slot with
  | none => .error .slotIdInvalid
  | some ctx => entry >>= fun _ => .ok ctx

/-- The slot section of `open_session_inner`. -/
def openSection (thread : τ) (slot : Ulong) (flags : OpenFlags) (answers : OpenAnswers)
    (entry : Except Rv Unit) : ModuleContext τ :=
  match m.slotContext slot entry with
  | .error error => m.reply thread (.error error)
  | .ok ctx =>
    -- the registration follows in a section of its own
    let answers := { answers with registered := .ok () }
    match { ctx with nextSession := m.nextSession }.openSession flags answers with
    | (.error error, ctx) =>
      { m.setSlot slot ctx with nextSession := ctx.nextSession }.reply thread (.error error)
    | (.ok handle, ctx) =>
      { m.setSlot slot ctx with nextSession := ctx.nextSession }.goOn thread
        (.opening slot handle)

/-- The slot section after a failed registration; its own failure is ignored. -/
def withdrawSection (thread : τ) (slot : Ulong) (handle : SessionHandle) (error : Rv)
    (entry : Except Rv Unit) : ModuleContext τ :=
  match m.slotContext slot entry with
  | .error _ => m.reply thread (.error error)
  | .ok ctx =>
    (m.setSlot slot { ctx with sessions := mapRemove ctx.sessions handle }).reply thread
      (.error error)

def closeSection (thread : τ) (slot : Ulong) (handle : SessionHandle) (answers : LogoutAnswers)
    (entry : Except Rv Unit) : ModuleContext τ :=
  match m.slotContext slot entry with
  | .error error => m.reply thread (.error error)
  | .ok ctx =>
    match ctx.getSession handle with
    | .error error => m.reply thread (.error error)
    | .ok _ =>
      let (result, ctx) := ctx.closeSession handle answers
      (m.setSlot slot ctx).goOn thread
        (.unregistering [handle] (result.map fun _ => none))

/-- The slot section of `C_CloseAllSessions`. -/
def closeAllSection (thread : τ) (slot : Ulong) (answers : LogoutAnswers) (entry : Except Rv Unit) :
    ModuleContext τ :=
  match m.slotContext slot entry with
  | .error error => m.goOn thread (.unregistering [] (.error error))
  | .ok ctx =>
    let closedSessions := keys ctx.sessions
    let (result, ctx) := ctx.closeAllSessions answers
    (m.setSlot slot ctx).goOn thread
      (.unregistering closedSessions (result.map fun _ => none))

/-- A section runs; there is no step when the thread is elsewhere. -/
def step : RoutingEvent τ → Option (ModuleContext τ)
  | .openSession thread slot flags answers entry =>
    match m.pending thread with
    | .idle _ => some (m.openSection thread slot flags answers entry)
    | _ => none
  | .register thread =>
    match m.pending thread with
    | .opening slot handle =>
      match m.registerSession handle slot with
      | .ok m => some (m.reply thread (.ok (some handle)))
      | .error error => some (m.goOn thread (.withdrawing slot handle error))
    | _ => none
  | .withdraw thread entry =>
    match m.pending thread with
    | .withdrawing slot handle error => some (m.withdrawSection thread slot handle error entry)
    | _ => none
  | .closeSession thread handle =>
    match m.pending thread with
    | .idle _ =>
      match m.sessionSlotContext handle with
      | .error error => some (m.reply thread (.error error))
      | .ok slot => some (m.goOn thread (.closing slot handle))
    | _ => none
  | .closeSection thread answers entry =>
    match m.pending thread with
    | .closing slot handle => some (m.closeSection thread slot handle answers entry)
    | _ => none
  | .closeAllSessions thread slot answers entry =>
    match m.pending thread with
    | .idle _ => some (m.closeAllSection thread slot answers entry)
    | _ => none
  | .unregister thread =>
    match m.pending thread with
    | .unregistering handles result => some ((m.unregisterSessions handles).reply thread result)
    | _ => none

/-- No call is in progress. -/
def Quiet : Prop := ∀ thread, ∃ reply, m.pending thread = .idle reply

/-- A module whose slots have no sessions. -/
structure Fresh (m : ModuleContext τ) : Prop where
  sessions : ∀ entry ∈ m.slots, entry.2.sessions = []
  routes : m.sessionSlots = []
  quiet : m.Quiet

end ModuleContext

end Pkcs11rs.Model
