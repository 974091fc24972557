import Pkcs11rs.Model.SessionSecrets
import Pkcs11rs.Analysis.HandleReconciliation

/-!
# The session objects of the device are not left behind

A device object whose handle the module has read is the key of one PKCS #11 object, or the device is told
to delete it before the call returns (`NotLeaked`).  The checks of the access come before the creation.
Two things stay open: a reply that is not as long as it should be is given up with its handle, and when the
secure session ends while the value is read, the deletion cannot be sent
(`session_object_left_behind`).
-/

set_option autoImplicit false

namespace Pkcs11rs.Analysis

open Pkcs11rs.Library Pkcs11rs.Model SlotState

variable {handle' : ObjectHandle}

/-- No object of the slot has the device object as its key. -/
def Unreferenced (s : SlotState) (native : UInt64) : Prop :=
  ∀ handle object, mapGet s.memoryObjects handle = some object →
    object.nativeSessionObjectHandle ≠ some native

/-- An object of the session, and no other object of the slot, has the device object as its key. -/
structure HeldBy (s : SlotState) (session : Ulong) (native : UInt64) (handle : ObjectHandle) : Prop where
  held : ∃ object, mapGet s.memoryObjects handle = some object ∧ object.token = false ∧
    object.creatorSession = some session ∧ object.nativeSessionObjectHandle = some native
  alone : ∀ handle' object', mapGet s.memoryObjects handle' = some object' →
    object'.nativeSessionObjectHandle = some native → handle' = handle

/-- What becomes of the device object in a call. -/
def NotLeaked (session : Ulong) (native : UInt64) (after : SlotState × SecureLink) : Prop :=
  (∃ handle, HeldBy after.1 session native handle) ∨ .delete native ∈ after.2.sent ∨
    .read native ∈ after.2.sent ∧ after.2.active = false

variable {s s' : SlotState} {link : SecureLink} {native : UInt64} {session : Ulong}
  {object : TokenObject} {handle : ObjectHandle} {answer : Option (Except Rv Bytes)}

/-! ## Commands -/

/-- What has been sent stays sent. -/
theorem sent_command (link : SecureLink) (command : SessionObjectCommand)
    (answer : Option (Except Rv Bytes)) : link.sent ⊆ (link.command command answer).2.sent := by
  unfold SecureLink.command
  split_ifs
  · exact List.subset_append_left _ _
  · exact List.Subset.refl _

/-- A delete command is sent. -/
theorem NotLeaked.deleted (s : SlotState) (sent : List SessionObjectCommand)
    (answer : Option (Except Rv Bytes)) :
    NotLeaked session native (s, (SecureLink.command ⟨true, sent⟩ (.delete native) answer).2) :=
  .inr (.inl (by simp [SecureLink.command]))

/-! ## Objects -/

/-- An object is inserted. -/
theorem insertObject_ok (h : s.insertObject object = (.ok handle, s')) :
    handle.toNat = handleBound s ∧ handleBound s' = handleBound s + 1 ∧
      ∃ uniqueId, s'.memoryObjects =
        mapInsert s.memoryObjects handle { object with uniqueId := uniqueId } := by
  unfold insertObject at h
  cases halloc : s.allocateObject with
  | none => simp [halloc] at h
  | some given =>
    rw [halloc] at h
    obtain ⟨hhandle, rfl⟩ := Prod.mk.inj h
    cases hhandle
    obtain ⟨hnew, hbound, hs₁⟩ := allocateObject_spec halloc
    refine ⟨hnew, hbound, ?_⟩
    rw [hs₁]
    split_ifs
    · exact ⟨_, rfl⟩
    · exact ⟨object.uniqueId, rfl⟩

/-- The inserted object has the device object. -/
theorem insertObject_held (hfresh : Unreferenced s native)
    (h : s.insertObject (object.setCreator session s.slotId) = (.ok handle, s'))
    (htoken : object.token = false) (hnative : object.nativeSessionObjectHandle = some native) :
    HeldBy s' session native handle := by
  obtain ⟨-, -, uniqueId, hmemory⟩ := insertObject_ok h
  constructor
  · rw [hmemory]
    refine ⟨_, (mapGet_mapInsert _ _ _ _).trans (if_pos rfl), htoken, ?_, hnative⟩
    exact if_neg (by simp [htoken])
  · intro handle' object' hget hnative'
    rw [hmemory, mapGet_mapInsert] at hget
    split_ifs at hget with heq
    · exact heq
    · exact absurd hnative' (hfresh handle' object' hget)

section

variable (hs : HeldBy s session native handle) (hlt : handle.toNat < handleBound s)

include hs hlt

/-- Another object is inserted. -/
theorem HeldBy.insertObject (hother : object.nativeSessionObjectHandle ≠ some native)
    (h : s.insertObject (object.setCreator session s.slotId) = (.ok handle', s')) :
    HeldBy s' session native handle := by
  obtain ⟨hnew, -, uniqueId, hmemory⟩ := insertObject_ok h
  have hne : handle ≠ handle' := ne_of_lt_bound hlt hnew
  constructor
  · rw [hmemory, mapGet_mapInsert, if_neg hne]
    exact hs.held
  · intro handle₁ object₁ hget hnative
    rw [hmemory, mapGet_mapInsert] at hget
    split_ifs at hget with heq
    · cases hget
      exact absurd hnative hother
    · exact hs.alone handle₁ object₁ hget hnative

/-- A session object with other material is stored. -/
theorem HeldBy.storeBackedObject {storage : Answers} (htoken : object.token = false)
    (hother : object.nativeSessionObjectHandle ≠ some native)
    (h : s.storeBackedObject storage session object = (.ok handle', s')) :
    HeldBy s' session native handle := by
  unfold SlotState.storeBackedObject at h
  cases hput : storage.put with
  | error error => simp [hput] at h
  | ok reference =>
    simp only [hput, htoken, Bool.false_eq_true, ↓reduceIte] at h
    cases hinsert : s.insertObject (object.setCreator session s.slotId) with
    | mk result s₁ =>
      rw [hinsert] at h
      cases result with
      | error error => cases h
      | ok inserted =>
        obtain ⟨-, rfl⟩ := Prod.mk.inj h
        have hheld := hs.insertObject hlt hother hinsert
        exact ⟨hheld.held, hheld.alone⟩

end

/-! ## Calls -/

/-- The object is inserted or the device object deleted. -/
theorem insertOrDelete_cases (s : SlotState) (session : Ulong) (link : SecureLink) (object : TokenObject)
    (native : UInt64) (answer : Option (Except Rv Bytes)) :
    (∃ handle s', s.insertObject (object.setCreator session s.slotId) = (.ok handle, s') ∧
      s.insertOrDelete session link object native answer = (.ok handle, s', link)) ∨
    ∃ error s', s.insertOrDelete session link object native answer =
      (.error error, s', (link.command (.delete native) answer).2) := by
  unfold insertOrDelete
  generalize s.insertObject (object.setCreator session s.slotId) = inserted
  obtain ⟨result, s'⟩ := inserted
  cases result with
  | ok handle => exact .inl ⟨handle, s', rfl, rfl⟩
  | error error => exact .inr ⟨error, s', rfl⟩

section

variable (hfresh : Unreferenced s native) (answers : SessionObjectAnswers)
  (sent : List SessionObjectCommand)

include hfresh

/-- `publish_native_session_secret`. -/
theorem publish_notLeaked (object : TokenObject) (length : ℕ) : NotLeaked session native
      (s.publishNativeSessionSecret session answers ⟨true, sent⟩ object native length).2 := by
  unfold publishNativeSessionSecret
  split_ifs with htoken hnative hsecret
  · exact .deleted s sent _
  · rcases insertOrDelete_cases s session ⟨true, sent⟩
      { object with material := .external (.yubiHsmSessionObject native length) } native
      answers.deleted with ⟨handle, s', hinsert, heq⟩ | ⟨error, s', heq⟩
    · rw [heq]
      exact .inl ⟨handle, insertObject_held hfresh hinsert (by simpa using htoken) rfl⟩
    · rw [heq]
      exact .deleted s' sent _
  · exact .deleted s sent _
  · cases answers.read with
    | none =>
      -- the secure session ends with the read, and the deletion is not sent
      exact .inr (.inr ⟨by simp [SecureLink.command], rfl⟩)
    | some value =>
      have hdeleted : .delete native ∈ (SecureLink.command ⟨true, sent ++ [.read native]⟩
          (.delete native) answers.deleted).2.sent := by simp [SecureLink.command]
      cases value with
      | error error => exact .inr (.inl hdeleted)
      | ok value =>
        change NotLeaked session native (ite _ _ _ : _ × _ × _).2
        split_ifs with hlength
        · exact .inr (.inl hdeleted)
        · rcases insertOrDelete_cases s session _ { object with material := .softwareSecret value }
            native answers.deletedAgain with ⟨handle, s', -, heq⟩ | ⟨error, s', heq⟩
          · rw [heq]
            exact .inr (.inl hdeleted)
          · rw [heq]
            exact .inr (.inl (sent_command _ _ _ hdeleted))

/-- The public half is stored beside the private one, or the private one is given up. -/
theorem publishPair_notLeaked (storage : Answers) (parameters point : Bytes) (pair : SessionPair) :
    NotLeaked session native (s.publishSessionPair session answers ⟨true, sent⟩ storage parameters pair
      native point).2 := by
  unfold publishSessionPair
  rcases insertOrDelete_cases s session ⟨true, sent⟩
    { pair.privateObject with
      publicKey := some (.ec parameters point)
      material := .external (.yubiHsmSessionObject native 32) } native answers.deleted with
    ⟨handle, s₁, hinsert, heq⟩ | ⟨error, s₁, heq⟩
  · have hheld := insertObject_held hfresh hinsert pair.privateSession rfl
    obtain ⟨hnew, hbound, -⟩ := insertObject_ok hinsert
    simp only [heq]
    split
    · rename_i publicHandle s₂ hstored
      have hlt : handle.toNat < handleBound s₁ := by omega
      refine .inl ⟨handle, hheld.storeBackedObject hlt ?_ ?_ hstored⟩
      · exact pair.publicSession
      · simp [TokenObject.nativeSessionObjectHandle]
    · exact .deleted _ sent _
  · simp only [heq]
    exact .deleted s₁ sent _

end

/-- A call that sends the creation, with a reply that names the device object. -/
theorem create_notLeaked {α β : Type} {answers : SessionObjectAnswers} {active : Bool}
    {access : Except Rv Unit} {parse : Bytes → Except Rv α}
    {publish : SecureLink → α → Except Rv β × SlotState × SecureLink} {response : Bytes} {created : α}
    (hcreated : answers.created = some (.ok response)) (hparse : parse response = .ok created)
    (hpublish : ∀ sent, NotLeaked session native (publish ⟨true, sent⟩ created).2)
    (hsent : .create ∈
      (s.createSessionObject answers ⟨active, []⟩ access parse publish).2.2.sent) :
    NotLeaked session native (s.createSessionObject answers ⟨active, []⟩ access parse publish).2 := by
  unfold createSessionObject at hsent ⊢
  cases access with
  | error error => cases hsent
  | ok _ =>
    cases active with
    | false => cases hsent
    | true =>
      simp only [SecureLink.command, hcreated, Option.getD_some, ↓reduceIte, hparse]
      exact hpublish _

/-- Whatever the device, the counter of the handles and the storage answer, a call that creates a device
object with an unused handle and reads that handle leaves it to one object or has it deleted, unless the
secure session ends while the value is read. -/
theorem session_object_not_leaked (s : SlotState) (session : Ulong) (answers : SessionObjectAnswers)
    (active readWrite loggedIn : Bool) (native : UInt64) (response : Bytes)
    (hfresh : Unreferenced s native) (hcreated : answers.created = some (.ok response)) :
    (∀ object length, parseNativeSessionHandle response = .ok native →
      let after :=
        (s.deriveSessionSecret session answers ⟨active, []⟩ readWrite loggedIn object length).2
      .create ∈ after.2.sent → NotLeaked session native after) ∧
    ∀ point storage parameters pair, parseSessionPair response = .ok (native, point) →
      let after := (s.generateSessionPair session answers ⟨active, []⟩ storage parameters pair
        readWrite loggedIn).2
      .create ∈ after.2.sent → NotLeaked session native after := by
  constructor
  · intro object length hparse
    exact create_notLeaked hcreated hparse fun sent =>
      publish_notLeaked hfresh answers sent object length
  · intro point storage parameters pair hparse
    exact create_notLeaked hcreated hparse fun sent =>
      publishPair_notLeaked hfresh answers sent storage parameters point pair

/-- A derived key that may sign, which the device does not do for session objects. -/
def signingSecret : TokenObject :=
  { class_ := Cko.secretKey, keyType := Ckk.genericSecret, sign := true, extractable := true }

/-- A slot where another session has a device object. -/
def heldSlot : SlotState :=
  { empty 0 2 with
    memoryObjects := [(1, { signingSecret with
      creatorSession := some 2, material := .external (.yubiHsmSessionObject 5 2) })] }

/-- The device gives out the handle 7; the value is read and the device object deleted. -/
theorem session_object_not_leaked_read :
    NotLeaked 1 7 (heldSlot.deriveSessionSecret 1
      ⟨some (.ok [0, 0, 0, 0, 0, 0, 0, 7]), some (.ok [1, 2]), some (.ok []), none⟩ ⟨true, []⟩ true true
      signingSecret 2).2 := by
  have hfresh : Unreferenced heldSlot 7 := by
    intro handle object hget
    obtain ⟨-, rfl⟩ := Prod.mk.inj (List.mem_singleton.mp (mapGet_mem hget))
    decide
  exact (session_object_not_leaked heldSlot 1 _ true true true 7 [0, 0, 0, 0, 0, 0, 0, 7] hfresh rfl).1
    signingSecret 2 rfl (by decide)

/-- The secure session ends while the value is read; and a reply one byte too long. -/
theorem session_object_left_behind :
    (let after := ((empty 0 1).deriveSessionSecret 1
      ⟨some (.ok [0, 0, 0, 0, 0, 0, 0, 7]), none, none, none⟩ ⟨true, []⟩ true true signingSecret 2).2
    after.1 = empty 0 1 ∧ after.2.sent = [.create, .read 7]) ∧
    (let after := ((empty 0 1).deriveSessionSecret 1
      ⟨some (.ok [0, 0, 0, 0, 0, 0, 0, 7, 0]), none, none, none⟩ ⟨true, []⟩ true true signingSecret 2).2
    after.1 = empty 0 1 ∧ after.2.sent = [.create]) := by
  decide

end Pkcs11rs.Analysis
