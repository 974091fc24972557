import Pkcs11rs.Analysis.DiscoverySession
import Pkcs11rs.Library.Runs

/-!
# Discovery sessions do no user work

After every call the trace is clean, native session objects are private, and those and the operations
with them are gone with the login (`SlotInvariant`).  A call whose commands are not all reads finds the
session of the user when it begins, and `Considerate` says when no discovery session takes its place before
the call ends.  So in every run of considerate calls a discovery session carries reads only, and nothing
else is sent between the end of a user's session and the next login
(`discovery_session_does_no_user_work`).

The calls that check no login for what they do need the caller to be logged in (`unguarded`): a public
token object is created without a login, a device encapsulates for its public key, and the certificate of
an attestation is signed when its value is read.  A call of many steps is safe if the connector does not
reconnect meanwhile (`manySteps`), and an import, which deletes what it has not published, if the session is
not lost either (`imports`).  `discovery_session_does_user_work` has runs of calls that are not considerate.
-/

set_option autoImplicit false

namespace Pkcs11rs.Analysis

open Pkcs11rs.Library Pkcs11rs.Model Script SecureSlot HsmCall List

variable {script : HsmScript Bool} {projection : ProjectionPlan} {s s' : SecureSlot}
  {answers : List HsmAnswer} {object : NewObject} {readWrite : Bool} {publish : PublishPlan}
  {created : List (ℕ × NativeSecret)} {values : List ValueRead} {value : ValueRead}

/-! ### The scripts of calls of many steps -/

variable (reads : List DiscoveryRead)

/-- The objects are discovered. -/
theorem calm_backendTokenObjects : KeepsCalm (backendTokenObjects reads) :=
  calm_of_all (all_backendTokenObjects reads fun _ _ hrequest => hrequest)

variable (code : CommandCode)

/-- One command. -/
theorem calm_command : KeepsCalm (command code) :=
  calm_base.command code

/-- A command whose failure ends the script. -/
theorem settled_command : Meets Connected Calm (command code) fun _ => Calm :=
  settled_of_all (all_ask nofun)

/-- A scan of the storage. -/
theorem calm_storageScan (scan : StorageScan) : KeepsCalm (storageScan scan) := by
  refine triple_and (calm_of_all ?_) (calm_base.storageValues scan.values)
  refine all_bind (all_ask nofun) fun _ => ?_
  exact all_ite (all_discoverObjects scan.reads fun _ _ hrequest => hrequest) (all_pure true)

/-- Scans of the storage. -/
theorem calm_storageScans (scans : List StorageScan) :
    KeepsCalm (storageScans scans) := by
  induction scans with
  | nil => exact calm_base.pure true
  | cons scan scans ih => exact triple_and (calm_storageScan scan) ih

/-- A refresh. -/
theorem calm_refresh (plan : RefreshPlan) : KeepsCalm (refreshSlotTokenObjects plan) :=
  triple_and (calm_backendTokenObjects plan.reads)
    (triple_and (calm_storageScans plan.scans) (calm_base.pure plan.decoded))

/-- A script and a refresh after it. -/
theorem calm_thenRefresh (hscript : KeepsCalm script) (plan : RefreshPlan) :
    KeepsCalm (thenRefresh script plan) :=
  triple_and hscript (calm_refresh plan)

/-- A companion is written. -/
theorem calm_writeCompanion (overwrite tooLong : Bool) (put : StoragePut) :
    KeepsCalm (writeCompanion overwrite tooLong put) := by
  refine calm_base.ite ?_ (calm_base.storagePut put)
  refine triple_bind (settled_command .putOpaque) fun ok => ?_
  exact calm_base.ite (calm_base.pure true)
    (calm_base.ite (calm_base.storagePut put) (calm_base.pure false))

/-- Metadata are replaced. -/
theorem calm_replacePkcs11Metadata (plan : MetadataPlan) :
    KeepsCalm (replacePkcs11Metadata plan) := by
  refine calm_base.ite ?_ (calm_base.pure false)
  refine triple_and (calm_base.storageValues plan.oldValues) ?_
  cases plan.change with
  | unchanged => exact calm_base.pure true
  | refused => exact calm_base.pure false
  | erase deletions => exact calm_base.storageDeletions deletions
  | replace overwrite tooLong put deletions =>
    exact triple_and (calm_writeCompanion overwrite tooLong put)
      (calm_base.storageDeletions deletions)

/-- A last command, of which the reply is not looked at. -/
theorem calm_lastCommand : KeepsCalm (command code >>= fun _ => pure false) :=
  triple_bind (settled_command code) fun _ => calm_base.pure false

/-- A public projection is detached. -/
theorem calm_detachPublic (plan : DetachPlan) : KeepsCalm (detachPublic plan) := by
  refine triple_and (calm_storageScan plan.scan) ?_
  refine triple_and (calm_base.storageValues plan.linkedValues) ?_
  refine triple_and (calm_base.deletions 1) ?_
  refine calm_base.ite (calm_base.pure true) ?_
  refine triple_bind (settled_command .putOpaque) fun ok => ?_
  exact calm_base.ite (calm_base.pure true) (calm_lastCommand .putOpaque)

/-- A companion is restored. -/
theorem calm_restoreCompanion (detach : Option DetachPlan) :
    KeepsCalm (restoreCompanion detach) := by
  cases detach with
  | none => exact calm_base.pure false
  | some plan =>
    refine calm_base.ite (calm_lastCommand .putOpaque) ?_
    exact triple_bind (settled_command .deleteObject) fun _ => calm_lastCommand .putOpaque

/-- A native object is destroyed. -/
theorem calm_destroyNativeObject (plan : DestroyPlan) :
    KeepsCalm (destroyNativeObject plan) := by
  have hdetach : KeepsCalm (detachIfPublic plan.detach) := by
    cases plan.detach with
    | none => exact calm_base.pure true
    | some detach => exact calm_detachPublic detach
  refine calm_base.ite ?_ (calm_base.pure false)
  refine triple_and hdetach ?_
  refine triple_bind (settled_command .deleteObject) fun ok => ?_
  exact calm_base.ite (calm_base.deletions plan.obsolete) (calm_restoreCompanion plan.detach)

/-- A refresh that is made after a failure, too. -/
theorem calm_describe (metadata : MetadataPlan) (refresh : RefreshPlan) :
    KeepsCalm (do
      let described ← replacePkcs11Metadata metadata
      let refreshed ← refreshSlotTokenObjects refresh
      pure (described && refreshed)) := by
  refine triple_bind (calm_replacePkcs11Metadata metadata) fun described => ?_
  cases described with
  | true =>
    refine triple_bind (triple_consequence (calm_refresh refresh)
      (fun s hs => outcome_true.mp hs) fun _ _ hs => hs) fun refreshed => ?_
    exact triple_pure fun s hs => hs
  | false =>
    refine triple_bind (M := fun _ => Sound)
      (triple_consequence
        (sound_of_readOnly connected_quiet (readOnly_refreshSlotTokenObjects refresh))
        (fun s hs => outcome_false.mp hs) fun _ _ hs => hs) fun refreshed => ?_
    exact triple_pure fun s hs => outcome_false.mpr hs

/-- A token object is published. -/
theorem calm_publishTokenObject (plan : PublishPlan) :
    KeepsCalm (publishTokenObject plan) := by
  refine triple_and (calm_refresh plan.refresh) ?_
  refine triple_and (calm_backendTokenObjects plan.resolved) ?_
  exact calm_base.ite (calm_describe plan.metadata plan.refreshed) (calm_base.pure false)

/-- A token key is generated. -/
theorem calm_generateTokenKey (hmac parsed : Bool) (publish : PublishPlan) :
    KeepsCalm (generateTokenKey hmac parsed publish) :=
  triple_and (calm_command _)
    (calm_base.ite (calm_publishTokenObject publish) (calm_base.pure false))

/-- A public projection is stored. -/
theorem calm_persistPublicProjection (metadata : MetadataPlan) (refresh : RefreshPlan)
    (resolved : List DiscoveryRead) :
    KeepsCalm (persistPublicProjection metadata refresh resolved) :=
  triple_and (calm_replacePkcs11Metadata metadata)
    (triple_and (calm_refresh refresh) (calm_backendTokenObjects resolved))

/-- A pair whose public key is not imported. -/
theorem calm_generateTokenPair {wrapKey parsed : Bool}
    (hprojection : KeepsCalm (projectPublic projection)) :
    KeepsCalm (generateTokenPair wrapKey parsed publish projection) := by
  refine triple_and (calm_command _) (calm_base.ite ?_ (calm_base.pure false))
  refine triple_and (calm_publishTokenObject publish) ?_
  exact triple_bind (M := fun _ => Calm) (settled_of_all (all_ask nofun)) fun _ => hprojection

/-- A key is unwrapped. -/
theorem calm_unwrapKey (plan : UnwrapPlan) : KeepsCalm (unwrapKey plan) := by
  refine triple_and (calm_command _) (calm_base.ite (calm_base.ite ?_ ?_) (calm_base.pure false))
  · refine calm_base.ite (calm_publishTokenObject plan.publish) ?_
    exact triple_and (calm_refresh plan.refresh) (calm_backendTokenObjects plan.publish.resolved)
  · refine triple_bind (settled_command .deleteObject) fun _ => ?_
    refine triple_bind (M := fun _ => Sound) (triple_consequence
      (sound_of_readOnly connected_quiet (readOnly_refreshSlotTokenObjects plan.refresh))
      (fun s hs => hs.1.1) fun _ _ hs => hs) fun _ => ?_
    exact triple_pure fun s hs => outcome_false.mpr hs

/-- A backed object is stored. -/
theorem calm_storeBackedObject (puts : List StoragePut) (refresh : RefreshPlan) :
    KeepsCalm (storeBackedObject puts refresh) := by
  refine triple_and (calm_of_all (all_ask nofun)) ?_
  exact triple_and (calm_base.storagePuts puts) (calm_refresh refresh)

/-- A credential is provisioned. -/
theorem calm_provisionPlatformCredential (plan : ProvisionPlan) :
    KeepsCalm (provisionPlatformCredential plan) := by
  have hprojection : KeepsCalm (provisionProjection plan.projection) := by
    rcases plan.projection with _ | ⟨puts, refresh⟩
    · exact calm_base.pure true
    · exact calm_storeBackedObject puts refresh
  have hrollback : KeepsCalm (rollbackProjection plan) :=
    calm_base.ite (calm_thenRefresh (calm_base.storageDelete plan.rollback) plan.rollbackRefresh)
      (calm_base.pure true)
  refine triple_and (calm_refresh plan.refresh) ?_
  refine triple_and (calm_backendTokenObjects plan.resolved) ?_
  refine calm_base.ite (triple_and hprojection ?_) (calm_base.pure false)
  refine triple_bind (settled_command .putAuthenticationKey) fun created => ?_
  refine calm_base.ite (calm_refresh plan.finish) ?_
  refine triple_bind hrollback fun ok => ?_
  refine triple_pure fun s hs => outcome_false.mpr ?_
  cases ok with
  | true => exact (outcome_true.mp hs).1.1
  | false => exact outcome_false.mp hs

/-- A credential is removed. -/
theorem calm_unprovisionPlatformCredential (plan : UnprovisionPlan) :
    KeepsCalm (unprovisionPlatformCredential plan) := by
  have hkey : KeepsCalm (unprovisionKey plan.key) := by
    rcases plan.key with _ | ⟨destroy, refresh⟩
    · exact calm_base.pure true
    · exact calm_thenRefresh (calm_destroyNativeObject destroy) refresh
  have hprojection : KeepsCalm (unprovisionProjection plan.projection) := by
    rcases plan.projection with _ | ⟨deletion, refresh⟩
    · exact calm_base.pure true
    · exact calm_thenRefresh (calm_base.storageDelete deletion) refresh
  refine triple_and (calm_refresh plan.refresh) ?_
  refine triple_and (calm_backendTokenObjects plan.resolved) ?_
  refine calm_base.ite ?_ (calm_base.pure false)
  refine triple_and hkey ?_
  exact triple_and (calm_backendTokenObjects plan.resolvedAgain) hprojection

/-- Values are read. -/
theorem calm_valueScripts (s : SecureSlot) (values : List ValueRead) :
    KeepsCalm (s.valueScripts values) := by
  have hvalue : ∀ value, KeepsCalm (s.valueScript value) := by
    intro value
    cases value with
    | stored read =>
      refine triple_bind (M := fun _ => Calm) (settled_of_all (all_ask nofun)) fun _ => ?_
      exact calm_base.ite (calm_of_all (keeps_readObjectValueById read))
        (calm_readWithPublicDiscovery read)
    | native object => exact calm_base.ite (calm_command .sessionObject) (calm_base.pure true)
    | attestation =>
      exact triple_bind (settled_command .signAttestationCertificate) fun _ =>
        calm_base.pure true
  induction values with
  | nil => exact calm_base.pure true
  | cons value values ih => exact triple_and (hvalue value) ih

/-! ### Stored objects, which are written while the session of the user is there -/

/-- A script behind `supports_mutation`. -/
theorem sound_behind_isUser (hscript : Meets (fun _ => True) WithUser script fun _ => Sound) :
    Meets (fun _ => True) Sound (ask .isUser >>= fun ok => if ok = true then script else pure false)
      fun _ => Sound := by
  refine triple_bind (M := fun ok s => Sound s ∧ (ok = true → WithUser s))
    (triple_request (M := fun ok s => Sound s ∧ (ok = true → WithUser s)) trivial
      (fun s _ _ hs => ⟨hs, fun huser => ⟨hs, huser⟩⟩) fun ok => triple_done fun _ hs => hs)
    fun ok => ?_
  refine triple_ite (fun hok => ?_) fun _ => triple_pure fun s hs => hs.1
  exact triple_consequence hscript (fun s hs => hs.2 hok) fun _ _ hs => hs

/-- A backed object is stored in any state. -/
theorem sound_storeBackedObject (puts : List StoragePut) (refresh : RefreshPlan) :
    Meets (fun _ => True) Sound (storeBackedObject puts refresh) fun _ => Sound :=
  sound_behind_isUser (firm_base.refresh (firm_base.storagePuts puts) refresh)

/-- A backed object is replaced in any state. -/
theorem sound_replaceBackedObject (puts : List StoragePut) (deletion : Option StorageDeletion)
    (refresh : RefreshPlan) :
    Meets (fun _ => True) Sound (replaceBackedObject puts deletion refresh) fun _ => Sound := by
  refine sound_behind_isUser (triple_bind (firm_base.storagePuts puts) fun ok => ?_)
  cases ok with
  | false => exact triple_pure fun s hs => outcome_false.mp hs
  | true =>
    cases deletion with
    | none =>
      refine triple_consequence
        (sound_of_readOnly trivial (readOnly_refreshSlotTokenObjects refresh)) ?_ fun _ _ hs => hs
      exact fun s hs => (outcome_true.mp hs).1
    | some deletion =>
      refine triple_consequence
        (firm_base.refresh (firm_base.storageDelete deletion) refresh) ?_ fun _ _ hs => hs
      exact fun s hs => outcome_true.mp hs

/-! ### Considerate calls -/

/-- The call checks no login for a command that is not a read. -/
def unguarded : HsmCall → Bool
  | .findObjectsInit _ values => values.any fun value => value = .attestation
  | .getAttributeValue value _ => value = .attestation
  | .createObject object _ (.imported _) => object.token && !object.private_
  | .generateKey object _ _ _ _ => !object.private_
  | .generateKeyPair privateObject publicObject _ _ _ _ _ =>
    !privateObject.private_ && !publicObject.private_
  | .encapsulateKey _ => true
  | _ => false

/-- The value of an object that the device lists. -/
def isStored : ValueRead → Bool
  | .stored _ => true
  | _ => false

/-- The call reads or refreshes between its commands. -/
def manySteps : HsmCall → Bool
  | .findObjectsInit _ values => values.any fun value => !isStored value
  | .setKeyAttributes _ _ => true
  | .destroyKey _ _ _ => true
  | .destroyProjection _ _ => true
  | .generateKey _ _ _ _ _ => true
  | .generateKeyPair _ _ _ _ _ _ _ => true
  | .derivePublicKey _ _ (.companion _ _ _) => true
  | .unwrapKey _ _ => true
  | .provisionPlatformCredential _ _ => true
  | .unprovisionPlatformCredential _ _ => true
  | _ => false

/-- The call imports an object, and deletes it if it cannot be published. -/
def imports : HsmCall → Bool
  | .createObject object _ (.imported _) => object.token
  | .generateKeyPair _ _ _ _ _ _ (.imported _) => true
  | .derivePublicKey _ _ (.imported _) => true
  | _ => false

/-- What is asked of a call: its caller is logged in where the call does not check it, public discovery was
attempted and the connector stays during a call of many steps, the session lasts during an import, and
native session objects are private. -/
def Considerate (s : SecureSlot) (call : SecureCall) (answers : List HsmAnswer) : Prop :=
  match call with
  | .createNative _ _ private_ _ => private_ = true
  | .other call =>
    (unguarded call = true → s.loggedIn = true) ∧
    (manySteps call = true → s.discovery ≠ .unattempted ∧ ∀ a ∈ answers, Connected a) ∧
    (imports call = true → ∀ a ∈ answers, Steady a)
  | _ => True

/-! ### The invariant -/

/-- What holds after every call. -/
structure SlotInvariant (s : SecureSlot) : Prop where
  sound : Sound s
  natives : ∀ entry ∈ s.objects, entry.2.token = false ∧ entry.2.private_ = true
  cleared : s.loginRole = false → s.objects = []
  operations : ∀ entry ∈ s.operations, entry.2.requiresLogin = true

/-- The login, the operations and the native objects are those of another state. -/
def BooksOf (s₀ s : SecureSlot) : Prop :=
  s.loginRole = s₀.loginRole ∧ s.operations = s₀.operations ∧ s.objects = s₀.objects

/-- The books of native objects do not change. -/
theorem SlotInvariant.of_books (h : SlotInvariant s) (hsound : Sound s') (hbooks : BooksOf s s') :
    SlotInvariant s' := by
  obtain ⟨hlogin, hoperations, hobjects⟩ := hbooks
  refine ⟨hsound, ?_, ?_, ?_⟩
  · rw [hobjects]
    exact h.natives
  · rw [hlogin, hobjects]
    exact h.cleared
  · rw [hoperations]
    exact h.operations

/-- The same books. -/
theorem BooksOf.trans {a b c : SecureSlot} (hab : BooksOf a b) (hbc : BooksOf b c) : BooksOf a c :=
  ⟨hbc.1.trans hab.1, hbc.2.1.trans hab.2.1, hbc.2.2.trans hab.2.2⟩

/-- Caches are not books. -/
theorem booksOf_synchronizeCaches (s : SecureSlot) (reconnected : Bool) :
    BooksOf s (s.synchronizeCaches reconnected) := by
  cases reconnected with
  | false => exact ⟨rfl, rfl, rfl⟩
  | true =>
    by_cases huser : s.cell.isUser = true
    · simp only [synchronizeCaches, huser, if_true]
      exact ⟨rfl, rfl, rfl⟩
    · simp only [synchronizeCaches, huser, if_true]
      exact ⟨rfl, rfl, rfl⟩

/-- A read session changes no book. -/
theorem booksOf_ensureReadSession (s : SecureSlot) (answer : HsmAnswer) :
    BooksOf s (s.ensureReadSession answer).2 := by
  refine (booksOf_synchronizeCaches s answer.reconnected).trans ?_
  unfold ensureReadSession
  generalize s.synchronizeCaches answer.reconnected = s'
  dsimp only
  cases s'.cell with
  | loggedOut => split_ifs <;> exact ⟨rfl, rfl, rfl⟩
  | invalidatedUser | active => exact ⟨rfl, rfl, rfl⟩

section

variable (s : SecureSlot) (reads : List DiscoveryRead) (answer : HsmAnswer)

/-- A discovery changes no book. -/
theorem booksOf_attemptDiscovery : BooksOf s (s.attemptDiscovery reads answer).2 := by
  unfold attemptDiscovery
  split_ifs <;> exact ⟨rfl, rfl, rfl⟩

/-- A public discovery changes no book. -/
theorem booksOf_publicDiscoveryAvailable :
    BooksOf s (s.publicDiscoveryAvailable reads answer).2 := by
  refine (booksOf_synchronizeCaches s answer.reconnected).trans ?_
  unfold publicDiscoveryAvailable
  generalize s.synchronizeCaches answer.reconnected = s'
  dsimp only
  split_ifs
  · cases s'.discovery <;> exact ⟨rfl, rfl, rfl⟩
  · cases s'.discovery with
    | unattempted =>
      have hattempt := booksOf_attemptDiscovery { s' with discovery := .failed } reads answer
      exact hattempt
    | failed | available => exact ⟨rfl, rfl, rfl⟩
  · exact ⟨rfl, rfl, rfl⟩

end

variable {α : Type}

/-- No script changes the login, the operations or the native objects. -/
theorem booksOf_perform (s : SecureSlot) (script : HsmScript α) (answers : List HsmAnswer) :
    BooksOf s (s.perform script answers).2.2 := by
  have hkeep : ∀ s' request answer, BooksOf s s' → BooksOf s (handle s' request answer).2 := by
    intro s' request answer hs'
    cases request with
    | command code =>
      obtain ⟨cell, trace, hsend⟩ := send_frame s' code answer.exchange
      exact hs'.trans (by rw [handle, hsend]; exact ⟨rfl, rfl, rfl⟩)
    | synchronizeCaches => exact hs'.trans (booksOf_synchronizeCaches s' answer.reconnected)
    | ensureReadSession => exact hs'.trans (booksOf_ensureReadSession s' answer)
    | publicDiscoveryAvailable reads =>
      exact hs'.trans (booksOf_publicDiscoveryAvailable s' reads answer)
    | isUser | isActive | isLoggedOut => exact hs'
  have hscript : Meets (fun _ => True) (BooksOf s) script fun _ => BooksOf s :=
    triple_of_every_request trivial fun s' request answer _ => hkeep s' request answer
  exact hscript answers s (fun _ _ => trivial) ⟨rfl, rfl, rfl⟩

/-! ### Calls on the login and on sessions -/

/-- A script whose commands are safe. -/
theorem SlotInvariant.perform {script : HsmScript α} (h : SlotInvariant s)
    (hsound : Sound (s.perform script answers).2.2) :
    SlotInvariant (s.perform script answers).2.2 :=
  h.of_books hsound (booksOf_perform s script answers)

/-- Reads keep the invariant. -/
theorem SlotInvariant.perform_reads {script : HsmScript α} (h : SlotInvariant s)
    (hall : script.All ReadOnly) (answers : List HsmAnswer) :
    SlotInvariant (s.perform script answers).2.2 := by
  have hsound : Meets (fun _ => True) Sound script fun _ => Sound := sound_of_readOnly trivial hall
  exact h.perform (hsound answers s (fun _ _ => trivial) h.sound)

/-- The session is closed. -/
theorem Sound.closeActiveSession (h : Sound s) : Sound s.closeActiveSession := by
  unfold SecureSlot.closeActiveSession
  rcases s.cell with _ | _ | ⟨role, native, recreate⟩
  · exact h.of_cell rfl
  · exact h.of_cell rfl
  · cases role with
    | user =>
      have hclose : Sound (s.log [.sent .user .closeSession]) := h.log_sent (.inl rfl)
      have hended : Sound { (s.log [.sent .user .closeSession]).log [.userEnded] with
          cell := .loggedOut } := hclose.log_userEnded rfl
      rw [← log_append] at hended
      exact hended
    | publicDiscovery =>
      have hclose : Sound (s.log [.sent .publicDiscovery .closeSession]) := h.log_sent (.inl rfl)
      exact hclose.of_cell rfl

/-- Closing the session changes no book. -/
theorem booksOf_closeActiveSession (s : SecureSlot) : BooksOf s s.closeActiveSession := by
  unfold closeActiveSession
  rcases s.cell with _ | _ | ⟨role, native, recreate⟩
  · exact ⟨rfl, rfl, rfl⟩
  · exact ⟨rfl, rfl, rfl⟩
  · cases role <;> exact ⟨rfl, rfl, rfl⟩

/-- The invariant after the session is closed. -/
theorem SlotInvariant.closeActiveSession (h : SlotInvariant s) :
    SlotInvariant s.closeActiveSession :=
  h.of_books h.sound.closeActiveSession (booksOf_closeActiveSession s)

/-- The native objects go with the login, since they are private. -/
theorem SlotInvariant.clearLoginState (h : SlotInvariant s) : SlotInvariant s.clearLoginState := by
  have hnone : s.clearLoginState.objects = [] := by
    refine filter_eq_nil_iff.mpr ?_
    intro entry hentry
    obtain ⟨htoken, hprivate⟩ := h.natives entry hentry
    simp [htoken, hprivate]
  refine ⟨⟨h.sound.clean, h.sound.present⟩, ?_, fun _ => hnone, ?_⟩
  · intro entry hentry
    rw [hnone] at hentry
    cases hentry
  · intro entry hentry
    cases hentry

/-- A login that is lost is noticed. -/
theorem SlotInvariant.reconcile (h : SlotInvariant s) : SlotInvariant s.reconcile := by
  unfold SecureSlot.reconcile
  split_ifs
  · exact h.closeActiveSession.clearLoginState
  · exact h

/-- What is recorded of the login is true of the cell. -/
def Truthful (s : SecureSlot) : Prop := s.loginRole = true → s.cell.isUser = true

/-- After that the login state is true. -/
theorem truthful_reconcile (s : SecureSlot) : Truthful s.reconcile := by
  intro hrole
  unfold reconcile at hrole ⊢
  split_ifs at hrole ⊢ with hlost
  · cases hrole
  · exact Decidable.of_not_not fun huser => hlost ⟨hrole, huser⟩

/-- Who is logged in has a session. -/
theorem SlotInvariant.withUser (h : SlotInvariant s) (hlogged : s.loggedIn = true) : WithUser s :=
  ⟨h.sound, ((Bool.and_eq_true _ _).mp hlogged).2⟩

/-- The last session goes. -/
theorem SlotInvariant.logoutLast (h : SlotInvariant s) : SlotInvariant s.logoutLast := by
  unfold SecureSlot.logoutLast
  split_ifs
  · exact h.closeActiveSession.clearLoginState
  · exact h

/-- The login state stays true. -/
theorem Truthful.logoutLast (h : Truthful s) : Truthful s.logoutLast := by
  intro hrole
  unfold SecureSlot.logoutLast at hrole ⊢
  split_ifs at hrole ⊢
  · cases hrole
  · exact h hrole

section

variable (h : SlotInvariant s)

include h

/-- `C_OpenSession`. -/
theorem SlotInvariant.openSession (session : ℕ) : SlotInvariant (s.openSession session) := by
  unfold SecureSlot.openSession
  split_ifs
  · exact h
  · exact h.reconcile.of_books ⟨h.reconcile.sound.clean, h.reconcile.sound.present⟩ ⟨rfl, rfl, rfl⟩

/-- `C_Logout`. -/
theorem SlotInvariant.logout (closed : Bool) : SlotInvariant (s.logout closed) := by
  unfold SecureSlot.logout SecureSlot.logoutSlot
  dsimp only
  split_ifs
  · exact h.reconcile.closeActiveSession.clearLoginState
  · exact h.reconcile.closeActiveSession
  · exact h.reconcile

/-- Fewer operations and fewer native objects. -/
theorem SlotInvariant.of_subset (htrace : s'.trace = s.trace) (hcell : s'.cell = s.cell)
    (hrole : s'.loginRole = s.loginRole) (hobjects : s'.objects ⊆ s.objects)
    (hoperations : s'.operations ⊆ s.operations) : SlotInvariant s' := by
  refine ⟨⟨?_, ?_⟩, ?_, ?_, ?_⟩
  · rw [htrace]
    exact h.sound.clean
  · rw [htrace, hcell]
    exact h.sound.present
  · exact fun entry hentry => h.natives entry (hobjects hentry)
  · intro hnone
    have hempty := hobjects
    rw [h.cleared (hrole ▸ hnone)] at hempty
    exact subset_nil.mp hempty
  · exact fun entry hentry => h.operations entry (hoperations hentry)

end

/-- A command is a command. -/
theorem all_command : CommandsOnly (command code) := all_ask ⟨code, rfl⟩

/-- Native objects are deleted by commands. -/
theorem all_deleteNatives (created : List (ℕ × NativeSecret)) :
    CommandsOnly (deleteNatives created) := by
  induction created with
  | nil => exact all_pure true
  | cons entry created ih => exact all_bind (all_ask ⟨_, rfl⟩) fun _ => ih

/-- Commands that a call sends with the session of the user. -/
theorem held_after_commands {script : HsmScript α} (h : Held s) (hall : CommandsOnly script)
    (answers : List HsmAnswer) : Held (s.perform script answers).2.2 :=
  held_of_commands hall answers s (fun _ _ => trivial) h

section

variable (h : SlotInvariant s)

include h

/-- There are native objects to delete only while the user is logged in. -/
theorem SlotInvariant.deleteNatives (htruthful : Truthful s) (hcreated : created ⊆ s.objects)
    (answers : List HsmAnswer) : SlotInvariant (s.perform (deleteNatives created) answers).2.2 := by
  cases hrole : s.loginRole with
  | false =>
    have hnone : created = [] := by
      rw [h.cleared hrole] at hcreated
      exact subset_nil.mp hcreated
    rw [hnone]
    exact h
  | true =>
    have hheld : Held s := ⟨h.sound, .inl (htruthful hrole)⟩
    exact h.perform (held_after_commands hheld (all_deleteNatives created) answers).1

/-- The session goes with its operations and the native objects that it created. -/
theorem SlotInvariant.endSession (htruthful : Truthful s) {keep : ℕ × NativeSecret → Bool}
    (hsame : s'.trace = s.trace ∧ s'.cell = s.cell ∧ s'.loginRole = s.loginRole ∧
      s'.objects = s.objects ∧ s'.operations ⊆ s.operations) (hcreated : created ⊆ s'.objects)
    (answers : List HsmAnswer) : SlotInvariant
      (let after := (s'.perform (SecureSlot.deleteNatives created) answers).2.2
      { after with objects := after.objects.filter keep }) := by
  obtain ⟨htrace, hcell, hrole, hobjects, hoperations⟩ := hsame
  have hclosed : SlotInvariant s' :=
    h.of_subset htrace hcell hrole (by rw [hobjects]; exact List.Subset.refl _) hoperations
  have htruthful' : Truthful s' := by
    intro hlogged
    rw [hcell]
    exact htruthful (hrole ▸ hlogged)
  exact (hclosed.deleteNatives htruthful' hcreated answers).of_subset rfl rfl rfl
    (filter_sublist.subset) (List.Subset.refl _)

/-- `C_CloseSession`. -/
theorem SlotInvariant.closeSession (session : ℕ) (answers : List HsmAnswer) :
    SlotInvariant (s.closeSession session answers) := by
  unfold SecureSlot.closeSession
  dsimp only
  split_ifs with hopen hlast
  · refine h.reconcile.logoutLast.endSession (truthful_reconcile s).logoutLast ?_ ?_ answers
    · exact ⟨rfl, rfl, rfl, rfl, filter_sublist.subset⟩
    · exact filter_sublist.subset
  · refine h.reconcile.endSession (truthful_reconcile s) ?_ ?_ answers
    · exact ⟨rfl, rfl, rfl, rfl, filter_sublist.subset⟩
    · exact filter_sublist.subset
  · exact h

/-- `C_CloseAllSessions`. -/
theorem SlotInvariant.closeAllSessions : SlotInvariant s.closeAllSessions :=
  h.reconcile.logoutLast.of_subset rfl rfl rfl filter_sublist.subset (nil_subset _)

/-- A session that is authenticated is asked for its key, and then is the user's or is closed. -/
theorem SlotInvariant.installLogin (accepted native : Bool) :
    SlotInvariant (s.installLogin accepted native) := by
  have hinfo : Sound (s.log [.sent .user .getObjectInfo]) := h.sound.log_sent (.inl rfl)
  unfold SecureSlot.installLogin
  split_ifs
  · refine ⟨⟨?_, ?_⟩, h.natives, ?_, h.operations⟩
    · exact hinfo.clean.append_other nofun
    · intro _
      exact not_userGone_append_userStarted _
    · intro hrole
      cases hrole
  · exact h.of_books (hinfo.log_sent (.inl rfl)) ⟨rfl, rfl, rfl⟩

section

variable (authenticated accepted native : Bool) (refresh : RefreshPlan) (answers : List HsmAnswer)

/-- The login of the user. -/
theorem SlotInvariant.loginRoleUser :
    SlotInvariant (s.loginRoleUser authenticated accepted native refresh answers) := by
  have hinstalled := h.closeActiveSession.installLogin accepted native
  have hrefreshed := hinstalled.perform_reads (readOnly_refreshSlotTokenObjects refresh) answers
  unfold SecureSlot.loginRoleUser
  dsimp only
  split_ifs
  · exact hrefreshed
  · exact hrefreshed.closeActiveSession.clearLoginState
  · exact hrefreshed.clearLoginState
  · exact hinstalled
  · exact h.closeActiveSession

/-- `C_Login`. -/
theorem SlotInvariant.login :
    SlotInvariant (s.login authenticated accepted native refresh answers) := by
  unfold SecureSlot.login
  dsimp only
  split_ifs
  · exact h.reconcile
  · exact h.reconcile.loginRoleUser authenticated accepted native refresh answers

end

/-- `C_LoginUser`. -/
theorem SlotInvariant.loginUser (resolved reads : List DiscoveryRead)
    (authenticated accepted native : Bool) (refresh : RefreshPlan) (answers : List HsmAnswer) :
    SlotInvariant
      (s.loginUser resolved reads authenticated accepted native refresh answers) := by
  have hlisted := h.perform_reads (readOnly_backendTokenObjects resolved) answers
  unfold SecureSlot.loginUser
  rcases hfirst : s.perform (backendTokenObjects resolved) answers with ⟨ok, rest, s₁⟩
  rw [hfirst] at hlisted
  cases ok with
  | false => exact hlisted
  | true =>
    dsimp only
    split_ifs
    · exact hlisted.reconcile
    · have hread : (ask (.publicDiscoveryAvailable reads)).All ReadOnly := all_ask trivial
      have hdiscovered := hlisted.reconcile.perform_reads hread rest
      rcases hsecond : s₁.reconcile.perform (ask (.publicDiscoveryAvailable reads)) rest with
        ⟨found, rest', s₂⟩
      rw [hsecond] at hdiscovered
      cases found with
      | false => exact hdiscovered
      | true => exact hdiscovered.loginRoleUser authenticated accepted native refresh rest'

/-- `C_GetSessionInfo`. -/
theorem SlotInvariant.getSessionInfo (answers : List HsmAnswer) :
    SlotInvariant (s.getSessionInfo answers) := by
  have hread : (command .getStorageInfo).All ReadOnly := all_ask rfl
  exact (h.reconcile.perform_reads hread answers).reconcile

/-- `C_GenerateRandom`. -/
theorem SlotInvariant.generateRandom (chunks : ℕ) (answers : List HsmAnswer) :
    SlotInvariant (s.generateRandom chunks answers) := by
  have hreads : (commands (replicate chunks .getPseudoRandom)).All ReadOnly := by
    induction chunks with
    | zero => exact all_pure true
    | succ chunks ih => exact all_and (all_ask rfl) ih
  have hopen : (ask .ensureReadSession).All ReadOnly := all_ask trivial
  have hopened := h.reconcile.perform_reads hopen answers
  unfold SecureSlot.generateRandom
  dsimp only
  rcases hfirst : s.reconcile.perform (ask .ensureReadSession) answers with ⟨ok, rest, s₁⟩
  rw [hfirst] at hopened
  cases ok with
  | false => exact hopened
  | true => exact hopened.perform_reads hreads rest

end

/-! ### Operations and native session objects -/

section

variable (h : SlotInvariant s)

include h

/-- A key of the device, or a native object, is seen by the logged-in user only. -/
theorem SlotInvariant.visibleKey {key : HsmKey} {private_ : Bool}
    (hkey : s.visibleKey key = some private_) : private_ = true ∧ s.loggedIn = true := by
  cases key with
  | device => grind [visibleKey]
  | native object =>
    obtain ⟨secret, hresolved, rfl⟩ := Option.map_eq_some_iff.mp hkey
    obtain ⟨hget, hvisible⟩ := Option.filter_eq_some_iff.mp hresolved
    have hprivate : secret.private_ = true := (h.natives _ (mapGet_mem hget)).2
    refine ⟨hprivate, ?_⟩
    simpa [hprivate] using hvisible

/-- A native object that is found is private. -/
theorem SlotInvariant.resolveNative {object : ℕ} {secret : NativeSecret}
    (hresolved : s.resolveNative object = some secret) :
    secret.token = false ∧ secret.private_ = true ∧ s.loggedIn = true := by
  obtain ⟨hget, _⟩ := Option.filter_eq_some_iff.mp hresolved
  have hkey : s.visibleKey (.native object) = some secret.private_ := by
    simp only [SecureSlot.visibleKey, hresolved, Option.map_some]
  exact ⟨(h.natives _ (mapGet_mem hget)).1, h.visibleKey hkey⟩

/-- An operation is begun. -/
theorem SlotInvariant.operationInit (session : ℕ) (kind : DeviceOperation) (key : HsmKey) :
    SlotInvariant (s.operationInit session kind key) := by
  unfold SecureSlot.operationInit
  rcases hkey : s.visibleKey key with _ | private_
  · exact h
  · split_ifs
    · refine ⟨⟨h.sound.clean, h.sound.present⟩, h.natives, h.cleared, ?_⟩
      intro entry hentry
      rcases mem_mapInsert.mp hentry with rfl | ⟨hold, _⟩
      · exact (h.visibleKey hkey).1
      · exact h.operations entry hold
    · exact h

/-- An operation goes on. -/
theorem SlotInvariant.operationStep (session : ℕ) (kind : DeviceOperation)
    (parts : List CryptCommand) (finalizing : Bool) (answers : List HsmAnswer) :
    SlotInvariant (s.operationStep session kind parts finalizing answers) := by
  unfold SecureSlot.operationStep
  rcases hget : mapGet s.operations (session, kind) with _ | operation
  · exact h
  · have hrequires : operation.requiresLogin = true := h.operations _ (mapGet_mem hget)
    have hremoved : SlotInvariant { s with operations := mapRemove s.operations (session, kind) } :=
      h.of_subset rfl rfl rfl (List.Subset.refl _) (mapRemove_subset _ _)
    dsimp only
    generalize ({ s with operations := mapRemove s.operations (session, kind) } : SecureSlot) = s₁
      at hremoved
    by_cases hlogged : s₁.loggedIn = true
    · have hdone := hremoved.perform (held_after_commands (hremoved.withUser hlogged).held
        (all_commands (operationCodes operation parts)) answers).1
      rw [if_neg (fun hguard => hguard.2 hlogged)]
      split_ifs
      · refine ⟨⟨hdone.sound.clean, hdone.sound.present⟩, hdone.natives, hdone.cleared, ?_⟩
        intro entry hentry
        rcases mem_mapInsert.mp hentry with rfl | ⟨hold, _⟩
        · exact hrequires
        · exact hdone.operations entry hold
      · exact hdone
    · rw [if_pos ⟨hrequires, hlogged⟩]
      exact hremoved.reconcile

/-- A private session object that the user creates. -/
theorem SlotInvariant.insertNative (hrole : s.loginRole = true) (creator : Option ℕ) :
    SlotInvariant (s.insertNative ⟨false, true, creator⟩) := by
  refine ⟨⟨h.sound.clean, h.sound.present⟩, ?_, ?_, h.operations⟩
  · intro entry hentry
    rcases mem_mapInsert.mp hentry with rfl | ⟨hold, _⟩
    · exact ⟨rfl, rfl⟩
    · exact h.natives entry hold
  · intro hnone
    exact absurd (hrole.symm.trans hnone) (by decide)

end

/-- A native object is published by commands. -/
theorem all_publishNative (publication : NativePublication) :
    CommandsOnly (publishNative publication) := by
  cases publication with
  | discard => exact all_bind (all_ask ⟨_, rfl⟩) fun _ => all_pure false
  | software =>
    refine all_bind (all_ask ⟨_, rfl⟩) fun _ => ?_
    exact all_bind (all_ask ⟨_, rfl⟩) fun _ => all_pure false
  | native => exact all_pure true

/-- A native object is created. -/
theorem SlotInvariant.createNative (h : SlotInvariant s) (session : ℕ) (sources : List HsmKey)
    (publication : NativePublication) (answers : List HsmAnswer) :
    SlotInvariant (s.createNative session sources true publication answers) := by
  unfold SecureSlot.createNative
  split_ifs with hallowed
  · have hlogged : s.loggedIn = true := hallowed.2.1 rfl
    have hcreated := held_after_commands (h.withUser hlogged).held (all_command .sessionObject) answers
    have hcreatedBooks := booksOf_perform s (command .sessionObject) answers
    rcases hfirst : s.perform (command .sessionObject) answers with ⟨ok, rest, s₁⟩
    rw [hfirst] at hcreated hcreatedBooks
    have hafter : SlotInvariant s₁ := h.of_books hcreated.1 hcreatedBooks
    cases ok with
    | false => exact hafter
    | true =>
      have hpublished := held_after_commands hcreated (all_publishNative publication) rest
      have hpublishedBooks := booksOf_perform s₁ (publishNative publication) rest
      dsimp only
      rcases hsecond : s₁.perform (publishNative publication) rest with ⟨found, rest', s₂⟩
      rw [hsecond] at hpublished hpublishedBooks
      have hlast : SlotInvariant s₂ := hafter.of_books hpublished.1 hpublishedBooks
      cases found with
      | false => exact hlast
      | true =>
        have hrole : s.loginRole = true := ((Bool.and_eq_true _ _).mp hlogged).1
        exact hlast.insertNative (hpublishedBooks.1.trans (hcreatedBooks.1.trans hrole)) _
  · exact h

/-- A native session object is not copied. -/
theorem copyNative_refused (session object : ℕ) (readWrite : Bool) (token private_ : Option Bool) :
    s.copyNative session object readWrite token private_ = s := by
  unfold SecureSlot.copyNative
  cases s.resolveNative object with
  | none => rfl
  | some secret => simp [NativeSecret.copyable]

/-- A native object is destroyed. -/
theorem SlotInvariant.destroyNative (h : SlotInvariant s) (object : ℕ) (answers : List HsmAnswer) :
    SlotInvariant (s.destroyNative object answers) := by
  unfold SecureSlot.destroyNative
  split_ifs with hsome
  · obtain ⟨secret, hresolved⟩ := Option.isSome_iff_exists.mp hsome
    have hheld := (h.withUser (h.resolveNative hresolved).2.2).held
    have hdone := h.perform (held_after_commands hheld (all_command .sessionObject) answers).1
    rcases hfirst : s.perform (command .sessionObject) answers with ⟨ok, rest, s₁⟩
    rw [hfirst] at hdone
    cases ok with
    | false => exact hdone
    | true => exact hdone.of_subset rfl rfl rfl (mapRemove_subset _ _) (List.Subset.refl _)
  · exact h

/-! ### Calls that only check the login -/

/-- The session of the user, when public discovery has been attempted. -/
theorem SlotInvariant.calm (h : SlotInvariant s) (hlogged : s.loggedIn = true)
    (hdiscovery : s.discovery ≠ .unattempted) : Calm s :=
  ⟨(h.withUser hlogged).held, hdiscovery⟩

/-- A calm script on a connector that stays. -/
theorem sound_of_tracks (hscript : KeepsCalm script) (hs : Calm s)
    (hanswers : ∀ a ∈ answers, Connected a) : Sound (s.perform script answers).2.2 := by
  have hafter := hscript answers s hanswers hs
  change Script.Outcome Calm Sound (s.perform script answers).1
    (s.perform script answers).2.2 at hafter
  cases hok : (s.perform script answers).1 with
  | true =>
    rw [hok] at hafter
    exact (outcome_true.mp hafter).1.1
  | false =>
    rw [hok] at hafter
    exact outcome_false.mp hafter

/-- The caches are synchronized before the rest of a call. -/
theorem calm_afterSync (hscript : KeepsCalm script) :
    KeepsCalm (ask .synchronizeCaches >>= fun _ => script) :=
  triple_bind (M := fun _ => Calm) (settled_of_all (all_ask nofun)) fun _ => hscript

/-- A script that is sound in every state. -/
theorem sound_of_firm {script : HsmScript α}
    (hscript : Meets (fun _ => True) Sound script fun _ => Sound) (hs : Sound s)
    (answers : List HsmAnswer) : Sound (s.perform script answers).2.2 :=
  hscript answers s (fun _ _ => trivial) hs

/-- A script that only reads. -/
theorem sound_of_reads {script : HsmScript α} (hall : script.All ReadOnly) (hs : Sound s)
    (answers : List HsmAnswer) : Sound (s.perform script answers).2.2 :=
  sound_of_firm (sound_of_readOnly trivial hall) hs answers

/-- A user's session that stays. -/
theorem sound_of_steady (script : HsmScript α) (hs : WithUser s)
    (hanswers : ∀ a ∈ answers, Steady a) : Sound (s.perform script answers).2.2 :=
  (steady_keeps script answers s hanswers hs).1

/-- Commands after the caches are synchronized: a reconnect leaves no session to send them over. -/
theorem sound_commandsAfterSync (hs : WithUser s)
    (hall : CommandsOnly script) (answers : List HsmAnswer) :
    Sound (s.perform (ask .synchronizeCaches >>= fun _ => script) answers).2.2 := by
  have hscript : Meets (fun _ => True) WithUser (ask .synchronizeCaches >>= fun _ => script)
      fun _ => Held :=
    triple_bind (M := fun _ => Held)
      (firm_ask fun s answer hs => hs.synchronizeCaches answer.reconnected)
      fun _ => held_of_commands hall
  exact (hscript answers s (fun _ _ => trivial) hs).1

/-- A call that is refused has only synchronized the caches. -/
theorem readOnly_refused :
    (ask .synchronizeCaches >>= fun _ => (pure false : HsmScript Bool)).All ReadOnly :=
  all_bind (all_ask trivial) fun _ => all_pure false

/-- Values that are read without a login are those of stored objects. -/
theorem readOnly_valueScripts (h : SlotInvariant s)
    (hvalues : ∀ value ∈ values, isStored value = true ∨ s.loggedIn = false ∧ value ≠ .attestation) :
    (s.valueScripts values).All ReadOnly := by
  induction values with
  | nil => exact all_pure true
  | cons value values ih =>
    refine all_and ?_ (ih fun value hmem => hvalues value (mem_cons_of_mem _ hmem))
    cases value with
    | stored read => exact readOnly_yubihsmReadObject read
    | native object =>
      have hout : s.loggedIn = false := by
        rcases hvalues _ mem_cons_self with hstored | hout
        · cases hstored
        · exact hout.1
      have hhidden : ¬ (s.resolveNative object).isSome = true := by
        intro hsome
        obtain ⟨secret, hresolved⟩ := Option.isSome_iff_exists.mp hsome
        rw [(h.resolveNative hresolved).2.2] at hout
        cases hout
      simp only [valueScript, if_neg hhidden]
      exact all_pure true
    | attestation =>
      rcases hvalues _ mem_cons_self with hstored | hout
      · cases hstored
      · exact absurd rfl hout.2

/-- The value of one object, again and again. -/
theorem all_valueScripts (s : SecureSlot) (hvalue : isStored value = false) (count : ℕ) :
    CommandsOnly (s.valueScripts (replicate count value)) := by
  induction count with
  | zero => exact all_pure true
  | succ count ih =>
    refine all_and ?_ ih
    cases value with
    | stored read => cases hvalue
    | native object => exact all_ite (all_command _) (all_pure true)
    | attestation => exact all_bind (all_command _) fun _ => all_pure true

/-- `C_FindObjectsInit`. -/
theorem sound_findObjectsInit (h : SlotInvariant s) {resolved : List DiscoveryRead}
    (hcall : Considerate s (.other (.findObjectsInit resolved values)) answers) :
    Sound (s.perform ((findObjectsInit resolved values).script s) answers).2.2 := by
  obtain ⟨hunguarded, hmany, _⟩ := hcall
  by_cases hcalm : s.loggedIn = true ∧ manySteps (.findObjectsInit resolved values) = true
  · obtain ⟨hdiscovery, hconnected⟩ := hmany hcalm.2
    refine sound_of_tracks ?_ (h.calm hcalm.1 hdiscovery) hconnected
    exact triple_and (calm_backendTokenObjects resolved) (calm_valueScripts s values)
  · refine sound_of_reads ?_ h.sound answers
    refine all_and (readOnly_backendTokenObjects resolved) (readOnly_valueScripts h ?_)
    intro value hmem
    by_cases hstored : isStored value = true
    · exact .inl hstored
    · have hsteps : manySteps (.findObjectsInit resolved values) = true :=
        any_eq_true.mpr ⟨value, hmem, by simpa using hstored⟩
      have hout : s.loggedIn = false := by
        simpa using fun hlogged => hcalm ⟨hlogged, hsteps⟩
      refine .inr ⟨hout, ?_⟩
      rintro rfl
      have hlogged := hunguarded (any_eq_true.mpr ⟨_, hmem, rfl⟩)
      rw [hout] at hlogged
      cases hlogged

/-- `C_GetAttributeValue`. -/
theorem sound_getAttributeValue (h : SlotInvariant s) {count : ℕ}
    (hcall : Considerate s (.other (.getAttributeValue value count)) answers) :
    Sound (s.perform ((getAttributeValue value count).script s) answers).2.2 := by
  by_cases hstored : isStored value = true
  · cases value with
    | stored read =>
      have hsync : (ask .synchronizeCaches).All ReadOnly := all_ask trivial
      refine sound_of_reads (all_bind hsync fun _ => ?_) h.sound answers
      refine readOnly_valueScripts h ?_
      intro value hmem
      rw [eq_of_mem_replicate hmem]
      exact .inl rfl
    | native | attestation => cases hstored
  · have hplain : (getAttributeValue value count).script s =
        s.valueScripts (replicate count value) := by
      cases value with
      | stored read => exact absurd rfl hstored
      | native | attestation => rfl
    have hnot : isStored value = false := by simpa using hstored
    rw [hplain]
    by_cases hlogged : s.loggedIn = true
    · exact (held_after_commands (h.withUser hlogged).held (all_valueScripts s hnot count) answers).1
    · refine sound_of_reads (readOnly_valueScripts h ?_) h.sound answers
      intro value' hmem
      rw [eq_of_mem_replicate hmem]
      refine .inr ⟨by simpa using hlogged, ?_⟩
      rintro rfl
      exact hlogged (hcall.1 rfl)

/-- A new object that is not private is created by the user, if the call is considerate. -/
theorem loggedIn_of_allowed {loggedIn : Bool} (hallowed : object.allowed readWrite loggedIn = true)
    (hpublic : object.private_ = false → loggedIn = true) : loggedIn = true := by
  cases hprivate : object.private_ with
  | false => exact hpublic hprivate
  | true => simp_all [NewObject.allowed]

section

variable (h : SlotInvariant s)

include h

/-- `C_CreateObject`. -/
theorem sound_createObject {plan : StorePlan}
    (hcall : Considerate s (.other (.createObject object readWrite plan)) answers) :
    Sound (s.perform ((createObject object readWrite plan).script s) answers).2.2 := by
  simp only [script]
  split_ifs with hallowed htoken
  · cases plan with
    | record puts refresh => exact sound_of_firm (sound_storeBackedObject puts refresh) h.sound answers
    | imported plan =>
      have hlogged : s.loggedIn = true := by
        refine loggedIn_of_allowed hallowed fun hpublic => hcall.1 ?_
        simp [unguarded, htoken, hpublic]
      exact sound_of_steady _ (h.withUser hlogged) (hcall.2.2 htoken)
  · exact h.sound
  · exact h.sound

/-- `C_GenerateKeyPair`. -/
theorem sound_generateKeyPair {privateObject publicObject : NewObject} {wrapping parsed : Bool}
    (hcall : Considerate s (.other (.generateKeyPair privateObject publicObject readWrite wrapping
      parsed publish projection)) answers) :
    Sound (s.perform ((generateKeyPair privateObject publicObject readWrite wrapping parsed
      publish projection).script s) answers).2.2 := by
  simp only [script]
  split_ifs with hallowed
  · have hlogged : s.loggedIn = true := by
      refine loggedIn_of_allowed hallowed.1 fun hfirst => ?_
      refine loggedIn_of_allowed hallowed.2 fun hsecond => hcall.1 ?_
      simp [unguarded, hfirst, hsecond]
    obtain ⟨hdiscovery, hconnected⟩ := hcall.2.1 rfl
    have hsettled := h.calm hlogged hdiscovery
    cases projection with
    | imported plan => exact sound_of_steady _ (h.withUser hlogged) (hcall.2.2 rfl)
    | companion metadata refresh resolved =>
      exact sound_of_tracks
        (calm_generateTokenPair (calm_persistPublicProjection metadata refresh resolved)) hsettled
        hconnected
    | session =>
      exact sound_of_tracks (calm_generateTokenPair (calm_base.pure true)) hsettled hconnected
  · exact h.sound

/-- The derivation of a public key. -/
theorem sound_derivePublicKey
    (hcall : Considerate s (.other (.derivePublicKey object readWrite projection)) answers) :
    Sound (s.perform ((derivePublicKey object readWrite projection).script s)
      answers).2.2 := by
  simp only [script]
  split_ifs with hallowed
  · cases projection with
    | imported plan => exact sound_of_steady _ (h.withUser hallowed.1) (hcall.2.2 rfl)
    | companion metadata refresh resolved =>
      obtain ⟨hdiscovery, hconnected⟩ := hcall.2.1 rfl
      exact sound_of_tracks
        (calm_afterSync (calm_persistPublicProjection metadata refresh resolved))
        (h.calm hallowed.1 hdiscovery) hconnected
    | session =>
      refine sound_of_reads ?_ h.sound answers
      exact all_bind (all_ask trivial) fun _ => all_pure true
  · exact sound_of_reads readOnly_refused h.sound answers

/-- A guarded call of many steps, which is refused without a login. -/
theorem sound_guarded {guard : Prop} [Decidable guard] (hguard : guard → s.loggedIn = true)
    (hsteps : s.discovery ≠ .unattempted ∧ ∀ a ∈ answers, Connected a)
    (hscript : KeepsCalm script) :
    Sound (s.perform (if guard then script else pure false) answers).2.2 ∧
    Sound (s.perform (ask .synchronizeCaches >>= fun _ => if guard then script else pure false)
      answers).2.2 := by
  by_cases hc : guard
  · have hsettled := h.calm (hguard hc) hsteps.1
    simp only [if_pos hc]
    exact ⟨sound_of_tracks hscript hsettled hsteps.2,
      sound_of_tracks (calm_afterSync hscript) hsettled hsteps.2⟩
  · simp only [if_neg hc]
    exact ⟨h.sound, sound_of_reads readOnly_refused h.sound answers⟩

/-- A guarded call of commands only. -/
theorem sound_guardedCommands {guard : Prop} [Decidable guard] (hguard : guard → s.loggedIn = true)
    (hall : CommandsOnly script) (answers : List HsmAnswer) :
    Sound (s.perform (if guard then script else pure false) answers).2.2 ∧
    Sound (s.perform (ask .synchronizeCaches >>= fun _ => if guard then script else pure false)
      answers).2.2 := by
  by_cases hc : guard
  · have huser := h.withUser (hguard hc)
    simp only [if_pos hc]
    exact ⟨(held_after_commands huser.held hall answers).1,
      sound_commandsAfterSync huser hall answers⟩
  · simp only [if_neg hc]
    exact ⟨h.sound, sound_of_reads readOnly_refused h.sound answers⟩

/-- **A considerate call leaves the discovery session to reads.** -/
theorem sound_script (call : HsmCall) (hcall : Considerate s (.other call) answers) :
    Sound (s.perform (call.script s) answers).2.2 := by
  obtain ⟨hunguarded, hmany, _⟩ := id hcall
  cases call with
  | refreshTokenObjects plan =>
    exact sound_of_reads (readOnly_refreshSlotTokenObjects plan) h.sound answers
  | findObjectsInit resolved values => exact sound_findObjectsInit h hcall
  | getAttributeValue value count => exact sound_getAttributeValue h hcall
  | createObject object readWrite plan => exact sound_createObject h hcall
  | setKeyAttributes metadata refresh =>
    exact (sound_guarded h (fun hlogged => hlogged) (hmany rfl) (calm_describe metadata refresh)).2
  | setRecordAttributes puts deletion refresh =>
    exact sound_of_firm (sound_replaceBackedObject puts deletion refresh) h.sound answers
  | destroyKey resolved plan refresh =>
    refine (sound_guarded h (fun hlogged => hlogged) (hmany rfl) ?_).2
    exact triple_and (calm_backendTokenObjects resolved)
      (calm_thenRefresh (calm_destroyNativeObject plan) refresh)
  | destroyProjection metadata refresh =>
    exact (sound_guarded h (fun hlogged => hlogged) (hmany rfl)
      (calm_thenRefresh (calm_replacePkcs11Metadata metadata) refresh)).2
  | destroyRecord deletion refresh =>
    simp only [script]
    split_ifs with hlogged
    · exact firm_base.refresh (firm_base.storageDelete deletion) refresh answers s
        (fun _ _ => trivial) (h.withUser hlogged)
    · exact h.sound
  | generateKey object readWrite hmac parsed publish =>
    refine (sound_guarded h ?_ (hmany rfl) (calm_generateTokenKey hmac parsed publish)).1
    grind [loggedIn_of_allowed, unguarded]
  | generateKeyPair privateObject publicObject readWrite wrapping parsed publish projection =>
    exact sound_generateKeyPair h hcall
  | derivePublicKey object readWrite projection => exact sound_derivePublicKey h hcall
  | encapsulateKey hybrid =>
    exact sound_commandsAfterSync (h.withUser (hunguarded rfl)) (all_command _) answers
  | useKey object readWrite use =>
    exact (sound_guardedCommands h (fun hguard => hguard.1) (all_commands use.codes) answers).2
  | wrapKey code =>
    exact (sound_guardedCommands h (fun hlogged => hlogged) (all_command code.code) answers).2
  | unwrapKey readWrite plan =>
    exact (sound_guarded h (fun hguard => hguard.1) (hmany rfl) (calm_unwrapKey plan)).2
  | enrollDevice readWrite =>
    exact (sound_guardedCommands h (fun hguard => hguard.1) (all_commands _) answers).1
  | provisionPlatformCredential readWrite plan =>
    exact (sound_guarded h (fun hguard => hguard.1) (hmany rfl)
      (calm_provisionPlatformCredential plan)).1
  | unprovisionPlatformCredential readWrite plan =>
    exact (sound_guarded h (fun hguard => hguard.1) (hmany rfl)
      (calm_unprovisionPlatformCredential plan)).1

end

/-! ### Runs -/

/-- One call of a run, with its answers. -/
def secureStep (s : SecureSlot) (event : SecureCall × List HsmAnswer) : Option SecureSlot :=
  some (s.step event.1 event.2)

/-- The invariant of a new slot. -/
theorem slotInvariant_initial (recreateSessions discoveryConfigured : Bool) :
    SlotInvariant (.initial recreateSessions discoveryConfigured) := by
  refine ⟨⟨clean_nil, ?_⟩, ?_, fun _ => rfl, ?_⟩
  · intro huser
    cases huser
  · intro entry hentry
    cases hentry
  · intro entry hentry
    cases hentry

/-- **One call** keeps the invariant. -/
theorem SlotInvariant.step (h : SlotInvariant s) (call : SecureCall) (answers : List HsmAnswer)
    (hcall : Considerate s call answers) : SlotInvariant (s.step call answers) := by
  cases call with
  | openSession session => exact h.openSession session
  | closeSession session => exact h.closeSession session answers
  | closeAllSessions => exact h.closeAllSessions
  | login authenticated accepted native refresh =>
    exact h.login authenticated accepted native refresh answers
  | loginUser resolved reads authenticated accepted native refresh =>
    exact h.loginUser resolved reads authenticated accepted native refresh answers
  | logout closed => exact h.logout closed
  | getSessionInfo => exact h.getSessionInfo answers
  | generateRandom chunks => exact h.generateRandom chunks answers
  | operationInit session kind key => exact h.operationInit session kind key
  | operationStep session kind parts finalizing =>
    exact h.operationStep session kind parts finalizing answers
  | createNative session sources private_ publication =>
    cases hcall
    exact h.createNative session sources publication answers
  | copyNative session object readWrite token private_ =>
    change SlotInvariant (s.copyNative session object readWrite token private_)
    rwa [copyNative_refused]
  | destroyNative object => exact h.destroyNative object answers
  | other call => exact h.perform (sound_script h call hcall)

/-- **Discovery sessions do no user work.**  In every run of considerate calls, from every configuration,
the commands over a discovery session, and those between the end of a user's session and the next login,
read public data or close the session. -/
theorem discovery_session_does_no_user_work (recreateSessions discoveryConfigured : Bool)
    (events : List (SecureCall × List HsmAnswer)) (s : SecureSlot)
    (hconsiderate : Along secureStep (fun s event => Considerate s event.1 event.2)
      (.initial recreateSessions discoveryConfigured) events)
    (hrun : run secureStep (.initial recreateSessions discoveryConfigured) events = some s) :
    ∀ before role code after, s.trace = before ++ .sent role code :: after →
      (role = .publicDiscovery ∨
        ∃ earlier later, before = earlier ++ .userEnded :: later ∧ .userStarted ∉ later) →
      isPublicRead code = true := by
  have hs : SlotInvariant s := by
    refine run_induction SlotInvariant ?_ events _ s
      (slotInvariant_initial recreateSessions discoveryConfigured) hconsiderate hrun
    intro s event s' hinv hcall hstep
    cases hstep
    exact hinv.step event.1 event.2 hcall
  exact hs.sound.clean

/-! ### Runs of a few calls -/

/-- Public discovery succeeds, or a session for it is opened. -/
def discovered : HsmAnswer := ⟨⟨.refused, false, .refused⟩, false, true, true, true, true⟩

/-- The device answers a command. -/
def succeeded : HsmAnswer := ⟨⟨.answered true, false, .refused⟩, false, false, false, false, false⟩

/-- The session is lost with a command. -/
def dropped : HsmAnswer := ⟨⟨.broken, false, .refused⟩, false, false, false, false, false⟩

/-- A refresh of a token without stored objects. -/
def bareRefresh : RefreshPlan := ⟨[], [], true⟩

/-- The token is browsed before the login. -/
def browsed : SecureCall × List HsmAnswer :=
  (.other (.refreshTokenObjects bareRefresh), [discovered, discovered])

/-- The token is browsed, and then the user logs in. -/
def entered : List (SecureCall × List HsmAnswer) :=
  [browsed, (.openSession 1, []), (.login true true true bareRefresh, [succeeded, succeeded])]

/-- A signature whose session is lost, and random bytes over a discovery session. -/
def signed : List (SecureCall × List HsmAnswer) :=
  entered ++ [(.operationInit 1 .sign .device, []), (.operationStep 1 .sign [.signPss] false, [dropped]),
    (.generateRandom 1, [discovered, succeeded])]

/-- The run of the example meets the condition. -/
theorem signed_considerate :
    Along secureStep (fun s event => Considerate s event.1 event.2) (.initial false true) signed := by
  have hbrowsed : ∀ s : SecureSlot, Considerate s browsed.1 browsed.2 := by
    intro s
    refine ⟨?_, ?_, ?_⟩
    · intro h
      cases h
    · intro h
      cases h
    · intro h
      cases h
  exact ⟨hbrowsed _, fun _ _ => ⟨trivial, fun _ _ => ⟨trivial, fun _ _ => ⟨trivial, fun _ _ =>
    ⟨trivial, fun _ _ => ⟨trivial, fun _ _ => trivial⟩⟩⟩⟩⟩⟩

/-- The signature was sent over the user's session, and what comes after its end is a read. -/
theorem discovery_session_does_no_user_work_signed :
    ∃ s, run secureStep (.initial false true) signed = some s ∧
      .sent .user .signPss ∈ s.trace ∧ .sent .publicDiscovery .getPseudoRandom ∈ s.trace ∧
      ∀ before role code after, s.trace = before ++ .sent role code :: after →
        (role = .publicDiscovery ∨
          ∃ earlier later, before = earlier ++ .userEnded :: later ∧ .userStarted ∉ later) →
        isPublicRead code = true := by
  obtain ⟨s, hrun, hsign, hrandom⟩ : ∃ s, run secureStep (.initial false true) signed = some s ∧
      .sent .user .signPss ∈ s.trace ∧ .sent .publicDiscovery .getPseudoRandom ∈ s.trace :=
    ⟨_, rfl, by decide, by decide⟩
  exact ⟨s, hrun, hsign, hrandom,
    discovery_session_does_no_user_work false true signed s signed_considerate hrun⟩

/-- The value of a stored object that is read from the device. -/
def storedValue : ObjectRead := ⟨true, false, false⟩

/-- A refresh of a token with one stored object. -/
def storedRefresh : RefreshPlan := ⟨[.publicKey], [⟨[.publicKey], [storedValue]⟩], true⟩

/-- An import whose metadata cannot be written, since the session is lost before. -/
def lateImport : ImportPlan where
  code := .putAsymmetricKey
  parsed := true
  publish :=
    { refresh := storedRefresh
      resolved := [.publicKey]
      found := true
      metadata := ⟨true, [storedValue], .unchanged⟩
      refreshed := storedRefresh
      resolvedAgain := []
      foundAgain := true }
  cleanup := bareRefresh

/-- The import and the first refresh succeed.  The last read of the search loses the session, the metadata
is not read without it, and the second refresh opens a discovery session for the stored value. -/
def lateAnswers : List HsmAnswer :=
  List.replicate 11 succeeded ++ [dropped] ++ List.replicate 6 succeeded ++ [discovered, succeeded, succeeded]

/-- A public token object is created and a device encapsulates for its public key without a login, a native
session object that is not private and the certificate of an attestation are used after the logout, and what
an import could not publish is deleted over a discovery session. -/
theorem discovery_session_does_user_work :
    (∃ s, run secureStep (.initial false true)
        [browsed, (.other (.generateKey ⟨true, false⟩ true false false
          ⟨bareRefresh, [], true, ⟨true, [], .unchanged⟩, bareRefresh, [], true⟩), [succeeded])] =
          some s ∧ .sent .publicDiscovery .generateSymmetricKey ∈ s.trace) ∧
    (∃ s, run secureStep (.initial false true)
        [browsed, (.other (.encapsulateKey false), [succeeded, succeeded])] = some s ∧
      .sent .publicDiscovery .encapsulateMlKem ∈ s.trace) ∧
    (∃ s, run secureStep (.initial false true)
        (entered ++ [(.createNative 1 [] false .native, [succeeded]), (.logout true, []),
          (.generateRandom 1, [discovered, succeeded]), (.destroyNative 1, [succeeded]),
          (.other (.getAttributeValue .attestation 1), [succeeded])]) = some s ∧
      .sent .publicDiscovery .sessionObject ∈ s.trace ∧
      .sent .publicDiscovery .signAttestationCertificate ∈ s.trace) ∧
    ∃ s, run secureStep (.initial false true)
        (entered ++ [(.other (.createObject ⟨true, true⟩ true (.imported lateImport)), lateAnswers)]) =
          some s ∧ .sent .publicDiscovery .deleteObject ∈ s.trace := by
  refine ⟨⟨_, rfl, by decide⟩, ⟨_, rfl, by decide⟩, ⟨_, rfl, by decide, by decide⟩, ⟨_, rfl, by decide⟩⟩

end Pkcs11rs.Analysis
