import Pkcs11rs.Library.Runs
import Pkcs11rs.Model.OpaqueStorage

/-!
# Other clients of a YubiHSM

The slot trusts what it has written and the values that it has read (`Trusted`).  Its calls keep that, since a
write or a deletion forgets what was known of the object; only a deletion that the device has executed and
whose answer is lost does not.  So as long as no such answer is lost, and other clients leave alone the objects
that the slot has written or whose value it has read, `put` returns Ok only if the object is there, and
`delete` deletes only objects with the reference (`storage_tolerates_other_clients`).

Neither is looked up again: after another client has deleted or replaced an object that the slot has written,
or the answer to its deletion was lost, `put` still returns Ok, and `delete` deletes what is there now
(`storage_trusts_its_writes`).
-/

set_option autoImplicit false

namespace Pkcs11rs.Analysis

open Pkcs11rs.Library Pkcs11rs.Model StorageSlot Outcome

/-- An opaque object with a value is on the device. -/
def OnDevice (device : List (ℕ × DeviceOpaque)) (id : ℕ) (value : Bytes) : Prop :=
  ∃ object, mapGet device id = some object ∧ object.value = value

/-- What the slot has written, which are some of the records, and read is on the device. -/
structure Trusted (env : StorageEnv) (records : Set Bytes) (s : StorageSlot) : Prop where
  written : ∀ {reference id}, (reference, id) ∈ s.writes →
    ∃ value ∈ records, OnDevice s.device id value ∧ env.forObject value = reference
  read : ∀ {id entry value}, (id, entry) ∈ s.cache → entry.value = some value →
    OnDevice s.device id value

/-- The device is as it was, and the slot knows what is there. -/
structure Unchanged (env : StorageEnv) (records : Set Bytes) (s s' : StorageSlot) : Prop where
  device : s'.device = s.device
  replies : s'.replies ⊆ s.replies
  trusted : Trusted env records s'

section Reads

variable {env : StorageEnv} {records : Set Bytes} {s s' s'' : StorageSlot}

/-- Nothing changes. -/
theorem Trusted.refl (h : Trusted env records s) : Unchanged env records s s :=
  ⟨rfl, List.Subset.refl _, h⟩

/-- One step after the other. -/
theorem Unchanged.trans (h : Unchanged env records s s') (h' : Unchanged env records s' s'') :
    Unchanged env records s s'' :=
  ⟨h'.device.trans h.device, List.Subset.trans h'.replies h.replies, h'.trusted⟩

/-- A part of a call that leaves the device alone. -/
abbrev Keeps {α : Type} (env : StorageEnv) (records : Set Bytes) (s : StorageSlot)
    (returns : α → StorageSlot → Prop) (x : Outcome StorageFault StorageSlot α) : Prop :=
  x.Ends (fun a s' => Unchanged env records s s' ∧ returns a s') (Unchanged env records s)

/-- A step before a call. -/
theorem Unchanged.keeps {α : Type} {x : Outcome StorageFault StorageSlot α}
    {returns : α → StorageSlot → Prop} (h : Unchanged env records s s')
    (hx : Keeps env records s' returns x) : Keeps env records s returns x :=
  hx.imp (fun _ _ hs => ⟨h.trans hs.1, hs.2⟩) fun _ hs => h.trans hs

/-- What is known after a part that leaves the device alone. -/
theorem Keeps.trusted {α : Type} {x : Outcome StorageFault StorageSlot α}
    {returns : α → StorageSlot → Prop} (hx : Keeps env records s returns x) :
    x.Ends (fun a s' => Trusted env records s' ∧ returns a s') (Trusted env records) :=
  hx.imp (fun _ _ hs => ⟨hs.1.trusted, hs.2⟩) fun _ hs => hs.trusted

/-- One call after the other. -/
theorem Keeps.andThen {α β : Type} {x : Outcome StorageFault StorageSlot α}
    {f : α → StorageSlot → Outcome StorageFault StorageSlot β} {returns : α → StorageSlot → Prop}
    {after : β → StorageSlot → Prop} (hx : Keeps env records s returns x)
    (hf : ∀ a s', Unchanged env records s s' → returns a s' → Keeps env records s' after (f a s')) :
    Keeps env records s after (x.andThen f) := by
  exact Outcome.Ends.andThen hx fun a s' ha => ha.1.keeps (hf a s' ha.1 ha.2)

section

variable (h : Trusted env records s)

include h

/-- A reply is taken. -/
theorem keeps_reply : Keeps env records s (fun _ _ => True) s.reply := by
  unfold reply
  split
  · exact h.refl
  · rename_i answer replies hreplies
    refine ⟨⟨rfl, ?_, h.written, h.read⟩, trivial⟩
    rw [hreplies]
    exact List.subset_cons_self answer replies

/-- A command is sent. -/
theorem keeps_command : Keeps env records s (fun _ _ => True) s.command :=
  (keeps_reply h).andThen fun _ _ hs _ =>
    ends_ite (fun _ => ⟨hs.trusted.refl, trivial⟩) fun _ => hs.trusted.refl

/-- A cache entry is set. -/
theorem Trusted.setEntry (id : ℕ) {entry : CachedOpaque}
    (hvalue : ∀ value, entry.value = some value → OnDevice s.device id value) :
    Unchanged env records s (s.setEntry id entry) := by
  refine ⟨rfl, List.Subset.refl _, h.written, fun {id' entry' value} hmem hv => ?_⟩
  rcases mem_mapInsert.mp hmem with hnew | ⟨hold, _⟩
  · cases hnew
    exact hvalue value hv
  · exact h.read hold hv

/-- A cached value is on the device. -/
theorem Trusted.entryAt {id sequence : ℕ} {value : Bytes}
    (hvalue : (s.entryAt id sequence).value = some value) : OnDevice s.device id value := by
  unfold StorageSlot.entryAt at hvalue
  cases hget : mapGet s.cache id with
  | none =>
    rw [hget] at hvalue
    cases hvalue
  | some entry =>
    rw [hget] at hvalue
    dsimp only at hvalue
    split_ifs at hvalue
    exact h.read (mapGet_mem hget) hvalue

/-- An info is read. -/
theorem keeps_readObjectInfo (id : ℕ) (expected : Option ℕ) :
    Keeps env records s (fun _ _ => True) (s.readObjectInfo id expected) := by
  refine (keeps_command h).andThen fun _ s' hs _ => ?_
  cases mapGet s'.device id with
  | none => exact hs.trusted.refl
  | some object =>
    refine ends_ite (fun _ => hs.trusted.refl) fun _ => ⟨hs.trusted.setEntry id ?_, trivial⟩
    exact fun value hv => hs.trusted.entryAt hv

/-- The info of a listed object. -/
theorem keeps_listedObjectInfo (id sequence : ℕ) :
    Keeps env records s (fun _ _ => True) (s.listedObjectInfo id sequence) := by
  have hset : Unchanged env records s (s.setEntry id (s.entryAt id sequence)) :=
    h.setEntry id fun value hv => h.entryAt hv
  unfold listedObjectInfo
  dsimp only
  cases (s.entryAt id sequence).info with
  | some info => exact ⟨hset, trivial⟩
  | none =>
    exact hset.keeps (keeps_readObjectInfo hset.trusted id _)

/-- A value that is read is on the device. -/
theorem keeps_readObjectValue (id : ℕ) (info : OpaqueInfo) :
    Keeps env records s (fun value s' => OnDevice s'.device id value)
      (s.readObjectValueWithSession id info) := by
  unfold readObjectValueWithSession
  dsimp only
  have hset : Unchanged env records s (s.setEntry id { s.entryAt id info.sequence with
      info := some ((s.entryAt id info.sequence).info.getD info) }) :=
    h.setEntry id fun value hv => h.entryAt hv
  dsimp only at hset
  cases hvalue : (s.entryAt id info.sequence).value with
  | some value =>
    rw [hvalue] at hset
    exact ⟨hset, h.entryAt hvalue⟩
  | none =>
    rw [hvalue] at hset
    refine hset.keeps ((keeps_command hset.trusted).andThen fun _ s' hs _ => ?_)
    cases hget : mapGet s'.device id with
    | none => exact hs.trusted.refl
    | some object =>
      refine ⟨hs.trusted.setEntry id fun value hv => ?_, object, hget, rfl⟩
      cases hv
      exact ⟨object, hget, rfl⟩

/-- A read session is opened. -/
theorem keeps_ensureReadSession : Keeps env records s (fun _ _ => True) s.ensureReadSession := by
  refine (keeps_reply h).andThen fun answer s' hs _ => ?_
  have hcleared : Unchanged env records s' (if answer.reconnected then { s' with cache := [], writes := [] }
      else s') := by
    split
    · exact ⟨rfl, List.Subset.refl _, by simp, by simp⟩
    · exact hs.trusted.refl
  exact ends_ite (fun _ => ⟨hcleared, trivial⟩) fun _ => hcleared

/-- A value is read after a discovery. -/
theorem keeps_publicRead (id : ℕ) :
    Keeps env records s (fun value s' => OnDevice s'.device id value) (s.publicRead id) := by
  refine (keeps_ensureReadSession h).andThen fun _ s' hs _ => ?_
  have hinfo : Keeps env records s' (fun _ _ => True) (s'.objectInfoWithSession id) := by
    unfold objectInfoWithSession
    split
    · exact ⟨hs.trusted.refl, trivial⟩
    · exact keeps_readObjectInfo hs.trusted id none
  exact hinfo.andThen fun info _ hs _ => keeps_readObjectValue hs.trusted id info

/-- The value of an object of the cache is on the device, whether it is read or known. -/
theorem keeps_storageObjectValue (id : ℕ) (info : OpaqueInfo) :
    Keeps env records s (fun value s' => OnDevice s'.device id value) (s.storageObjectValue id info) := by
  refine (keeps_reply h).andThen fun answer s' hs _ => ?_
  refine ends_ite (fun _ => keeps_readObjectValue hs.trusted id info) fun _ => ?_
  have hread := keeps_publicRead hs.trusted id
  revert hread
  rcases s'.publicRead id with ⟨fault | value, s₁⟩
  · intro (hfailed : Unchanged env records s' s₁)
    refine hfailed.keeps ((keeps_reply hfailed.trusted).andThen fun answer s₂ hs₂ _ => ?_)
    exact ends_ite (fun _ => keeps_publicRead hs₂.trusted id) fun _ => hs₂.trusted.refl
  · exact fun hread => hread

/-- The listed objects are discovered. -/
theorem keeps_discoverListed (listed : List (ℕ × ℕ)) :
    Keeps env records s (fun _ _ => True) (s.discoverListed listed) := by
  induction listed generalizing s with
  | nil => exact ⟨h.refl, trivial⟩
  | cons entry listed ih =>
    refine (keeps_listedObjectInfo h entry.1 entry.2).andThen fun info s' hs _ => ?_
    refine ends_ite (fun _ => ?_) fun _ => ih hs.trusted
    exact (keeps_readObjectValue hs.trusted entry.1 info).andThen fun _ _ hs _ => ih hs.trusted

/-- The cache is refreshed. -/
theorem keeps_refreshStorageObjects :
    Keeps env records s (fun _ _ => True) s.refreshStorageObjects := by
  refine (keeps_reply h).andThen fun answer s' hs _ => ?_
  refine ends_ite (fun _ => ?_) fun _ => ⟨hs.trusted.refl, trivial⟩
  refine (keeps_command hs.trusted).andThen fun _ s₁ hs₁ _ => ?_
  refine (keeps_discoverListed hs₁.trusted _).andThen fun _ s₂ hs₂ _ => ?_
  exact (keeps_command hs₂.trusted).andThen fun _ _ hs _ => ⟨hs.trusted.refl, trivial⟩

/-- `list`. -/
theorem keeps_list : Keeps env records s (fun _ _ => True) (s.list env) := by
  refine (keeps_refreshStorageObjects h).andThen fun infos s' hs _ => ?_
  have hloop : ∀ references, Keeps env records s' (fun _ _ => True) (s'.listRecords env references infos) := by
    replace hs := hs.trusted
    induction infos generalizing s' with
    | nil => exact fun _ => ⟨hs.refl, trivial⟩
    | cons entry infos ih =>
      intro references
      refine (keeps_storageObjectValue hs entry.1 entry.2).andThen fun object s₁ hs₁ _ => ?_
      exact ends_ite (fun _ => ih s₁ hs₁.trusted _) fun _ => hs₁.trusted.refl
  exact hloop []

/-- `get`. -/
theorem keeps_get (reference : ContentReference) :
    Keeps env records s (fun _ _ => True) (s.get env reference) := by
  refine (keeps_refreshStorageObjects h).andThen fun infos s' hs _ => ?_
  replace hs := hs.trusted
  induction infos generalizing s' with
  | nil => exact ⟨hs.refl, trivial⟩
  | cons entry infos ih =>
    refine (keeps_storageObjectValue hs entry.1 entry.2).andThen fun object s₁ hs₁ _ => ?_
    exact ends_ite (fun _ => ⟨hs₁.trusted.refl, trivial⟩) fun _ => ih s₁ hs₁.trusted

end

end Reads

/-! ### Writes and deletions -/

section Writes

variable {env : StorageEnv} {records : Set Bytes} {s : StorageSlot}

/-- How a command that changes the device ends. -/
theorem execute_cases (s : StorageSlot)
    (effect : StorageReply → List (ℕ × DeviceOpaque) → Option (List (ℕ × DeviceOpaque))) :
    (∃ fault, s.execute effect = (.error fault, { s with replies := s.replies.tail })) ∨
    ∃ answer device, answer ∈ s.replies ∧ effect answer s.device = some device ∧
      (s.execute effect = (.ok answer, { s with replies := s.replies.tail, device := device }) ∨
        answer.ok = false ∧ answer.executed = true ∧
          s.execute effect = (.error .device, { s with replies := s.replies.tail, device := device })) := by
  obtain ⟨writes, cache, device, replies⟩ := s
  cases replies with
  | nil => exact .inl ⟨.device, rfl⟩
  | cons answer replies =>
    cases heffect : effect answer device with
    | none => exact .inl ⟨.device, by simp [execute, reply, andThen, heffect]⟩
    | some device' =>
      by_cases hok : answer.ok = true
      · refine .inr ⟨answer, device', List.mem_cons_self, heffect, .inl ?_⟩
        simp [execute, reply, andThen, heffect, hok]
      · by_cases hexecuted : answer.executed = true
        · refine .inr ⟨answer, device', List.mem_cons_self, heffect, .inr ⟨by simpa using hok, hexecuted, ?_⟩⟩
          simp [execute, reply, andThen, heffect, hok, hexecuted]
        · exact .inl ⟨.device, by simp [execute, reply, andThen, heffect, hok, hexecuted]⟩

section

variable (h : Trusted env records s)

include h

/-- One object of the device changes, and what was known of it is forgotten. -/
theorem Trusted.forget {id : ℕ} {device : List (ℕ × DeviceOpaque)} {replies : List StorageReply}
    (hdevice : ∀ id', id' ≠ id → mapGet device id' = mapGet s.device id') :
    Trusted env records ({ s with device := device, replies := replies }.forgetCachedObject id) := by
  refine ⟨fun {reference id'} hmem => ?_, fun {id' entry value} hmem hv => ?_⟩
  · obtain ⟨hold, hne⟩ := List.mem_filter.mp hmem
    obtain ⟨value, hrecord, ⟨object, hget, hvalue⟩, hreference⟩ := h.written hold
    exact ⟨value, hrecord, ⟨object, (hdevice id' (of_decide_eq_true hne)).trans hget, hvalue⟩, hreference⟩
  · obtain ⟨hold, hne⟩ := mem_mapRemove.mp hmem
    obtain ⟨object, hget, hvalue⟩ := h.read hold hv
    exact ⟨object, (hdevice id' hne).trans hget, hvalue⟩

/-- A new object of the device is none that the slot has written or read. -/
theorem Trusted.create {id : ℕ} (hfree : mapHas s.device id = false) (object : DeviceOpaque) :
    Trusted env records { s with device := mapInsert s.device id object } := by
  have hthere : ∀ {id' value}, OnDevice s.device id' value →
      OnDevice (mapInsert s.device id object) id' value := by
    rintro id' value ⟨object', hget, hvalue⟩
    refine ⟨object', ?_, hvalue⟩
    rw [mapGet_mapInsert, if_neg, hget]
    rintro rfl
    exact Bool.eq_false_iff.mp hfree (mapHas_iff.mpr (mem_keys.mpr ⟨object', mapGet_mem hget⟩))
  refine ⟨fun {reference id'} hmem => ?_, fun {id' entry value} hmem hv => hthere (h.read hmem hv)⟩
  obtain ⟨value, hrecord, hvalue, hreference⟩ := h.written hmem
  exact ⟨value, hrecord, hthere hvalue, hreference⟩

/-- An object that is put is on the device. -/
theorem ends_putOpaque (label : String) (object : Bytes) : (s.putOpaque label object).Ends
      (fun id s' => Trusted env records s' ∧ OnDevice s'.device id object) (Trusted env records) := by
  unfold putOpaque
  rcases execute_cases s fun answer device =>
    if mapHas device answer.id then none
    else some (mapInsert device answer.id ⟨⟨answer.sequence, opaqueData, label⟩, object⟩) with
    ⟨fault, hcommand⟩ | ⟨answer, device, -, heffect, hcommand | ⟨-, -, hcommand⟩⟩
  · rw [hcommand]
    exact ⟨h.written, h.read⟩
  · rw [hcommand]
    split_ifs at heffect
    cases heffect
    refine ⟨h.forget fun id hid => ?_, ⟨⟨answer.sequence, opaqueData, label⟩, object⟩, ?_, rfl⟩
    · rw [mapGet_mapInsert, if_neg hid]
    · simp [forgetCachedObject, mapGet_mapInsert]
  · rw [hcommand]
    split_ifs at heffect with hfree
    cases heffect
    have hcreated := h.create (Bool.eq_false_iff.mpr hfree)
      ⟨⟨answer.sequence, opaqueData, label⟩, object⟩
    exact ⟨hcreated.written, hcreated.read⟩

/-- A record of either kind is written. -/
theorem ends_writeRecord (kind : RecordKind) (object : Bytes) (reference : ContentReference) :
    (match kind with
      | .companion => s.writeBackedKeyMetadata object
      | .publicKey => s.writeStandaloneStorageObject object reference).Ends
      (fun id s' => Trusted env records s' ∧ OnDevice s'.device id object) (Trusted env records) := by
  cases kind with
  | publicKey => exact ends_putOpaque h _ object
  | companion =>
    refine (keeps_ensureReadSession h).trusted.andThen fun _ s₁ hs₁ => ?_
    exact (keeps_command hs₁.1).trusted.andThen fun _ s₂ hs₂ => ends_putOpaque hs₂.1 _ object

end

/-- `put` returns Ok when the object is known to be there or has been written. -/
theorem ends_put (hinjective : Set.InjOn env.forObject records) (h : Trusted env records s)
    {object : Bytes} (hobject : object ∈ records) :
    (s.put env object).Ends (fun _ s' => Trusted env records s' ∧ ∃ id, OnDevice s'.device id object)
      (Trusted env records) := by
  unfold put
  cases env.recordKind object with
  | none => exact h
  | some kind =>
    refine ends_ite (fun hwritten => ⟨h, ?_⟩) fun _ => ?_
    · obtain ⟨id, hid⟩ := mem_keys.mp (mapHas_iff.mp hwritten)
      obtain ⟨value, hrecord, hvalue, hreference⟩ := h.written hid
      exact ⟨id, hinjective hrecord hobject hreference ▸ hvalue⟩
    · have hholds : ∀ infos {s : StorageSlot}, Trusted env records s →
          Keeps env records s (fun found s' => found = true → ∃ id, OnDevice s'.device id object)
            (s.holdsRecord env object (env.forObject object) infos) := by
        intro infos
        induction infos with
        | nil => exact fun hs => ⟨hs.refl, nofun⟩
        | cons entry infos ih =>
          intro s hs
          refine (keeps_storageObjectValue hs entry.1 entry.2).andThen fun existing s' hs' hread => ?_
          refine ends_ite (fun hsame => ⟨hs'.trusted.refl, fun _ => ⟨entry.1, ?_⟩⟩) fun _ =>
            ih hs'.trusted
          exact hsame.2 ▸ hread
      refine (hholds _ h).trusted.andThen fun found s' hs =>
        ends_ite (fun hfound => ⟨hs.1, hs.2 hfound⟩) fun _ => ?_
      refine (ends_writeRecord hs.1 kind object (env.forObject object)).andThen fun id s₁ hs₁ =>
        ⟨⟨fun {reference id'} hmem => ?_, hs₁.1.read⟩, id, hs₁.2⟩
      rcases mem_mapInsert.mp hmem with hnew | ⟨hold, _⟩
      · cases hnew
        exact ⟨object, hobject, hs₁.2, rfl⟩
      · exact hs₁.1.written hold

/-- Every object of the device that is not there any more, or not the same, has the reference. -/
def DeletesOnly (env : StorageEnv) (reference : ContentReference)
    (device device' : List (ℕ × DeviceOpaque)) : Prop :=
  ∀ id object, mapGet device id = some object → mapGet device' id ≠ some object →
    env.forObject object.value = reference

/-- The device that `DeleteObject` leaves. -/
theorem removed_of_effect {device device' : List (ℕ × DeviceOpaque)} {id : ℕ}
    (h : (if mapHas device id then some (mapRemove device id) else none) = some device') :
    device' = mapRemove device id := by
  split_ifs at h
  exact (Option.some.inj h).symm

/-- Objects with the reference are deleted. -/
theorem deleteMetadataObjects_only {reference : ContentReference} {ids : List ℕ}
    (hids : ∀ id ∈ ids, ∀ object, mapGet s.device id = some object →
      env.forObject object.value = reference) :
    DeletesOnly env reference s.device (s.deleteMetadataObjects ids).2.device := by
  induction ids generalizing s with
  | nil => exact fun id object hget hgone => absurd hget hgone
  | cons id ids ih =>
    have hrest : ∀ s' : StorageSlot, s'.device = mapRemove s.device id →
        DeletesOnly env reference s.device (s'.deleteMetadataObjects ids).2.device := by
      intro s' hdevice id' object hget hlater
      by_cases hid : id' = id
      · exact hids id' (hid ▸ List.mem_cons_self) object hget
      · have honly : DeletesOnly env reference s'.device (s'.deleteMetadataObjects ids).2.device := by
          refine ih fun id' hid' object hget => ?_
          rw [hdevice, mapGet_mapRemove] at hget
          split_ifs at hget
          exact hids id' (List.mem_cons_of_mem id hid') object hget
        refine honly id' object ?_ hlater
        rw [hdevice, mapGet_mapRemove, if_neg hid, hget]
    unfold deleteMetadataObjects
    rcases execute_cases s fun _ device => if mapHas device id then some (mapRemove device id) else none with
      ⟨fault, hcommand⟩ | ⟨answer, device, -, heffect, hcommand | ⟨-, -, hcommand⟩⟩
    · rw [hcommand]
      refine ih (s := { s with replies := s.replies.tail }) fun id' hid' => ?_
      exact hids id' (List.mem_cons_of_mem id hid')
    · rw [hcommand]
      exact hrest _ (removed_of_effect heffect)
    · rw [hcommand]
      exact hrest _ (removed_of_effect heffect)

/-- No command that fails has been executed. -/
def DeletionsReported (replies : List StorageReply) : Prop :=
  ∀ answer ∈ replies, answer.ok = false → answer.executed = false

/-- What is deleted is forgotten, unless the answer is lost. -/
theorem Trusted.deleteMetadataObjects (h : Trusted env records s) (hreported : DeletionsReported s.replies)
    (ids : List ℕ) : Trusted env records (s.deleteMetadataObjects ids).2 := by
  induction ids generalizing s with
  | nil => exact h
  | cons id ids ih =>
    have htail : DeletionsReported s.replies.tail := fun answer hmem =>
      hreported answer (List.mem_of_mem_tail hmem)
    unfold StorageSlot.deleteMetadataObjects
    rcases execute_cases s fun _ device => if mapHas device id then some (mapRemove device id) else none with
      ⟨fault, hcommand⟩ | ⟨answer, device, hmem, heffect, hcommand | ⟨hlost, hexecuted, -⟩⟩
    · rw [hcommand]
      exact ih ⟨h.written, h.read⟩ htail
    · rw [hcommand]
      cases removed_of_effect heffect
      refine ih (s := forgetCachedObject _ id) ?_ htail
      exact h.forget fun id' hid' => by rw [mapGet_mapRemove, if_neg hid']
    · rw [hreported answer hmem hlost] at hexecuted
      cases hexecuted

/-- What `delete` deletes. -/
theorem delete_only (h : Trusted env records s) (reference : ContentReference) :
    (DeletionsReported s.replies → Trusted env records (s.delete env reference).2) ∧
      DeletesOnly env reference s.device (s.delete env reference).2.device := by
  have hmatching : ∀ infos {s : StorageSlot} (ids : List ℕ), Trusted env records s →
      (∀ id ∈ ids, ∃ value, OnDevice s.device id value ∧ env.forObject value = reference) →
      Keeps env records s (fun ids s' => ∀ id ∈ ids, ∃ value, OnDevice s'.device id value ∧
        env.forObject value = reference) (s.matching env reference ids infos) := by
    intro infos
    induction infos with
    | nil => exact fun _ hs hids => ⟨hs.refl, hids⟩
    | cons entry infos ih =>
      intro s ids hs hids
      refine (keeps_storageObjectValue hs entry.1 entry.2).andThen fun object s' hs' hread =>
        ih _ hs'.trusted fun id hid => ?_
      rw [← hs'.device] at hids
      split_ifs at hid with hsame
      · rcases List.mem_append.mp hid with hold | hnew
        · exact hids id hold
        · rw [List.mem_singleton.mp hnew]
          exact ⟨object, hread, hsame.1⟩
      · exact hids id hid
  have hfound := hmatching s.cachedStorageObjects (mapGet s.writes reference).toList h
    fun id hid => by
      obtain ⟨value, -, hvalue⟩ := h.written (mapGet_mem (Option.mem_toList.mp hid))
      exact ⟨value, hvalue⟩
  unfold delete
  revert hfound
  rcases s.matching env reference (mapGet s.writes reference).toList s.cachedStorageObjects with
    ⟨fault | ids, s₁⟩
  · intro (hs₁ : Unchanged env records s s₁)
    refine ⟨fun _ => hs₁.trusted, fun id object hget hgone => ?_⟩
    rw [← hs₁.device] at hget
    exact absurd hget hgone
  · rintro ⟨hs₁, hids⟩
    rw [← hs₁.device]
    simp only [andThen]
    split_ifs
    · exact ⟨fun _ => hs₁.trusted, fun id object hget hgone => absurd hget hgone⟩
    · have hvalues : ∀ id ∈ ids, ∀ object, mapGet s₁.device id = some object →
          env.forObject object.value = reference := by
        intro id hid object hget
        obtain ⟨value, ⟨object', hget', rfl⟩, hvalue⟩ := hids id hid
        rw [hget] at hget'
        cases hget'
        exact hvalue
      have honly := deleteMetadataObjects_only (s := s₁) hvalues
      have htrusted : DeletionsReported s.replies → Trusted env records (s₁.deleteMetadataObjects ids).2 :=
        fun hreported => hs₁.trusted.deleteMetadataObjects
          (fun answer hmem => hreported answer (hs₁.replies hmem)) ids
      grind

end Writes

/-! ### Runs -/

/-- Another client does not change an object that the slot has written or whose value it has read, and no
answer to a deletion is lost.  The objects that the slot stores are some of the records. -/
def LeavesAlone (records : Set Bytes) (s : StorageSlot) : StorageEvent → Prop
  | .put _ object => object ∈ records
  | .delete replies _ => DeletionsReported replies
  | .other id _ => (∀ reference, (reference, id) ∉ s.writes) ∧
      ∀ entry, (id, entry) ∈ s.cache → entry.value = none
  | _ => True

/-- One step keeps the invariant. -/
theorem Trusted.step {env : StorageEnv} {records : Set Bytes}
    (hinjective : Set.InjOn env.forObject records) {s s' : StorageSlot} {event : StorageEvent}
    (h : Trusted env records s) (halone : LeavesAlone records s event)
    (hstep : s.step env event = some s') : Trusted env records s' := by
  have hstart : ∀ replies, Trusted env records { s with replies := replies } := fun _ => ⟨h.written, h.read⟩
  cases event with
  | list replies =>
    cases hstep
    exact ((keeps_list (hstart replies)).trusted.imp (fun _ _ hs => hs.1) fun _ hs => hs).state
  | get replies reference =>
    cases hstep
    exact ((keeps_get (hstart replies) reference).trusted.imp (fun _ _ hs => hs.1) fun _ hs => hs).state
  | put replies object =>
    cases hstep
    exact ((ends_put hinjective (hstart replies) halone).imp (fun _ _ hs => hs.1) fun _ hs => hs).state
  | delete replies reference =>
    cases hstep
    exact (delete_only (hstart replies) reference).1 halone
  | other id object =>
    cases hstep
    obtain ⟨hwrites, hcache⟩ := halone
    have hother : ∀ id', id' ≠ id → mapGet (s.change id object).device id' = mapGet s.device id' := by
      intro id' hid'
      cases object <;> simp [change, mapGet_mapRemove, mapGet_mapInsert, hid']
    have hsame : (s.change id object).writes = s.writes ∧ (s.change id object).cache = s.cache := by
      cases object <;> exact ⟨rfl, rfl⟩
    refine ⟨fun {reference id'} hmem => ?_, fun {id' entry value} hmem hv => ?_⟩
    · rw [hsame.1] at hmem
      obtain ⟨value, hrecord, ⟨object', hget, hvalue⟩, hreference⟩ := h.written hmem
      refine ⟨value, hrecord, ⟨object', (hother id' ?_).trans hget, hvalue⟩, hreference⟩
      rintro rfl
      exact hwrites reference hmem
    · rw [hsame.2] at hmem
      obtain ⟨object', hget, hvalue⟩ := h.read hmem hv
      refine ⟨object', (hother id' ?_).trans hget, hvalue⟩
      rintro rfl
      rw [hcache entry hmem] at hv
      cases hv

/-- **The storage provider and other clients.**  Whatever the device holds at first, and in every run of calls
in which other clients change no object that the slot has written or whose value it has read, no answer to a
deletion is lost, and the digests of the records that the slot stores do not collide: `put` returns Ok only if
an opaque object with the value is on the device, and `delete` deletes no opaque object but those whose value
has the reference. -/
theorem storage_tolerates_other_clients (env : StorageEnv) (records : Set Bytes)
    (hinjective : Set.InjOn env.forObject records) (device : List (ℕ × DeviceOpaque))
    (events : List StorageEvent) (s : StorageSlot)
    (hrun : run (StorageSlot.step env) ⟨[], [], device, []⟩ events = some s)
    (halone : Along (StorageSlot.step env) (LeavesAlone records) ⟨[], [], device, []⟩ events) :
    (∀ replies, ∀ object ∈ records, ∀ reference,
      ({ s with replies := replies }.put env object).1 = .ok reference →
      ∃ id opaqueObject, mapGet ({ s with replies := replies }.put env object).2.device id =
        some opaqueObject ∧ opaqueObject.value = object) ∧
    ∀ replies reference id opaqueObject, mapGet s.device id = some opaqueObject →
      mapGet ({ s with replies := replies }.delete env reference).2.device id ≠ some opaqueObject →
      env.forObject opaqueObject.value = reference := by
  have hs : Trusted env records s := by
    refine run_induction (Trusted env records) (fun s event s' h halone hstep => h.step hinjective halone hstep)
      events _ s ⟨?_, ?_⟩ halone hrun
    · intro reference id hmem
      cases hmem
    · intro id entry value hmem
      cases hmem
  have hstart : ∀ replies, Trusted env records { s with replies := replies } := fun _ => ⟨hs.written, hs.read⟩
  refine ⟨fun replies object hobject reference hok => ?_, fun replies reference => ?_⟩
  · exact ((ends_put hinjective (hstart replies) hobject).of_ok hok).2
  · exact (delete_only (hstart replies) reference).2

/-! ### Runs of a few calls -/

/-- Every value is a record of a public key, and a value is its own reference. -/
def plainEnv : StorageEnv := ⟨id, fun _ => true, fun _ => some .publicKey⟩

def recordEvents (later : StorageEvent) : List StorageEvent :=
  [.put [{ id := 7, sequence := 1 }] [1], later]

/-- Another client stores another object, a record is put and deleted, and the answer to a `PutOpaque` is
lost. -/
def sharedEvents : List StorageEvent :=
  recordEvents (.other 8 (some ⟨⟨1, opaqueData, "pkcs11rs stored 02"⟩, [2]⟩)) ++
    [.put [{ id := 9, sequence := 1 }] [3], .delete [{}] [3],
      .put [{ ok := false, executed := true, id := 9, sequence := 2 }] [3]]

/-- The record is still there, and its deletion leaves the object of the other client. -/
theorem storage_tolerates_other_clients_shared :
    ∃ s, run (StorageSlot.step plainEnv) ⟨[], [], [], []⟩ sharedEvents = some s ∧
      (s.put plainEnv [1]).1 = .ok [1] ∧
      (∃ id opaqueObject, mapGet (s.put plainEnv [1]).2.device id = some opaqueObject ∧
        opaqueObject.value = [1]) ∧
      ({ s with replies := [{}] }.delete plainEnv [1]).1 = .ok true ∧
      mapHas ({ s with replies := [{}] }.delete plainEnv [1]).2.device 8 = true := by
  obtain ⟨s, hrun, hok, hdeleted, hthere⟩ :
      ∃ s, run (StorageSlot.step plainEnv) ⟨[], [], [], []⟩ sharedEvents = some s ∧
        (s.put plainEnv [1]).1 = .ok [1] ∧
        ({ s with replies := [{}] }.delete plainEnv [1]).1 = .ok true ∧
        mapHas ({ s with replies := [{}] }.delete plainEnv [1]).2.device 8 = true :=
    ⟨_, rfl, by decide, by decide, by decide⟩
  have halone : Along (StorageSlot.step plainEnv) (LeavesAlone {[1], [3]}) ⟨[], [], [], []⟩
      sharedEvents := by
    refine ⟨.inl rfl, ?_⟩
    rintro _ ⟨⟩
    refine ⟨⟨?_, ?_⟩, ?_⟩
    · intro reference hmem
      cases List.mem_singleton.mp hmem
    · intro entry hmem
      cases hmem
    rintro _ ⟨⟩
    refine ⟨.inr rfl, fun _ _ => ⟨?_, fun _ _ => ⟨.inr rfl, fun _ _ => trivial⟩⟩⟩
    intro answer hmem hfailed
    cases List.mem_singleton.mp hmem
    cases hfailed
  have hinjective : Set.InjOn plainEnv.forObject {[1], [3]} := fun _ _ _ _ h => h
  obtain ⟨hput, -⟩ := storage_tolerates_other_clients plainEnv {[1], [3]} hinjective [] _ s hrun halone
  exact ⟨s, hrun, hok, hput s.replies [1] (.inl rfl) [1] hok, hdeleted, hthere⟩

/-- Another client deletes the object that the slot has written, or the answer to its own deletion is lost:
`put` still returns Ok.  Another client replaces it: `delete` deletes the new object, which has another
reference. -/
theorem storage_trusts_its_writes :
    (∃ s, run (StorageSlot.step plainEnv) ⟨[], [], [], []⟩ (recordEvents (.other 7 none)) = some s ∧
      (s.put plainEnv [1]).1 = .ok [1] ∧ (s.put plainEnv [1]).2.device = []) ∧
    (∃ s, run (StorageSlot.step plainEnv) ⟨[], [], [], []⟩
        (recordEvents (.other 7 (some ⟨⟨2, opaqueData, "pkcs11rs stored 02"⟩, [2]⟩))) = some s ∧
      (mapGet s.device 7).map (·.value) = some [2] ∧
      ({ s with replies := [{}] }.delete plainEnv [1]).1 = .ok true ∧
      ({ s with replies := [{}] }.delete plainEnv [1]).2.device = []) ∧
    ∃ s, run (StorageSlot.step plainEnv) ⟨[], [], [], []⟩
        (recordEvents (.delete [{ ok := false, executed := true }] [1])) = some s ∧
      (s.put plainEnv [1]).1 = .ok [1] ∧ (s.put plainEnv [1]).2.device = [] :=
  ⟨⟨_, rfl, by decide, by decide⟩, ⟨_, rfl, by decide, by decide, by decide⟩, _, rfl, by decide, by decide⟩

end Pkcs11rs.Analysis
