import Mathlib.Logic.Relation
import Pkcs11rs.Model.SlotSessions
import Pkcs11rs.Analysis.ObjectHandles

/-!
# Edits of the handle maps

What the operations on a slot do to its maps, said once: `ListEdit` are the changes that a listing of
the token makes, `Edit` all the others.  Every operation is a sequence of edits, whatever the slot and
the storage answer and whether it succeeds.  A property of every operation is then a property of the
edits; `Analysis.LiveHandles` and `Analysis.SessionCleanup` use them in this way.

The two routines that edit the object map directly, `clear_login_state` and `C_CloseAllSessions`, are
not made of edits.
-/

set_option autoImplicit false

namespace Pkcs11rs.Analysis

open Pkcs11rs.Library Pkcs11rs.Model SlotState

variable {h handle : ObjectHandle} {answers : Answers} {session : SessionHandle}
  {updated : TokenObject}

open Relation (ReflTransGen)

variable {rebindings : List (ObjectHandle × String)} {object previous : TokenObject}

/-! ## Edits -/

/-- A change that a listing of the token objects makes. -/
inductive ListEdit : SlotState → SlotState → Prop where
  /-- `remove_object_handle`, for handles of token objects. -/
  | removed {s : SlotState} (handles : List ObjectHandle)
      (htoken : ∀ h ∈ handles, h ∈ keys s.tokenObjectHandles) :
      ListEdit s (s.removeObjectHandles handles)
  /-- `record_backed_objects`: entries for handles of token objects. -/
  | listed {s : SlotState} (stored : List (String × TokenObject))
      (references : List (String × ContentReference))
      (handles : List (ObjectHandle × ContentReference))
      (hstored : ∀ u o, (u, o) ∈ stored → o.token = true)
      (hhandles : ∀ h, h ∉ keys s.tokenObjectHandles →
        mapGet handles h = mapGet s.backedObjectHandles h) :
      ListEdit s { s with
        backedTokenObjects := stored
        backedObjectReferences := references
        backedObjectHandles := handles }
  /-- Handles of token objects get other locators. -/
  | rebound {s : SlotState} (rebindings : List (ObjectHandle × String))
      (hknown : ∀ p ∈ rebindings, p.1 ∈ keys s.tokenObjectHandles) :
      ListEdit s (s.rebind rebindings)
  /-- A new handle for a token object. -/
  | named {s s₁ : SlotState} {handle : ObjectHandle} (uniqueId : String)
      (halloc : s.allocateObject = some (handle, s₁)) :
      ListEdit s
        { s₁ with tokenObjectHandles := mapInsert s₁.tokenObjectHandles handle uniqueId }

/-- A session object belongs to an open session, a token object to none. -/
structure HasOwner (opens : SessionHandle → Prop) (object : TokenObject) : Prop where
  token : object.token = true → object.creatorSession = none
  session : object.token = false → ∃ c, opens c ∧ object.creatorSession = some c

/-- A change of the maps; `opens` are the sessions that may create objects. -/
inductive Edit (opens : SessionHandle → Prop) : SlotState → SlotState → Prop where
  | list {s s' : SlotState} (h : ListEdit s s') : Edit opens s s'
  /-- `remove_object_handle`, for any handles. -/
  | removed (s : SlotState) (handles : List ObjectHandle) :
      Edit opens s (s.removeObjectHandles handles)
  /-- The books about stored objects, with new entries for handles in use only. -/
  | booked {s : SlotState} (references : List (String × ContentReference))
      (handles : List (ObjectHandle × ContentReference))
      (hhandles : ∀ h, h ∉ s.liveHandles → mapGet s.backedObjectHandles h = none →
        mapGet handles h = none) :
      Edit opens s { s with backedObjectReferences := references, backedObjectHandles := handles }
  /-- A new object. -/
  | created {s s₁ : SlotState} {handle : ObjectHandle} (object : TokenObject)
      (halloc : s.allocateObject = some (handle, s₁)) (howner : HasOwner opens object) :
      Edit opens s { s₁ with memoryObjects := mapInsert s₁.memoryObjects handle object }
  /-- An object changes and stays with its session. -/
  | changed {s : SlotState} {handle : ObjectHandle} {object : TokenObject} (updated : TokenObject)
      (hobject : (handle, object) ∈ s.memoryObjects) (htoken : updated.token = object.token)
      (howner : updated.creatorSession = object.creatorSession) :
      Edit opens s { s with memoryObjects := mapInsert s.memoryObjects handle updated }
  /-- A handle is taken from the counter. -/
  | skipped {s s₁ : SlotState} {handle : ObjectHandle}
      (halloc : s.allocateObject = some (handle, s₁)) : Edit opens s s₁

/-- Any number of listing edits. -/
abbrev ListEdits : SlotState → SlotState → Prop := ReflTransGen ListEdit

/-- Any number of edits. -/
abbrev Edits (opens : SessionHandle → Prop) : SlotState → SlotState → Prop :=
  ReflTransGen (Edit opens)

/-- Listings are edits. -/
theorem ListEdits.edits {opens : SessionHandle → Prop} {s s' : SlotState} (h : ListEdits s s') :
    Edits opens s s' :=
  ReflTransGen.mono (fun _ _ => Edit.list) _ _ h

/-- The handles in use. -/
theorem mem_liveHandles {s : SlotState} :
    h ∈ s.liveHandles ↔ h ∈ keys s.memoryObjects ∨ h ∈ keys s.tokenObjectHandles :=
  List.mem_append

/-! ## Listing the token -/

section Listing

variable {s : SlotState}

/-- Handles are allocated. -/
theorem allocateHandles_edits (ids : List String) :
    ∀ s : SlotState, ListEdits s (allocateHandles ids s).2 := by
  induction ids with
  | nil => exact fun s => .refl
  | cons u ids ih =>
    intro s
    unfold allocateHandles
    cases halloc : s.allocateObject with
    | none => exact .refl
    | some given => exact .head (.named u halloc) (ih _)

/-- The check of the rebindings is about the handles before the conflicting ones are removed, which
are not among them. -/
theorem mem_keys_after_conflicts (hknown : ∀ p ∈ rebindings, p.1 ∈ keys s.tokenObjectHandles) :
    ∀ p ∈ rebindings,
      p.1 ∈ keys (s.removeObjectHandles (s.conflicts rebindings)).tokenObjectHandles := by
  intro p hp
  obtain ⟨u, hu⟩ := mem_keys.mp (hknown p hp)
  rw [removeObjectHandles_token]
  refine mem_keys.mpr ⟨u, List.mem_filter.mpr ⟨hu, ?_⟩⟩
  simp only [decide_eq_true_eq]
  intro hconflict
  obtain ⟨entry, hentry, heq⟩ := List.mem_map.mp hconflict
  grind

/-- Conflicts are token handles. -/
theorem mem_token_of_conflicts (hh : h ∈ s.conflicts rebindings) :
    h ∈ keys s.tokenObjectHandles := by
  obtain ⟨entry, hentry, rfl⟩ := List.mem_map.mp hh
  exact List.mem_map.mpr ⟨entry, (List.mem_filter.mp hentry).1, rfl⟩

/-- Unlisted handles are token handles. -/
theorem mem_token_of_unlisted {ids : List String} (hh : h ∈ s.unlisted ids) :
    h ∈ keys s.tokenObjectHandles := by
  obtain ⟨entry, hentry, rfl⟩ := List.mem_map.mp hh
  exact List.mem_map.mpr ⟨entry, (List.mem_filter.mp hentry).1, rfl⟩

section

variable (s : SlotState)

/-- A reconciliation. -/
theorem reconcile_edits (objects : List TokenObject) (rebindings : List (ObjectHandle × String)) :
    ListEdits s (s.reconcileWithRebindings objects rebindings).2 := by
  unfold reconcileWithRebindings
  dsimp only
  split_ifs with hbad
  · exact .refl
  · cases hcheck : s.checkRebindings (tokenUniqueIds objects) rebindings with
    | error error => exact .refl
    | ok _ =>
      have hknown : ∀ p ∈ rebindings, p.1 ∈ keys s.tokenObjectHandles := fun p hp =>
        (checkRebindings_ok hcheck p hp).1
      have hconflicts : ListEdit s (s.removeObjectHandles (s.conflicts rebindings)) :=
        .removed _ fun h hh => mem_token_of_conflicts hh
      have hrebind := ListEdit.rebound rebindings (mem_keys_after_conflicts hknown)
      refine .head hconflicts (.head hrebind (.head (.removed _ ?_) (allocateHandles_edits _ _)))
      exact fun h hh => mem_token_of_unlisted hh

/-- The stored objects are recorded. -/
theorem recordBackedObjects_edit {stored : List (ContentReference × TokenObject)}
    (h : answers.storedTokenObjects = .ok stored) : ListEdit s (s.recordBackedObjects stored) := by
  refine ListEdit.listed _ _ _ (fun u o ho => ?_) fun handle hhandle => ?_
  · rcases mem_or_mem_of_mem_mapInsertAll ho with hnew | hold
    · obtain ⟨entry, hentry, heq⟩ := List.mem_map.mp hnew
      rw [← (Prod.mk.inj heq).2]
      exact (storedTokenObjects_entry h entry hentry).1
    · cases hold
  · refine mapGet_mapInsertAll_of_not_mem fun hmem => hhandle ?_
    obtain ⟨entry, hentry, rfl⟩ := List.mem_map.mp hmem
    grind [Option.map_eq_some_iff, mem_keys_of_mem]

/-- A refresh with rebindings. -/
theorem refreshWithRebindings_edits (answers : Answers) (rebindings : List (ObjectHandle × String)) :
    ListEdits s (s.refreshWithRebindings answers rebindings).2 := by
  unfold refreshWithRebindings
  cases answers.device with
  | error error => exact .refl
  | ok objects =>
    cases hstored : answers.storedTokenObjects with
    | error error => exact .refl
    | ok stored => exact .head (recordBackedObjects_edit s hstored) (reconcile_edits _ _ _)

/-- A refresh. -/
theorem refresh_edits (answers : Answers) : ListEdits s (s.refresh answers).2 :=
  refreshWithRebindings_edits s answers []

end

end Listing

/-! ## Objects -/

section Objects

variable {opens : SessionHandle → Prop} {s : SlotState}

/-- An object of an open session, or a token object. -/
theorem setCreator_owner (object : TokenObject) (slot : Ulong)
    (hsession : object.token = false → opens session) :
    HasOwner opens (object.setCreator session slot) := by
  constructor
  · intro htoken
    have hobject : object.token = true := htoken
    simp [TokenObject.setCreator, hobject]
  · grind [TokenObject.setCreator]

/-- An object is inserted. -/
theorem insertObject_edits (s : SlotState) (object : TokenObject) (howner : HasOwner opens object) :
    Edits opens s (s.insertObject object).2 ∧
      ∀ handle, (s.insertObject object).1 = .ok handle →
        handle ∈ (s.insertObject object).2.liveHandles := by
  unfold insertObject
  cases halloc : s.allocateObject with
  | none => exact ⟨.refl, nofun⟩
  | some given =>
    refine ⟨.single (.created _ halloc ?_), fun _ h => ?_⟩
    · split_ifs
      · exact ⟨howner.token, howner.session⟩
      · exact howner
    · cases h
      exact mem_liveHandles.mpr (.inl (mem_keys_mapInsert.mpr (.inl rfl)))

/-- Session objects are inserted. -/
theorem insertSessionObjects_edits (hsession : opens session) (objects : List TokenObject) :
    ∀ s : SlotState, Edits opens s (insertSessionObjects session objects s).2 := by
  induction objects with
  | nil => exact fun s => .refl
  | cons object objects ih =>
    intro s
    unfold insertSessionObjects
    split_ifs with htoken hknown
    · exact ih s
    · exact ih s
    · have hinsert := (insertObject_edits s (object.setCreator session s.slotId)
        (setCreator_owner object s.slotId fun _ => hsession)).1
      generalize s.insertObject (object.setCreator session s.slotId) = inserted at hinsert
      obtain ⟨result, s₁⟩ := inserted
      cases result with
      | error error => exact hinsert
      | ok handle => exact hinsert.trans (ih s₁)

/-- A note of the reference of a handle in use. -/
theorem noted_edit (reference : ContentReference) (references : List (String × ContentReference))
    (hlive : handle ∈ s.liveHandles) :
    Edit opens s { s with
      backedObjectReferences := references
      backedObjectHandles := mapInsert s.backedObjectHandles handle reference } := by
  refine Edit.booked _ _ fun h hh hnone => ?_
  have hne : h ≠ handle := fun heq => hh (heq ▸ hlive)
  rw [mapGet_mapInsert, if_neg hne, hnone]

/-- An edit and a listing after it. -/
theorem Edit.refreshed {s₁ : SlotState} (h : Edit opens s s₁) (answers : Answers)
    (rebindings : List (ObjectHandle × String)) :
    Edits opens s (s₁.refreshWithRebindings answers rebindings).2 :=
  .head h (refreshWithRebindings_edits s₁ answers rebindings).edits

/-- `store_backed_object`. -/
theorem storeBackedObject_edits (s : SlotState) (answers : Answers) (object : TokenObject)
    (hsession : object.token = false → opens session) :
    Edits opens s (s.storeBackedObject answers session object).2 := by
  unfold storeBackedObject
  cases answers.put with
  | error error => exact .refl
  | ok reference =>
    dsimp only
    split_ifs with htoken
    · have hrecord : Edit opens s { s with
          backedObjectReferences := mapInsert s.backedObjectReferences
            (backedObjectUniqueId reference) reference } :=
        Edit.booked _ _ fun _ _ hnone => hnone
      have hrefresh := hrecord.refreshed answers []
      unfold refresh
      generalize refreshWithRebindings _ answers [] = refreshed at hrefresh
      obtain ⟨result, s₁⟩ := refreshed
      cases result with
      | error error => exact hrefresh
      | ok _ =>
        dsimp only
        split
        · exact hrefresh
        · rename_i handle _ hfind
          refine hrefresh.tail (noted_edit reference _ ?_)
          exact mem_liveHandles.mpr (.inr (mem_keys_of_mem (List.mem_of_find?_eq_some hfind)))
    · obtain ⟨hinsert, hlive⟩ := insertObject_edits s (object.setCreator session s.slotId)
        (setCreator_owner object s.slotId hsession)
      generalize s.insertObject (object.setCreator session s.slotId) = inserted at hinsert hlive
      obtain ⟨result, s₁⟩ := inserted
      cases result with
      | error error => exact hinsert
      | ok handle => exact hinsert.tail (noted_edit reference _ (hlive handle rfl))

/-- `destroy_backed_object`. -/
theorem destroyBackedObject_edits (s : SlotState) (answers : Answers) (handle : ObjectHandle)
    (object : TokenObject) : Edits opens s (s.destroyBackedObject answers handle object).2 := by
  unfold destroyBackedObject
  cases s.backedReference handle object with
  | none => exact .refl
  | some reference =>
    dsimp only
    split
    · exact .refl
    · have hforget : ∀ references : List (String × ContentReference), Edit opens s { s with
          backedObjectReferences := references
          backedObjectHandles := mapRemove s.backedObjectHandles handle } := by
        refine fun references => Edit.booked _ _ fun h _ hnone => ?_
        rw [mapGet_mapRemove, hnone, ite_self]
      split_ifs with htoken
      · have hrefresh := (hforget (mapRemove s.backedObjectReferences object.uniqueId)).refreshed
          answers []
        grind [refresh]
      · exact .head (hforget s.backedObjectReferences) (.single (.removed _ [handle]))

/-- The object that a call changes is in use. -/
theorem resolveObject_live (h : s.resolveObject answers handle = .ok (some object)) :
    handle ∈ s.liveHandles := by
  rw [mem_liveHandles]
  by_cases hkey : handle ∈ keys s.tokenObjectHandles
  · exact .inr hkey
  · exact .inl (mem_keys_of_mem (resolveObject_memory h hkey))

/-- `replace_backed_object`; the handle resolves to the previous object. -/
theorem replaceBackedObject_edits {resolving : Answers}
    (hdisjoint : ∀ h ∈ keys s.memoryObjects, h ∉ keys s.tokenObjectHandles)
    (hstored : ∀ u o, (u, o) ∈ s.backedTokenObjects → o.token = true)
    (hresolved : s.resolveObject resolving handle = .ok (some previous))
    (htoken : updated.token = previous.token) :
    Edits opens s (s.replaceBackedObject answers handle previous updated).2 := by
  unfold replaceBackedObject
  cases s.backedReference handle previous with
  | none => exact .refl
  | some previousReference =>
    dsimp only
    cases s.replaceStored answers handle previousReference previous updated with
    | error error => exact .refl
    | ok reference =>
      split_ifs with hupdated
      · have hnoted : Edit opens s { s with
            backedObjectReferences :=
              mapInsert (mapRemove s.backedObjectReferences previous.uniqueId)
                (backedObjectUniqueId reference) reference
            backedObjectHandles := mapInsert s.backedObjectHandles handle reference } :=
          noted_edit reference _ (resolveObject_live hresolved)
        have hrefresh := hnoted.refreshed answers [(handle, backedObjectUniqueId reference)]
        grind
      · cases hcreator : previous.creatorSession with
        | none => exact .refl
        | some creator =>
          have hkey : handle ∉ keys s.tokenObjectHandles := fun hkey =>
            hupdated (htoken.trans (resolveObject_token hdisjoint hstored hresolved hkey))
          have hmemory := resolveObject_memory hresolved hkey
          have hchanged : Edit opens s { s with
              memoryObjects := mapInsert s.memoryObjects handle
                { updated.setCreator creator s.slotId with uniqueId := previous.uniqueId } } := by
            refine Edit.changed _ hmemory htoken ?_
            simp [TokenObject.setCreator, hupdated, hcreator]
          refine .head hchanged (.single (noted_edit reference _ ?_))
          exact mem_liveHandles.mpr (.inl (mem_keys_mapInsert.mpr (.inl rfl)))

/-! ## Destroying and changing objects -/

/-- Handles are removed. -/
theorem removed_edits (s : SlotState) (handles : List ObjectHandle) :
    Edits opens s (s.removeObjectHandles handles) :=
  .single (.removed s handles)

/-- `destroy_object`. -/
theorem destroyObject_edits (s : SlotState) (answers : Answers) (handle : ObjectHandle) :
    Edits opens s (s.destroyObject answers handle).2 := by
  have hremoved : Edits opens s (s.removeObjectHandle handle) := removed_edits s [handle]
  unfold destroyObject
  cases s.destroyAction answers handle with
  | refuse rv => exact .refl
  | backed object => exact destroyBackedObject_edits s answers handle object
  | forget => exact hremoved
  | commandForget =>
    cases answers.command with
    | error error => exact .refl
    | ok _ => exact hremoved
  | commandRefresh =>
    cases answers.command with
    | error error => exact .refl
    | ok _ => exact (refresh_edits s answers).edits
  | commandForgetRefresh =>
    cases answers.command with
    | error error => exact .refl
    | ok _ => exact hremoved.trans (refresh_edits _ answers).edits
  | yubihsm id objectType =>
    dsimp only
    cases s.yubihsmRebindings answers id objectType with
    | error error => exact .refl
    | ok rebindings => exact (refreshWithRebindings_edits s answers rebindings).edits

section

variable (s : SlotState) (answers : Answers) (templ : List CkAttribute)

/-- A PIV key is moved. -/
theorem movePivKey_edits (source : UInt8) :
    Edits opens s (s.movePivKey answers templ source).2 := by
  unfold movePivKey
  cases s.pivMoveObjects answers templ source with
  | error error => exact .refl
  | ok found =>
    obtain ⟨destination, sources, destinations⟩ := found
    have hremoved : Edits opens s (s.removeObjectHandles
        (pivSessionHandles (sources ++ destinations))) := removed_edits s _
    cases answers.device with
    | error error => exact hremoved
    | ok listed =>
      dsimp only
      cases pivMoveRebindings destination listed (pivTokenHandles sources) with
      | error error => exact hremoved
      | ok rebindings => exact hremoved.trans (reconcile_edits _ listed rebindings).edits

/-- A touch policy is set. -/
theorem setOpenPgpTouchPolicy_edits : Edits opens s (s.setOpenPgpTouchPolicy answers templ).2 := by
  unfold setOpenPgpTouchPolicy
  split
  · split
    · exact .refl
    · split
      · exact .refl
      · split
        · exact .refl
        · split
          · exact .refl
          · exact (refresh_edits s answers).edits
  · exact .refl

/-- Attributes of a YubiHSM object are set. -/
theorem setYubihsmAttributes_edits : Edits opens s (s.setYubihsmAttributes answers templ).2 := by
  unfold setYubihsmAttributes
  split
  · exact .refl
  · split
    · exact .refl
    · split
      · exact .refl
      · dsimp only
        split
        · exact (refresh_edits s answers).edits
        · exact (refresh_edits s answers).edits

end

variable (hdisjoint : ∀ h ∈ keys s.memoryObjects, h ∉ keys s.tokenObjectHandles)
  (hstored : ∀ u o, (u, o) ∈ s.backedTokenObjects → o.token = true)

include hdisjoint hstored

/-- A changed object is published. -/
theorem publishUpdated_edits (hresolved : s.resolveObject answers handle = .ok (some previous))
    (hchange : AttributeChange previous updated) :
    Edits opens s (s.publishUpdated answers handle previous updated).2 := by
  have hreplace : Edits opens s (s.replaceBackedObject answers handle previous updated).2 :=
    replaceBackedObject_edits hdisjoint hstored hresolved hchange.frame.1
  unfold publishUpdated
  cases hresult : s.replaceBackedObject answers handle previous updated with
  | mk result s₁ =>
    rw [hresult] at hreplace
    cases result with
    | error error => exact hreplace
    | ok flag =>
      cases flag with
      | true => exact hreplace
      | false =>
        dsimp only
        split_ifs with hagain hhas
        · split
          · exact hreplace
          · exact hreplace
          · exact hreplace.trans (refreshWithRebindings_edits _ answers _).edits
        · exact hreplace
        · -- an object that is not stored is left alone by `replace_backed_object`
          have hsame : s₁ = s := by
            cases hreference : s.backedReference handle previous with
            | some reference =>
              exact absurd (congrArg Prod.fst hresult)
                (replaceBackedObject_ne_false answers updated hreference)
            | none => grind [replaceBackedObject]
          subst hsame
          have hkey : handle ∉ keys s₁.tokenObjectHandles := fun hkey =>
            hhas (mapHas_iff.mpr hkey)
          exact .single (.changed updated (resolveObject_memory hresolved hkey)
            hchange.frame.1 hchange.frame.2.2)

/-- `set_attribute_value`. -/
theorem setAttributeValue_edits (answers : Answers) (handle : ObjectHandle)
    (templ : List CkAttribute) : Edits opens s (s.setAttributeValue answers handle templ).2 := by
  unfold setAttributeValue
  cases haction : s.setAction answers handle templ with
  | refuse rv => exact .refl
  | openPgp => exact setOpenPgpTouchPolicy_edits s answers templ
  | piv source => exact movePivKey_edits s answers templ source
  | yubihsm => exact setYubihsmAttributes_edits s answers templ
  | publish previous updated =>
    obtain ⟨hresolved, hchange⟩ := setAction_publish haction
    exact publishUpdated_edits hdisjoint hstored hresolved hchange

end Objects

end Pkcs11rs.Analysis
