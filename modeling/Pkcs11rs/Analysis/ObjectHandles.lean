import Pkcs11rs.Analysis.AttributeChanges
import Pkcs11rs.Analysis.HandleReconciliation
import Pkcs11rs.Library.Runs

/-!
# Object handles over the life of a slot

Each operation on a slot is shown to be stable in the sense of `HandlesStable`; a run of
operations then keeps the handle maps apart and injective, gives out no handle twice and lets
every object that stays present keep its handle.

The operations are stable under `RegularStep`: the rebindings have distinct targets that no other
handle holds, an object that is replaced or destroyed is gone afterwards, and a PIV key is moved
while no stored object has a handle.  The last two conditions are not for show, since
`set_attribute_value` reconciles a PIV move with the objects of the device only and
`piv_key_object_handles` collects stored objects with the same `CKA_ID` too.
-/

set_option autoImplicit false

namespace Pkcs11rs.Analysis

open Pkcs11rs.Library Pkcs11rs.Model SlotState HandlesStable

variable {rebindings : List (ObjectHandle × String)} {object updated previous : TokenObject}
  {listed : List TokenObject} {destination source : UInt8} {templ : List CkAttribute}
  {sources destinations : List (ObjectHandle × ObjectClass × Bool)} {event : ObjectEvent}
  {s s₁ : SlotState} {answers : Answers} {stored : List (ContentReference × TokenObject)}
  {handle : ObjectHandle} {u : String} {objects : List (ObjectHandle × TokenObject)}
  {entries : List (ObjectHandle × ObjectClass)} {reference : ContentReference}
  {events : List ObjectEvent}

/-! ## What is present after an operation -/

/-- The token objects that the slot and the storage have after an operation. -/
def presentIds (answers : Answers) : List String :=
  (match answers.device with
    | .ok objects => tokenUniqueIds objects
    | .error _ => []) ++
  (match answers.storedTokenObjects with
    | .ok stored => tokenUniqueIds (stored.map (·.2))
    | .error _ => [])

/-- The replacement that `set_attribute_value` names when it stores a changed object. -/
def replacementNames (s : SlotState) (answers : Answers) (handle : ObjectHandle)
    (previous updated : TokenObject) : List (ObjectHandle × String) :=
  match s.backedReference handle previous with
  | some reference =>
    if updated.token then
      match s.replaceStored answers handle reference previous updated with
      | .ok stored => [(handle, backedObjectUniqueId stored)]
      | .error _ => []
    else []
  | none =>
    if SlotState.storedAgain answers previous then
      match answers.persisted, answers.command with
      | .ok uniqueId, .ok () => [(handle, uniqueId)]
      | _, _ => []
    else []

/-- The device list that a PIV key move reconciles with and the rebindings, if it comes so far. -/
def pivMoveReconciled (s : SlotState) (answers : Answers) (templ : List CkAttribute)
    (source : UInt8) : Option (List TokenObject × List (ObjectHandle × String)) :=
  match s.pivMoveObjects answers templ source, answers.device with
  | .ok (destination, sources, _), .ok listed =>
    match SlotState.pivMoveRebindings destination listed (SlotState.pivTokenHandles sources) with
    | .ok rebindings => some (listed, rebindings)
    | .error _ => none
  | _, _ => none

/-- The replacements that a PIV key move names. -/
def pivMoveNames (s : SlotState) (answers : Answers) (templ : List CkAttribute)
    (source : UInt8) : List (ObjectHandle × String) :=
  match pivMoveReconciled s answers templ source with
  | some (_, rebindings) => rebindings
  | none => []

/-- The replacements that an operation names. -/
def namedReplacements (s : SlotState) : ObjectEvent → List (ObjectHandle × String)
  | .destroy answers handle =>
    match s.destroyAction answers handle with
    | .yubihsm id objectType =>
      match s.yubihsmRebindings answers id objectType with
      | .ok rebindings => rebindings
      | .error _ => []
    | _ => []
  | .setAttribute answers handle templ =>
    match s.setAction answers handle templ with
    | .piv source => pivMoveNames s answers templ source
    | .publish previous updated => replacementNames s answers handle previous updated
    | _ => []
  | _ => []

/-- The handles that `destroy_object` forgets itself. -/
def forgottenHandles (s : SlotState) : ObjectEvent → List ObjectHandle
  | .destroy answers handle =>
    match s.destroyAction answers handle, answers.command with
    | .forget, _ => [handle]
    | .commandForget, .ok () => [handle]
    | .commandForgetRefresh, .ok () => [handle]
    | _, _ => []
  | _ => []

/-- The answers of an operation that reaches the device. -/
def eventAnswers : ObjectEvent → Option Answers
  | .refresh answers => some answers
  | .login answers _ => some answers
  | .logout answers _ => some answers
  | .initToken answers => some answers
  | .store answers _ _ => some answers
  | .destroy answers _ => some answers
  | .setAttribute answers _ _ => some answers
  | _ => none

/-- The token objects that are present after an operation; one that does not reach the device
leaves all of them. -/
def presentAfter (event : ObjectEvent) : Set String :=
  {u | ∀ answers, eventAnswers event = some answers → u ∈ presentIds answers}

/-- The objects that a PIV key move which goes through reconciles with, in place of everything present. -/
def reconciledIds (s : SlotState) : ObjectEvent → Option (List String)
  | .setAttribute answers handle templ =>
    match s.setAction answers handle templ with
    | .piv source =>
      (pivMoveReconciled s answers templ source).map fun reconciled => tokenUniqueIds reconciled.1
    | _ => none
  | _ => none

/-- The condition on a step. -/
structure RegularStep (s : SlotState) (event : ObjectEvent) : Prop where
  /-- Distinct handles are rebound to distinct objects. -/
  distinct : ∀ p ∈ namedReplacements s event, ∀ q ∈ namedReplacements s event,
    p.2 = q.2 → p.1 = q.1
  /-- No other handle holds the object that a handle is rebound to. -/
  free : ∀ p ∈ s.tokenObjectHandles, p.2 ∈ (namedReplacements s event).map (·.2) →
    p.1 ∈ (namedReplacements s event).map (·.1)
  /-- An object that has been replaced is gone. -/
  gone : ∀ p ∈ namedReplacements s event, ∀ q ∈ s.tokenObjectHandles, q.1 = p.1 →
    q.2 ≠ p.2 → ∀ answers ∈ eventAnswers event, q.2 ∉ presentIds answers
  /-- An object that has been destroyed is gone. -/
  destroyed : ∀ p ∈ s.tokenObjectHandles, p.1 ∈ forgottenHandles s event →
    ∀ answers ∈ eventAnswers event, p.2 ∉ presentIds answers
  /-- A PIV key move leaves out no object that is present. -/
  listed : ∀ ids ∈ reconciledIds s event, ∀ p ∈ s.tokenObjectHandles,
    ∀ answers ∈ eventAnswers event, p.2 ∈ presentIds answers → p.2 ∈ ids

/-! ## Refreshing -/

/-- Only the token handles matter. -/
theorem CleanRebindings.congr {present : Set String} (h : CleanRebindings s present rebindings)
    (htoken : s₁.tokenObjectHandles = s.tokenObjectHandles) :
    CleanRebindings s₁ present rebindings :=
  ⟨h.functional, h.injective, htoken ▸ h.free, htoken ▸ h.gone⟩

/-- Changes of the records about stored objects only. -/
theorem shrinks_backed (htoken : s₁.tokenObjectHandles = s.tokenObjectHandles)
    (hmemory : s₁.memoryObjects = s.memoryObjects) (hnext : s₁.nextObject = s.nextObject)
    (hbacked : s₁.backedTokenObjects = s.backedTokenObjects) : Shrinks s s₁ :=
  ⟨htoken, hmemory ▸ List.Subset.refl _, hnext, hbacked ▸ id⟩

/-- The stored objects that a slot reports are token objects, named after their records. -/
theorem storedTokenObjects_entry (h : answers.storedTokenObjects = .ok stored) : ∀ entry ∈ stored,
      entry.2.token = true ∧ entry.2.uniqueId = backedObjectUniqueId entry.1 := by
  unfold Answers.storedTokenObjects at h
  cases hstored : answers.stored with
  | error error =>
    rw [hstored] at h
    cases h
  | ok entries =>
    rw [hstored] at h
    cases h
    intro entry hentry
    obtain ⟨entry₀, -, rfl⟩ := List.mem_map.mp hentry
    exact ⟨rfl, rfl⟩

/-- The stored objects are recorded. -/
theorem shrinks_recordBackedObjects (h : answers.storedTokenObjects = .ok stored) :
    Shrinks s (s.recordBackedObjects stored) where
  token := rfl
  memory := List.Subset.refl _
  next := rfl
  stored := by
    intro _ u o ho
    rcases mem_or_mem_of_mem_mapInsertAll ho with hnew | hold
    · obtain ⟨entry, hentry, heq⟩ := List.mem_map.mp hnew
      rw [← (Prod.mk.inj heq).2]
      exact (storedTokenObjects_entry h entry hentry).1
    · cases hold

/-- The token objects that the answers list. -/
abbrev Present (answers : Answers) : Set String := {u | u ∈ presentIds answers}

/-- `refresh_slot_token_objects_with_rebindings`. -/
theorem refreshWithRebindings_stable (hs : HandleInvariant s)
    (hclean : CleanRebindings s (Present answers) rebindings) :
    HandlesStable rebindings (Present answers)
      ((s.refreshWithRebindings answers rebindings).1 = .ok ()) s
      (s.refreshWithRebindings answers rebindings).2 := by
  unfold refreshWithRebindings
  cases hdevice : answers.device with
  | error error => exact failed hs nofun
  | ok objects =>
    cases hstored : answers.storedTokenObjects with
    | error error => exact failed hs nofun
    | ok stored =>
      have hrecord : Shrinks s (s.recordBackedObjects stored) :=
        shrinks_recordBackedObjects hstored
      refine after_shrinks hrecord ?_
      refine reconcile_stable (hrecord.inv hs) (hclean.congr hrecord.token) ?_
      grind [presentIds, tokenUniqueIds]

/-- `refresh_slot_token_objects`. -/
theorem refresh_stable {done : Prop} (answers : Answers) (hs : HandleInvariant s) :
    HandlesStable [] (Present answers) done s (s.refresh answers).2 := by
  have h := refreshWithRebindings_stable hs (cleanRebindings_nil s (Present answers))
  exact { h with replaced := nofun }

/-! ## Memory objects -/

section Memory

variable {present : Set String} {done : Prop} {s s₁ : SlotState} {handle : ObjectHandle}

/-- A changed memory object stays the same object. -/
theorem replaceMemory_stable (hs : HandleInvariant s) (hobject : (handle, object) ∈ s.memoryObjects)
    (hid : object.uniqueId = updated.uniqueId) : HandlesStable [] present done s
      { s with memoryObjects := mapInsert s.memoryObjects handle updated } := by
  have hkeys : ∀ h ∈ keys (mapInsert s.memoryObjects handle updated),
      h ∈ keys s.memoryObjects := by grind [mem_keys, mem_mapInsert]
  refine ⟨⟨hs.tokenFunctional, hs.tokenInjective, hs.memoryFunctional.mapInsert handle updated,
    fun h hh => hs.disjoint h (hkeys h hh), hs.tokenBelow, fun h hh => hs.memoryBelow h (hkeys h hh),
    hs.stored⟩, le_rfl, fun h u hu => .inl hu, ?_, fun h u hu _ => hu, nofun⟩
  grind [mem_mapInsert]

/-- A new memory object. -/
theorem addMemory_stable (hs : HandleInvariant s) (halloc : s.allocateObject = some (handle, s₁)) :
    HandlesStable [] present done s
      { s₁ with memoryObjects := mapInsert s₁.memoryObjects handle object } := by
  obtain ⟨hnew, hbound, -⟩ := allocateObject_spec halloc
  obtain ⟨htoken, hmemory, hbacked⟩ := allocateObject_frame halloc
  have hbound' : handleBound { s₁ with
      memoryObjects := mapInsert s₁.memoryObjects handle object } = handleBound s + 1 := hbound
  have hcases : ∀ h ∈ keys (mapInsert s₁.memoryObjects handle object),
      h = handle ∨ h ∈ keys s.memoryObjects := by grind [mem_keys, mem_mapInsert]
  refine ⟨⟨htoken ▸ hs.tokenFunctional, htoken ▸ hs.tokenInjective,
    hmemory ▸ hs.memoryFunctional.mapInsert handle object, ?_, ?_, ?_, hbacked ▸ hs.stored⟩,
    hbound' ▸ Nat.le_succ _, fun h u hu => .inl (htoken ▸ hu), ?_,
    fun h u hu _ => htoken ▸ hu, nofun⟩
  · intro h hh htok
    have htok' : h ∈ keys s.tokenObjectHandles := htoken ▸ htok
    rcases hcases h hh with heq | hold
    · exact ne_of_lt_bound (hs.tokenBelow h htok') hnew heq
    · exact hs.disjoint h hold htok'
  · intro h hh
    rw [hbound']
    exact Nat.lt_succ_of_lt (hs.tokenBelow h (htoken ▸ hh))
  · intro h hh
    rw [hbound']
    rcases hcases h hh with rfl | hold
    · exact hnew ▸ Nat.lt_succ_self _
    · exact Nat.lt_succ_of_lt (hs.memoryBelow h hold)
  · grind [mem_mapInsert]

/-- Another slot takes a handle. -/
theorem otherSlot_stable (hs : HandleInvariant s)
    (halloc : s.allocateObject = some (handle, s₁)) : HandlesStable [] present done s s₁ := by
  obtain ⟨-, hbound, -⟩ := allocateObject_spec halloc
  obtain ⟨htoken, hmemory, hbacked⟩ := allocateObject_frame halloc
  have hle : handleBound s ≤ handleBound s₁ := hbound ▸ Nat.le_succ _
  exact ⟨⟨htoken ▸ hs.tokenFunctional, htoken ▸ hs.tokenInjective, hmemory ▸ hs.memoryFunctional,
    htoken ▸ hmemory ▸ hs.disjoint, fun h hh => (hs.tokenBelow h (htoken ▸ hh)).trans_le hle,
    fun h hh => (hs.memoryBelow h (hmemory ▸ hh)).trans_le hle, hbacked ▸ hs.stored⟩, hle,
    fun h u hu => .inl (htoken ▸ hu), fun h o ho => .inl ⟨o, hmemory ▸ ho, rfl⟩,
    fun h u hu _ => htoken ▸ hu, nofun⟩

/-- `insert_object`. -/
theorem insertObject_stable (object : TokenObject) (hs : HandleInvariant s) :
    HandlesStable [] present done s (s.insertObject object).2 := by
  unfold insertObject
  cases halloc : s.allocateObject with
  | none => exact refl hs fun _ => rfl
  | some given => exact addMemory_stable hs halloc

/-- The loop of `insert_session_objects`. -/
theorem insertSessionObjects_stable (session : Ulong) (objects : List TokenObject) :
    ∀ {s : SlotState}, HandleInvariant s →
      HandlesStable [] present done s (insertSessionObjects session objects s).2 := by
  induction objects with
  | nil => exact fun hs => refl hs fun _ => rfl
  | cons object objects ih =>
    intro s hs
    unfold insertSessionObjects
    split_ifs with htoken hknown
    · exact ih hs
    · exact ih hs
    · have hinsert : HandlesStable [] present done s _ :=
        insertObject_stable (object.setCreator session s.slotId) hs
      revert hinsert
      cases s.insertObject (object.setCreator session s.slotId) with
      | mk result s₁ =>
        intro hinsert
        cases result with
        | error error => exact hinsert
        | ok handle => exact hinsert.trans (ih hinsert.inv)

/-- The login ends. -/
theorem shrinks_clearLoginState (s : SlotState) : Shrinks s s.clearLoginState :=
  ⟨rfl, List.filter_subset_self _, rfl, id⟩

/-- `C_CloseSession`. -/
theorem shrinks_closeSession (hs : HandleInvariant s) (session : Ulong) :
    Shrinks s (s.closeSession session) := by
  apply shrinks_removeObjectHandles
  intro h hh
  obtain ⟨entry, hentry, rfl⟩ := List.mem_map.mp hh
  exact hs.disjoint entry.1 (mem_keys_of_mem (List.mem_of_mem_filter hentry))

end Memory

/-! ## Logins and storing -/

section Operations

variable {s : SlotState} {done : Prop} (answers : Answers)

/-- `login_role`. -/
theorem loginRole_stable (hs : HandleInvariant s) (refreshAfter : Bool) :
    HandlesStable [] (Present answers) done s
      (s.loginRole answers refreshAfter).2 := by
  unfold loginRole
  cases answers.command with
  | error error => exact refl hs fun _ => rfl
  | ok _ =>
    cases refreshAfter with
    | false => exact refl hs fun _ => rfl
    | true =>
      have hrefresh : HandlesStable [] (Present answers) done s _ :=
        refresh_stable answers hs
      revert hrefresh
      cases s.refresh answers with
      | mk result s₁ =>
        intro hrefresh
        cases result with
        | error error => exact hrefresh.shrink (shrinks_clearLoginState s₁)
        | ok _ => exact hrefresh

/-- `logout_slot`. -/
theorem logoutSlot_stable (hs : HandleInvariant s) (refreshAfter : Bool) :
    HandlesStable [] (Present answers) done s
      (s.logoutSlot answers refreshAfter).2 := by
  have hclear := shrinks_clearLoginState s
  unfold logoutSlot
  cases answers.command with
  | error error => exact refl hs fun _ => rfl
  | ok _ =>
    cases refreshAfter with
    | false => exact of_shrinks hs hclear fun _ => rfl
    | true => exact after_shrinks hclear (refresh_stable answers (hclear.inv hs))

/-- `store_backed_object`. -/
theorem storeBackedObject_stable (hs : HandleInvariant s) (session : Ulong) (object : TokenObject) :
    HandlesStable [] (Present answers) done s
      (s.storeBackedObject answers session object).2 := by
  unfold storeBackedObject
  cases answers.put with
  | error error => exact refl hs fun _ => rfl
  | ok reference =>
    dsimp only
    split_ifs with htoken
    · have hrecorded : Shrinks s { s with
          backedObjectReferences :=
            mapInsert s.backedObjectReferences (backedObjectUniqueId reference) reference } :=
        shrinks_backed rfl rfl rfl rfl
      have hrefresh : HandlesStable [] (Present answers) done s _ :=
        after_shrinks hrecorded (refresh_stable answers (hrecorded.inv hs))
      revert hrefresh
      cases refresh _ answers with
      | mk result s₁ =>
        intro hrefresh
        cases result with
        | error error => exact hrefresh
        | ok _ =>
          dsimp only
          split
          · exact hrefresh
          · exact hrefresh.shrink (shrinks_backed rfl rfl rfl rfl)
    · have hinsert : HandlesStable [] (Present answers) done s _ :=
        insertObject_stable (object.setCreator session s.slotId) hs
      revert hinsert
      cases s.insertObject (object.setCreator session s.slotId) with
      | mk result s₁ =>
        intro hinsert
        cases result with
        | error error => exact hinsert
        | ok handle => exact hinsert.shrink (shrinks_backed rfl rfl rfl rfl)

end Operations

/-! ## Resolving a handle -/

/-- An object that is resolved through the token handles is a token object. -/
theorem resolveObject_token (hdisjoint : ∀ h ∈ keys s.memoryObjects, h ∉ keys s.tokenObjectHandles)
    (hstored : ∀ u o, (u, o) ∈ s.backedTokenObjects → o.token = true)
    (h : s.resolveObject answers handle = .ok (some object))
    (hkey : handle ∈ keys s.tokenObjectHandles) : object.token = true := by
  have hmemory : mapGet s.memoryObjects handle = none :=
    mapGet_eq_none_iff.mpr fun hmem => hdisjoint handle hmem hkey
  unfold resolveObject at h
  rw [hmemory] at h
  cases hlocator : mapGet s.tokenObjectHandles handle with
  | none => exact absurd hkey (mapGet_eq_none_iff.mp hlocator)
  | some uniqueId =>
    rw [hlocator] at h
    dsimp only at h
    cases hbacked : mapGet s.backedTokenObjects uniqueId with
    | some backed =>
      rw [hbacked] at h
      cases h
      exact hstored uniqueId object (mapGet_mem hbacked)
    | none =>
      rw [hbacked] at h
      obtain ⟨objects, -, hfind⟩ := bind_eq_ok.mp h
      grind

/-- An object that is not resolved through the token handles is a memory object. -/
theorem resolveObject_memory (h : s.resolveObject answers handle = .ok (some object))
    (hkey : handle ∉ keys s.tokenObjectHandles) : (handle, object) ∈ s.memoryObjects := by
  unfold resolveObject at h
  grind [mapGet_mem, mapGet_eq_none_iff]

/-- The entries of `resolved_objects`. -/
theorem mem_resolvedObjects
    (hmem : (handle, object) ∈ s.memoryObjects ++ s.tokenObjectHandles.filterMap fun entry =>
      (s.locatedObject listed entry.2).map fun object => (entry.1, object)) :
    (handle, object) ∈ s.memoryObjects ∨
      ∃ u, (handle, u) ∈ s.tokenObjectHandles ∧ s.locatedObject listed u = some object := by
  grind [Option.map_eq_some_iff]

/-- A located object is a token object. -/
theorem locatedObject_token (hs : HandleInvariant s) (h : s.locatedObject listed u = some object) :
    object.token = true := by
  unfold locatedObject at h
  cases hbacked : mapGet s.backedTokenObjects u with
  | some backed =>
    rw [hbacked] at h
    cases h
    exact hs.stored u object (mapGet_mem hbacked)
  | none => grind

/-- A handle has one resolved object, and only memory handles have one outside the token. -/
theorem resolvedObjects_spec (hs : HandleInvariant s) (h : s.resolvedObjects answers = .ok objects) :
    Functional objects ∧
      ∀ handle object, (handle, object) ∈ objects → object.token = false →
        handle ∉ keys s.tokenObjectHandles := by
  obtain ⟨listed, -, hobjects⟩ := bind_eq_ok.mp h
  cases hobjects
  constructor
  · intro k o o' ho ho'
    rcases mem_resolvedObjects ho with hmem | ⟨u, hu, hfound⟩ <;>
      rcases mem_resolvedObjects ho' with hmem' | ⟨u', hu', hfound'⟩
    · exact hs.memoryFunctional k o o' hmem hmem'
    · exact absurd (mem_keys_of_mem hu') (hs.disjoint k (mem_keys_of_mem hmem))
    · exact absurd (mem_keys_of_mem hu) (hs.disjoint k (mem_keys_of_mem hmem'))
    · have hsame : u = u' := hs.tokenFunctional k u u' hu hu'
      rw [hsame, hfound'] at hfound
      exact (Option.some.inj hfound).symm
  · intro handle object hmem htoken
    rcases mem_resolvedObjects hmem with hmemory | ⟨u, -, hfound⟩
    · exact hs.disjoint handle (mem_keys_of_mem hmemory)
    · rw [locatedObject_token hs hfound] at htoken
      cases htoken

/-! ## Moving a PIV key -/

/-- The entries that `piv_key_object_handles` collects. -/
theorem mem_pivKeyObjectHandles {pivSlot : UInt8} {cls : ObjectClass} {token : Bool}
    (h : (handle, cls, token) ∈ s.pivKeyObjectHandles pivSlot objects) :
    ∃ object, (handle, object) ∈ objects ∧ object.class_ = cls ∧ object.token = token := by
  obtain ⟨entry, hentry, hsome⟩ := List.mem_filterMap.mp h
  grind

/-- The rebindings of a move: each handle goes to the object found for its class. -/
theorem mem_pivMoveRebindings (h : pivMoveRebindings destination listed entries = .ok rebindings)
    (hmem : (handle, u) ∈ rebindings) : ∃ cls target, (handle, cls) ∈ entries ∧
      (listed.find? fun candidate =>
        candidate.id = [destination] ∧ candidate.class_ = cls ∧ candidate.token) = some target ∧
      target.uniqueId = u := by
  induction entries generalizing rebindings with
  | nil =>
    cases h
    cases hmem
  | cons entry entries ih =>
    obtain ⟨k, cls⟩ := entry
    unfold pivMoveRebindings at h
    cases htarget : listed.find? fun candidate =>
        candidate.id = [destination] ∧ candidate.class_ = cls ∧ candidate.token with
    | none =>
      rw [htarget] at h
      cases h
    | some target =>
      rw [htarget] at h
      obtain ⟨rest, hrest, heq⟩ := bind_eq_ok.mp h
      cases heq
      rcases List.mem_cons.mp hmem with hhead | htail
      · obtain ⟨rfl, rfl⟩ := Prod.mk.inj hhead
        exact ⟨cls, target, List.mem_cons_self, htarget, rfl⟩
      · obtain ⟨cls', target', hentry, hfound, hid⟩ := ih hrest htail
        exact ⟨cls', target', List.mem_cons_of_mem _ hentry, hfound, hid⟩

/-- A PIV key move rebinds a handle once. -/
theorem functional_pivMoveRebindings (hentries : Functional entries)
    (h : pivMoveRebindings destination listed entries = .ok rebindings) :
    Functional rebindings := by
  intro k u u' hu hu'
  obtain ⟨cls, target, hcls, hfound, hid⟩ := mem_pivMoveRebindings h hu
  obtain ⟨cls', target', hcls', hfound', hid'⟩ := mem_pivMoveRebindings h hu'
  have hsame : cls = cls' := hentries k cls cls' hcls hcls'
  rw [hsame, hfound'] at hfound
  rw [← hid, ← hid', Option.some.inj hfound]

/-- What a move collects before the key has been moved. -/
theorem pivMoveObjects_ok
    (h : s.pivMoveObjects answers templ source = .ok (destination, sources, destinations)) :
    ∃ objects, s.resolvedObjects answers = .ok objects ∧
      sources = s.pivKeyObjectHandles source objects ∧
      destinations = s.pivKeyObjectHandles destination objects := by
  obtain ⟨target, -, h⟩ := bind_eq_ok.mp h
  grind [bind_eq_ok]

section

variable (hs : HandleInvariant s)
  (h : s.pivMoveObjects answers templ source = .ok (destination, sources, destinations))

include hs h

/-- The handles that a move removes are handles of session objects. -/
theorem pivSessionHandles_memory : ∀ k ∈ pivSessionHandles (sources ++ destinations),
      k ∉ keys s.tokenObjectHandles := by
  obtain ⟨objects, hobjects, rfl, rfl⟩ := pivMoveObjects_ok h
  have hsession := (resolvedObjects_spec hs hobjects).2
  intro k hk
  obtain ⟨⟨k', cls, token⟩, hentry, rfl⟩ := List.mem_map.mp hk
  obtain ⟨hmem, htoken⟩ := List.mem_filter.mp hentry
  grind [mem_pivKeyObjectHandles]

/-- Its handles are listed once. -/
theorem functional_pivTokenHandles : Functional (pivTokenHandles sources) := by
  obtain ⟨objects, hobjects, rfl, -⟩ := pivMoveObjects_ok h
  have hfun := (resolvedObjects_spec hs hobjects).1
  have hentry : ∀ k cls, (k, cls) ∈ pivTokenHandles (s.pivKeyObjectHandles source objects) →
      ∃ object, (k, object) ∈ objects ∧ object.class_ = cls := by
    intro k cls hmem
    obtain ⟨⟨k', cls', token⟩, hentry, heq⟩ := List.mem_map.mp hmem
    grind [mem_pivKeyObjectHandles]
  intro k cls cls' hcls hcls'
  obtain ⟨object, hobject, rfl⟩ := hentry k cls hcls
  obtain ⟨object', hobject', rfl⟩ := hentry k cls' hcls'
  rw [hfun k object object' hobject hobject']

end

/-- The `PivPrivate` branch of `set_attribute_value`. -/
theorem movePivKey_stable (hs : HandleInvariant s)
    (hclean : Functional (pivMoveNames s answers templ source) →
      CleanRebindings s (Present answers) (pivMoveNames s answers templ source))
    (hlisted : ∀ reconciled ∈ pivMoveReconciled s answers templ source, ∀ k u,
      (k, u) ∈ s.tokenObjectHandles → u ∈ presentIds answers → u ∈ tokenUniqueIds reconciled.1) :
    HandlesStable (pivMoveNames s answers templ source) (Present answers)
      ((s.movePivKey answers templ source).1 = .ok ()) s (s.movePivKey answers templ source).2 := by
  unfold movePivKey
  cases hobjects : s.pivMoveObjects answers templ source with
  | error error => exact failed hs nofun
  | ok found =>
    obtain ⟨destination, sources, destinations⟩ := found
    have hshrink : Shrinks s (s.removeObjectHandles
        (pivSessionHandles (sources ++ destinations))) :=
      shrinks_removeObjectHandles (pivSessionHandles_memory hs hobjects)
    apply after_shrinks hshrink
    cases hdevice : answers.device with
    | error error => exact failed (hshrink.inv hs) nofun
    | ok listed =>
      dsimp only
      cases hrebindings : pivMoveRebindings destination listed (pivTokenHandles sources) with
      | error error => exact failed (hshrink.inv hs) nofun
      | ok rebindings =>
        have hreconciled : pivMoveReconciled s answers templ source = some (listed, rebindings) := by
          simp only [pivMoveReconciled, hobjects, hdevice, hrebindings]
        have hnames : pivMoveNames s answers templ source = rebindings := by
          simp only [pivMoveNames, hreconciled]
        rw [hnames] at hclean ⊢
        have hfun : Functional rebindings :=
          functional_pivMoveRebindings (functional_pivTokenHandles hs hobjects) hrebindings
        refine reconcile_stable (hshrink.inv hs) ((hclean hfun).congr hshrink.token) ?_
        rw [hshrink.token]
        exact hlisted _ hreconciled

/-! ## Replacing and destroying stored objects -/

/-- What an attribute change leaves as it is. -/
theorem AttributeChange.frame (h : AttributeChange object updated) : updated.token = object.token ∧
    updated.uniqueId = object.uniqueId ∧ updated.creatorSession = object.creatorSession := by
  obtain ⟨_, _, _, _, _, rfl⟩ := h.fields
  exact ⟨rfl, rfl, rfl⟩

/-- The object that `set_attribute_value` publishes is a change of the resolved one. -/
theorem setAction_publish (h : s.setAction answers handle templ = .publish previous updated) :
    s.resolveObject answers handle = .ok (some previous) ∧ AttributeChange previous updated := by
  unfold setAction at h
  split at h
  · cases h
  · cases h
  · cases h
  · grind [attributesApplied_changes]

section Backed

variable {s : SlotState} {answers : Answers} {handle : ObjectHandle}

/-- `replace_backed_object`, for a change of the object that the handle resolves to. -/
theorem replaceBackedObject_stable (hs : HandleInvariant s)
    (hresolved : s.resolveObject answers handle = .ok (some previous))
    (hchange : AttributeChange previous updated)
    (hreference : s.backedReference handle previous = some reference)
    (hclean : CleanRebindings s (Present answers)
      (replacementNames s answers handle previous updated)) :
    HandlesStable (replacementNames s answers handle previous updated) (Present answers)
      ((s.replaceBackedObject answers handle previous updated).1 = .ok true) s
      (s.replaceBackedObject answers handle previous updated).2 := by
  unfold replaceBackedObject
  rw [hreference]
  dsimp only
  cases hstored : s.replaceStored answers handle reference previous updated with
  | error error => exact failed hs nofun
  | ok stored =>
    split_ifs with htoken
    · have hnames : replacementNames s answers handle previous updated =
          [(handle, backedObjectUniqueId stored)] := by
        simp only [replacementNames, hreference, hstored, htoken, if_true]
      have hrecorded : Shrinks s { s with
          backedObjectReferences :=
            mapInsert (mapRemove s.backedObjectReferences previous.uniqueId)
              (backedObjectUniqueId stored) stored
          backedObjectHandles := mapInsert s.backedObjectHandles handle stored } :=
        shrinks_backed rfl rfl rfl rfl
      have hrefresh := after_shrinks hrecorded
        (refreshWithRebindings_stable (hrecorded.inv hs) (hclean.congr hrecorded.token))
      grind
    · have hnames : replacementNames s answers handle previous updated = [] := by
        simp only [replacementNames, hreference, htoken, Bool.false_eq_true, if_false]
      rw [hnames]
      have hkey : handle ∉ keys s.tokenObjectHandles := by
        intro hkey
        exact htoken (hchange.frame.1.trans (resolveObject_token hs.disjoint hs.stored hresolved hkey))
      cases previous.creatorSession with
      | none => exact refl hs fun _ => rfl
      | some creator =>
        have hreplace : ∀ done, HandlesStable [] (Present answers) done s { s with
            memoryObjects := mapInsert s.memoryObjects handle
              { updated.setCreator creator s.slotId with uniqueId := previous.uniqueId } } :=
          fun _ => replaceMemory_stable hs (resolveObject_memory hresolved hkey) rfl
        exact (hreplace _).shrink (shrinks_backed rfl rfl rfl rfl)

/-- A stored object is not reported as one that is not stored. -/
theorem replaceBackedObject_ne_false (answers : Answers) (updated : TokenObject)
    (hreference : s.backedReference handle previous = some reference)
    : (s.replaceBackedObject answers handle previous updated).1 ≠ .ok false := by
  grind [replaceBackedObject]

/-- The last part of `set_attribute_value`. -/
theorem publishUpdated_stable (hs : HandleInvariant s)
    (hresolved : s.resolveObject answers handle = .ok (some previous))
    (hchange : AttributeChange previous updated)
    (hclean : CleanRebindings s (Present answers)
      (replacementNames s answers handle previous updated)) :
    HandlesStable (replacementNames s answers handle previous updated) (Present answers)
      ((s.publishUpdated answers handle previous updated).1 = .ok ()) s
      (s.publishUpdated answers handle previous updated).2 := by
  unfold publishUpdated
  cases hreference : s.backedReference handle previous with
  | some reference =>
    have hreplace := replaceBackedObject_stable hs hresolved hchange hreference hclean
    have hbacked := replaceBackedObject_ne_false answers updated hreference
    grind
  | none =>
    have hnot : s.replaceBackedObject answers handle previous updated = (.ok false, s) := by
      simp only [replaceBackedObject, hreference]
    rw [hnot]
    dsimp only
    split_ifs with hagain hhas
    · cases hpersisted : answers.persisted with
      | error error => exact failed hs (by simp)
      | ok uniqueId =>
        cases hcommand : answers.command with
        | error error => exact failed hs (by simp)
        | ok _ =>
          have hnames : replacementNames s answers handle previous updated =
              [(handle, uniqueId)] := by
            simp only [replacementNames, hreference, hagain, hpersisted, hcommand, if_true]
          rw [hnames] at hclean ⊢
          exact refreshWithRebindings_stable hs hclean
    · exact failed hs (by simp)
    · have hnames : replacementNames s answers handle previous updated = [] := by
        simp only [replacementNames, hreference, hagain, Bool.false_eq_true, if_false]
      rw [hnames]
      have hkey : handle ∉ keys s.tokenObjectHandles := fun hkey => hhas (mapHas_iff.mpr hkey)
      exact replaceMemory_stable hs (resolveObject_memory hresolved hkey) hchange.frame.2.1.symm

/-- `destroy_backed_object`, for the object that the handle resolves to. -/
theorem destroyBackedObject_stable {done : Prop} (hs : HandleInvariant s)
    (hresolved : s.resolveObject answers handle = .ok (some object)) :
    HandlesStable [] (Present answers) done s
      (s.destroyBackedObject answers handle object).2 := by
  unfold destroyBackedObject
  cases s.backedReference handle object with
  | none => exact refl hs fun _ => rfl
  | some reference =>
    dsimp only
    split
    · exact refl hs fun _ => rfl
    · split_ifs with htoken
      · have hrecorded : Shrinks s { s with
            backedObjectHandles := mapRemove s.backedObjectHandles handle
            backedObjectReferences := mapRemove s.backedObjectReferences object.uniqueId } :=
          shrinks_backed rfl rfl rfl rfl
        have hrefresh : HandlesStable [] (Present answers) done s _ :=
          after_shrinks hrecorded (refresh_stable answers (hrecorded.inv hs))
        grind
      · have hrecorded : Shrinks s
            { s with backedObjectHandles := mapRemove s.backedObjectHandles handle } :=
          shrinks_backed rfl rfl rfl rfl
        have hkey : handle ∉ keys s.tokenObjectHandles := fun hkey =>
          htoken (resolveObject_token hs.disjoint hs.stored hresolved hkey)
        refine after_shrinks hrecorded ?_
        exact of_shrinks (hrecorded.inv hs) (shrinks_removeObjectHandle hkey) fun _ => rfl

/-- The other branches are not about stored objects. -/
theorem destroyRest_ne_backed (s : SlotState) (answers : Answers) (handle : ObjectHandle)
    (object object' : TokenObject) : s.destroyRest answers handle object ≠ .backed object' := by
  have hpiv : pivDelete answers ≠ .backed object' := by
    unfold pivDelete
    split_ifs <;> exact nofun
  unfold destroyRest
  generalize object.material = material
  -- a registration of a pending signature is the only material that is looked at before the storage
  cases material with
  | previewSignRegistration registration pending =>
    cases pending with
    | true => exact nofun
    | false =>
      dsimp only
      split_ifs <;> exact nofun
  | external external =>
    cases external with
    | pivPrivate | pivData =>
      dsimp only
      split_ifs
      · exact nofun
      · exact hpiv
    | pivCertificate => grind
    | _ =>
      dsimp only
      split_ifs <;> exact nofun
  | _ =>
    dsimp only
    split_ifs <;> exact nofun

/-- The stored object that `destroy_object` deletes is the resolved one. -/
theorem destroyAction_backed (h : s.destroyAction answers handle = .backed object) :
    s.resolveObject answers handle = .ok (some object) := by
  unfold destroyAction at h
  cases hresolved : s.resolveObject answers handle with
  | error error =>
    rw [hresolved] at h
    cases h
  | ok found =>
    cases found with
    | none =>
      rw [hresolved] at h
      cases h
    | some object' => grind [destroyFirst, destroyRest_ne_backed]

/-- The rebindings of the YubiHSM branch all go to the detached object. -/
theorem functional_yubihsmRebindings {id : UInt16} {objectType : UInt8}
    (h : s.yubihsmRebindings answers id objectType = .ok rebindings) : Functional rebindings := by
  obtain ⟨objects, -, h⟩ := bind_eq_ok.mp h
  obtain ⟨-, -, h⟩ := bind_eq_ok.mp h
  cases hdetached : answers.detached with
  | none =>
    rw [hdetached] at h
    cases h
    exact functional_nil
  | some uniqueId =>
    rw [hdetached] at h
    cases h
    intro k u u' hu hu'
    grind

end Backed

/-! ## One operation -/

section Step

variable {s : SlotState}

/-- The rebindings of a regular step are clean. -/
theorem RegularStep.clean (h : RegularStep s event) (hanswers : eventAnswers event = some answers)
    (hfun : Functional (namedReplacements s event)) :
    CleanRebindings s (Present answers) (namedReplacements s event) where
  functional := hfun
  injective := fun k k' u hk hk' => h.distinct (k, u) hk (k', u) hk' rfl
  free := fun k u hku hu => h.free (k, u) hku hu
  gone := by
    intro k u u' hu' hu hpresent
    by_contra hne
    exact h.gone (k, u') hu' (k, u) hu rfl hne answers hanswers hpresent

/-- `destroy_object`. -/
theorem destroyObject_stable (hs : HandleInvariant s)
    (hregular : RegularStep s (.destroy answers handle)) :
    HandlesStable (namedReplacements s (.destroy answers handle)) (Present answers)
      ((s.destroyObject answers handle).1 = .ok ()) s (s.destroyObject answers handle).2 := by
  -- where the handle is forgotten, the object is gone
  have hforget : forgottenHandles s (.destroy answers handle) = [handle] → ∀ done,
      HandlesStable [] (Present answers) done s (s.removeObjectHandle handle) := by
    intro hhandles done
    rw [removeObjectHandle_eq]
    refine forget hs fun k u hku hpresent hmem => ?_
    have hk : k ∈ forgottenHandles s (.destroy answers handle) := hhandles ▸ hmem
    exact hregular.destroyed (k, u) hku hk answers rfl hpresent
  have hclean : Functional _ → CleanRebindings s (Present answers) _ :=
    hregular.clean rfl
  unfold destroyObject
  simp only [namedReplacements] at hclean ⊢
  simp only [forgottenHandles] at hforget
  cases haction : s.destroyAction answers handle with
  | refuse rv => exact refl hs fun _ => rfl
  | backed object => exact destroyBackedObject_stable hs (destroyAction_backed haction)
  | forget =>
    rw [haction] at hforget
    exact hforget rfl _
  | commandForget => grind [HandlesStable.refl]
  | commandRefresh => grind [HandlesStable.refl, refresh_stable]
  | commandForgetRefresh =>
    rw [haction] at hforget
    cases hcommand : answers.command with
    | error error => exact refl hs fun _ => rfl
    | ok _ =>
      rw [hcommand] at hforget
      have hremoved := hforget rfl True
      have hrefresh : HandlesStable [] (Present answers) True _ _ :=
        refresh_stable answers hremoved.inv
      exact hremoved.trans hrefresh
  | yubihsm id objectType =>
    grind [HandlesStable.refl, refreshWithRebindings_stable, functional_yubihsmRebindings]

/-- `set_attribute_value`. -/
theorem setAttributeValue_stable (hs : HandleInvariant s)
    (hregular : RegularStep s (.setAttribute answers handle templ)) :
    HandlesStable (namedReplacements s (.setAttribute answers handle templ))
      (Present answers) ((s.setAttributeValue answers handle templ).1 = .ok ()) s
      (s.setAttributeValue answers handle templ).2 := by
  have hclean : Functional _ → CleanRebindings s (Present answers) _ :=
    hregular.clean rfl
  have hlisted := hregular.listed
  unfold setAttributeValue
  simp only [namedReplacements] at hclean ⊢
  simp only [reconciledIds] at hlisted
  cases haction : s.setAction answers handle templ with
  | refuse rv => exact refl hs fun _ => rfl
  | openPgp =>
    unfold setOpenPgpTouchPolicy
    clear hclean hlisted hregular
    grind [HandlesStable.refl, refresh_stable]
  | yubihsm =>
    unfold setYubihsmAttributes
    clear hclean hlisted hregular
    grind [HandlesStable.refl, refresh_stable]
  | piv source =>
    rw [haction] at hclean hlisted
    refine movePivKey_stable hs hclean ?_
    intro reconciled hreconciled k u hku hpresent
    exact hlisted _ (Option.mem_map_of_mem _ hreconciled) (k, u) hku answers rfl hpresent
  | publish previous updated =>
    have hone : Functional (replacementNames s answers handle previous updated) := by
      grind [replacementNames, functional_singleton, functional_nil]
    grind [setAction_publish, publishUpdated_stable]

/-- The objects present after an operation that reaches the device. -/
theorem presentAfter_eq (h : eventAnswers event = some answers) :
    presentAfter event = (Present answers) := by
  ext u
  simp [presentAfter, h]

/-- **One operation.** -/
theorem perform_stable (hs : HandleInvariant s) (hregular : RegularStep s event) :
    HandlesStable (namedReplacements s event) (presentAfter event)
      ((s.perform event).1 = .ok ()) s (s.perform event).2 := by
  cases event with
  | refresh answers =>
    rw [presentAfter_eq rfl]
    exact refresh_stable answers hs
  | login answers refreshAfter =>
    rw [presentAfter_eq rfl]
    exact loginRole_stable answers hs refreshAfter
  | logout answers refreshAfter =>
    rw [presentAfter_eq rfl]
    exact logoutSlot_stable answers hs refreshAfter
  | clearLogin => exact of_shrinks hs (shrinks_clearLoginState s) fun _ => rfl
  | initToken answers =>
    rw [presentAfter_eq rfl]
    dsimp only [perform]
    cases answers.command with
    | error error => exact refl hs fun _ => rfl
    | ok _ => exact refresh_stable answers hs
  | store answers session object =>
    rw [presentAfter_eq rfl]
    exact storeBackedObject_stable answers hs session object
  | insert object => exact insertObject_stable object hs
  | insertSession session objects => exact insertSessionObjects_stable session objects hs
  | destroy answers handle =>
    rw [presentAfter_eq rfl]
    exact destroyObject_stable hs hregular
  | setAttribute answers handle templ =>
    rw [presentAfter_eq rfl]
    exact setAttributeValue_stable hs hregular
  | closeSession session =>
    exact of_shrinks hs (shrinks_closeSession hs session) fun _ => rfl
  | otherSlot =>
    dsimp only [perform]
    cases halloc : s.allocateObject with
    | none => exact refl hs fun _ => rfl
    | some given => exact otherSlot_stable hs halloc

end Step

/-! ## Runs -/

/-- The handles in use. -/
def handlesInUse (s : SlotState) : List ObjectHandle :=
  keys s.memoryObjects ++ keys s.tokenObjectHandles

/-- The handle is in use in no state of a run. -/
def NeverUsed (start : SlotState) (events : List ObjectEvent) (handle : ObjectHandle) : Prop :=
  ∀ earlier later s, events = earlier ++ later → run SlotState.step start earlier = some s →
    handle ∉ handlesInUse s

/-- What an operation after a run does to the handles: a handle has one object, the handle maps are
injective and apart, a handle in use afterwards had its object before or is the replacement that the
operation names or is new, and the objects that stay present and the named replacements have their
handles. -/
structure HandlesHonoured (start : SlotState) (events : List ObjectEvent) (s : SlotState)
    (event : ObjectEvent) : Prop where
  tokenObject : ∀ h u u', (h, u) ∈ (s.perform event).2.tokenObjectHandles →
    (h, u') ∈ (s.perform event).2.tokenObjectHandles → u = u'
  memoryObject : ∀ h o o', (h, o) ∈ (s.perform event).2.memoryObjects →
    (h, o') ∈ (s.perform event).2.memoryObjects → o = o'
  injective : ∀ h h' u, (h, u) ∈ (s.perform event).2.tokenObjectHandles →
    (h', u) ∈ (s.perform event).2.tokenObjectHandles → h = h'
  apart : ∀ h o u, (h, o) ∈ (s.perform event).2.memoryObjects →
    (h, u) ∉ (s.perform event).2.tokenObjectHandles
  tokenHandles : ∀ h u, (h, u) ∈ (s.perform event).2.tokenObjectHandles →
    (h, u) ∈ s.tokenObjectHandles ∨
      ((h, u) ∈ namedReplacements s event ∧ ∃ u₀, (h, u₀) ∈ s.tokenObjectHandles) ∨
      NeverUsed start events h
  memoryHandles : ∀ h o, (h, o) ∈ (s.perform event).2.memoryObjects →
    (∃ o₀, (h, o₀) ∈ s.memoryObjects ∧ o₀.uniqueId = o.uniqueId) ∨ NeverUsed start events h
  kept : ∀ h u, (h, u) ∈ s.tokenObjectHandles → u ∈ presentAfter event →
    (h, u) ∈ (s.perform event).2.tokenObjectHandles
  replaced : (s.perform event).1 = .ok () → ∀ p ∈ namedReplacements s event,
    p ∈ (s.perform event).2.tokenObjectHandles

/-- A new slot has no handles. -/
theorem handleInvariant_empty (slotId : Ulong) (next : UInt64) :
    HandleInvariant (empty slotId next) where
  tokenFunctional := functional_nil
  tokenInjective := injective_nil
  memoryFunctional := functional_nil
  disjoint := fun _ h => nomatch h
  tokenBelow := fun _ h => nomatch h
  memoryBelow := fun _ h => nomatch h
  stored := fun _ _ h => nomatch h

/-- The invariant along a run, and the handles given out grow. -/
theorem run_invariant {s' : SlotState} (hs : HandleInvariant s)
    (halong : Along step RegularStep s events) (hrun : run step s events = some s') :
    HandleInvariant s' ∧ handleBound s ≤ handleBound s' := by
  refine run_induction (fun x => HandleInvariant x ∧ handleBound s ≤ handleBound x) ?_ events s s'
    ⟨hs, le_rfl⟩ halong hrun
  rintro x event x' ⟨hx, hle⟩ hregular hstep
  cases hstep
  have hstable := perform_stable hx hregular
  exact ⟨hstable.inv, hle.trans hstable.bound⟩

/-- A handle above everything given out so far has never been used. -/
theorem neverUsed_of_le {slotId : Ulong} {next : UInt64}
    (halong : Along step RegularStep (empty slotId next) events)
    (hrun : run step (empty slotId next) events = some s) (hle : handleBound s ≤ handle.toNat) :
    NeverUsed (empty slotId next) events handle := by
  rintro earlier later s₀ rfl hearlier hmem
  rw [run_append, hearlier] at hrun
  obtain ⟨halong₀, hlater⟩ := along_append.mp halong
  have hs₀ : HandleInvariant s₀ :=
    (run_invariant (handleInvariant_empty slotId next) halong₀ hearlier).1
  have hbound : handleBound s₀ ≤ handleBound s :=
    (run_invariant hs₀ (hlater s₀ hearlier) hrun).2
  have hlt : handle.toNat < handleBound s₀ := by
    rcases List.mem_append.mp hmem with hmem | hmem
    · exact hs₀.memoryBelow handle hmem
    · exact hs₀.tokenBelow handle hmem
  omega

/-- **Handles over a run.**  In every run of operations on a new slot context whose steps are
regular, every operation honours the handles. -/
theorem object_handles_honoured (slotId : Ulong) (next : UInt64) (events : List ObjectEvent)
    (event : ObjectEvent) (s : SlotState)
    (halong : Along SlotState.step RegularStep (SlotState.empty slotId next) (events ++ [event]))
    (hrun : run SlotState.step (SlotState.empty slotId next) events = some s) :
    HandlesHonoured (SlotState.empty slotId next) events s event := by
  obtain ⟨halong₀, hlast⟩ := along_append.mp halong
  have hs : HandleInvariant s :=
    (run_invariant (handleInvariant_empty slotId next) halong₀ hrun).1
  have hstable := perform_stable hs (hlast s hrun).1
  refine ⟨hstable.inv.tokenFunctional, hstable.inv.memoryFunctional, hstable.inv.tokenInjective,
    ?_, ?_, ?_, hstable.kept, hstable.replaced⟩
  · intro h o u ho hu
    exact hstable.inv.disjoint h (mem_keys_of_mem ho) (mem_keys_of_mem hu)
  · intro h u hu
    rcases hstable.token h u hu with hold | ⟨hnamed, hkey⟩ | hnew
    · exact Or.inl hold
    · exact Or.inr (Or.inl ⟨hnamed, mem_keys.mp hkey⟩)
    · exact Or.inr (Or.inr (neverUsed_of_le halong₀ hrun hnew))
  · intro h o ho
    rcases hstable.memory h o ho with hold | hnew
    · exact Or.inl hold
    · exact Or.inr (neverUsed_of_le halong₀ hrun hnew)

/-! ### A key move on a PIV slot -/

/-- The private and the public key object of a PIV slot. -/
def pivKeyObjects (pivSlot : UInt8) (privateId publicId : String) : List TokenObject :=
  [{ class_ := Cko.privateKey, keyType := Ckk.ec, slotId := some 1, uniqueId := privateId,
     id := [pivSlot], token := true, isPrivate := false,
     material := .external (.pivPrivate pivSlot) },
   { class_ := Cko.publicKey, keyType := Ckk.ec, slotId := some 1, uniqueId := publicId,
     id := [pivSlot], token := true, isPrivate := false, material := .pub (.ec [] []) }]

/-- The first refresh, with a key in slot 1 and some stored objects. -/
def pivDiscovery (stored : List (ContentReference × TokenObject)) : ObjectEvent :=
  .refresh { device := .ok (pivKeyObjects 1 "private 1" "public 1"), stored := .ok stored }

/-- What the slot and the storage answer while the key moves from slot 1 to slot 2. -/
def pivMoveAnswers (stored : List (ContentReference × TokenObject)) : Answers :=
  { role := some .so
    before := .ok (pivKeyObjects 1 "private 1" "public 1")
    device := .ok (pivKeyObjects 2 "private 2" "public 2")
    stored := .ok stored }

/-- `C_SetAttributeValue` of `CKA_ID` on the private key. -/
def pivMove (stored : List (ContentReference × TokenObject)) (handle : ObjectHandle) :
    ObjectEvent :=
  .setAttribute (pivMoveAnswers stored) handle [CkAttribute.plain Cka.id [2]]

/-- A stored public key with the `CKA_ID` of slot 1. -/
def storedPublicKey : List (ContentReference × TokenObject) :=
  [([0xab],
    { class_ := Cko.publicKey, keyType := Ckk.ec, slotId := some 1, id := [1], token := true,
      isPrivate := false, material := .pub (.ec [] []) })]

/-- Without stored objects the move is a regular step. -/
theorem object_handles_honoured_pivMove :
    HandlesHonoured (SlotState.empty 1 1) [pivDiscovery []]
      ((SlotState.empty 1 1).perform (pivDiscovery [])).2 (pivMove [] 1) := by
  have hdiscovery : RegularStep (SlotState.empty 1 1) (pivDiscovery []) :=
    ⟨by decide +kernel, by decide +kernel, by decide +kernel, by decide +kernel,
      by decide +kernel⟩
  have hmove : RegularStep ((SlotState.empty 1 1).perform (pivDiscovery [])).2 (pivMove [] 1) :=
    ⟨by decide +kernel, by decide +kernel, by decide +kernel, by decide +kernel,
      by decide +kernel⟩
  refine object_handles_honoured 1 1 [pivDiscovery []] (pivMove [] 1) _ ⟨hdiscovery, ?_⟩ rfl
  intro s hs
  cases hs
  exact ⟨hmove, fun _ _ => trivial⟩

/-- With a stored public key of the same `CKA_ID` the move gives its handle to the public key of
the destination, which then has two handles, and the stored key loses its handle. -/
theorem piv_move_merges_handles :
    ∃ s, run SlotState.step (SlotState.empty 1 1) [pivDiscovery storedPublicKey] = some s ∧
      (s.perform (pivMove storedPublicKey 2)).1 = .ok () ∧
      (1, "public 2") ∈ (s.perform (pivMove storedPublicKey 2)).2.tokenObjectHandles ∧
      (3, "public 2") ∈ (s.perform (pivMove storedPublicKey 2)).2.tokenObjectHandles ∧
      (1, backedObjectUniqueId [0xab]) ∈ s.tokenObjectHandles ∧
      backedObjectUniqueId [0xab] ∈ presentIds (pivMoveAnswers storedPublicKey) ∧
      (1, backedObjectUniqueId [0xab]) ∉
        (s.perform (pivMove storedPublicKey 2)).2.tokenObjectHandles :=
  ⟨((SlotState.empty 1 1).perform (pivDiscovery storedPublicKey)).2, rfl, by decide +kernel,
    by decide +kernel, by decide +kernel, by decide +kernel, by decide +kernel,
    by decide +kernel⟩

end Pkcs11rs.Analysis
