import Pkcs11rs.Analysis.SlotEdits

/-!
# Live handles

What every operation on a slot does to the set of handles that name an object, without any
condition on the operation: `LiveStep` says that a handle which is live afterwards was live before
or has not been given out before.  So a handle that has been removed never comes back.  It is proved
for each edit, and by that for every operation.

`LiveInvariant` is the part of the handle invariant that holds in every reachable state: one entry
for each handle in each map, no handle in both, none above the counter.
-/

set_option autoImplicit false

namespace Pkcs11rs.Analysis

open Pkcs11rs.Library Pkcs11rs.Model

variable {s₁ : SlotState} {opens : SessionHandle → Prop}

/-- What holds of the handle maps in every reachable state. -/
structure LiveInvariant (s : SlotState) : Prop where
  memoryNodup : (keys s.memoryObjects).Nodup
  tokenNodup : (keys s.tokenObjectHandles).Nodup
  disjoint : ∀ h ∈ keys s.memoryObjects, h ∉ keys s.tokenObjectHandles
  below : ∀ h ∈ s.liveHandles, h.toNat < handleBound s
  stored : ∀ u o, (u, o) ∈ s.backedTokenObjects → o.token = true

/-- What an operation does to the live handles. -/
structure LiveStep (s s' : SlotState) : Prop where
  inv : LiveInvariant s'
  bound : handleBound s ≤ handleBound s'
  live : ∀ h ∈ s'.liveHandles, h ∈ s.liveHandles ∨ handleBound s ≤ h.toNat

/-- Nothing happens. -/
theorem LiveStep.refl {s : SlotState} (hs : LiveInvariant s) : LiveStep s s :=
  ⟨hs, le_rfl, fun _ h => .inl h⟩

/-- One step after the other. -/
theorem LiveStep.trans {s s₂ : SlotState} (h : LiveStep s s₁) (h₁ : LiveStep s₁ s₂) :
    LiveStep s s₂ := by
  refine ⟨h₁.inv, h.bound.trans h₁.bound, fun k hk => ?_⟩
  rcases h₁.live k hk with hold | hnew
  · exact h.live k hold
  · exact .inr (h.bound.trans hnew)

/-! ## Changes that add no handle -/

section Kept

variable {s s' : SlotState}

/-- The maps keep some of their handles, and nothing is given out. -/
theorem LiveStep.of_keys (hs : LiveInvariant s) (hmemoryNodup : (keys s'.memoryObjects).Nodup)
    (htokenNodup : (keys s'.tokenObjectHandles).Nodup)
    (hmemory : keys s'.memoryObjects ⊆ keys s.memoryObjects)
    (htoken : keys s'.tokenObjectHandles ⊆ keys s.tokenObjectHandles)
    (hnext : s'.nextObject = s.nextObject)
    (hstored : ∀ u o, (u, o) ∈ s'.backedTokenObjects → o.token = true) : LiveStep s s' := by
  have hbound : handleBound s' = handleBound s := by
    unfold handleBound
    rw [hnext]
  have hlive : s'.liveHandles ⊆ s.liveHandles := by grind [mem_liveHandles]
  refine ⟨⟨hmemoryNodup, htokenNodup, fun h hm ht => hs.disjoint h (hmemory hm) (htoken ht),
    fun h hh => ?_, hstored⟩, hbound.ge, fun h hh => .inl (hlive hh)⟩
  rw [hbound]
  exact hs.below h (hlive hh)

/-- Only the records about stored objects change. -/
theorem LiveStep.of_records (hs : LiveInvariant s) (hmemory : s'.memoryObjects = s.memoryObjects)
    (htoken : s'.tokenObjectHandles = s.tokenObjectHandles) (hnext : s'.nextObject = s.nextObject)
    (hstored : ∀ u o, (u, o) ∈ s'.backedTokenObjects → o.token = true) : LiveStep s s' :=
  LiveStep.of_keys hs (hmemory ▸ hs.memoryNodup) (htoken ▸ hs.tokenNodup)
    (by rw [hmemory]; exact List.Subset.refl _) (by rw [htoken]; exact List.Subset.refl _) hnext
    hstored

end Kept

section Operations

variable {s : SlotState}
variable {handle : ObjectHandle}

section

variable (hs : LiveInvariant s)

include hs

/-- Handles are removed. -/
theorem removeObjectHandles_live (handles : List ObjectHandle) :
    LiveStep s (s.removeObjectHandles handles) := by
  apply LiveStep.of_keys hs
  · rw [removeObjectHandles_memory]
    exact nodup_keys_filter hs.memoryNodup _
  · rw [removeObjectHandles_token]
    exact nodup_keys_filter hs.tokenNodup _
  · rw [removeObjectHandles_memory]
    exact keys_filter_subset _ _
  · rw [removeObjectHandles_token]
    exact keys_filter_subset _ _
  · exact removeObjectHandles_next s handles
  · rw [removeObjectHandles_backed]
    exact hs.stored

/-- The object of a handle that is in use changes. -/
theorem replaceMemory_live (updated : TokenObject) (hhandle : handle ∈ keys s.memoryObjects) :
    LiveStep s { s with memoryObjects := mapInsert s.memoryObjects handle updated } := by
  apply LiveStep.of_keys hs
  · exact nodup_keys_mapInsert hs.memoryNodup handle updated
  · exact hs.tokenNodup
  · intro h hh
    rcases mem_keys_mapInsert.mp hh with rfl | hold
    · exact hhandle
    · exact hold
  · exact List.Subset.refl _
  · rfl
  · exact hs.stored

/-- The login ends. -/
theorem clearLoginState_live : LiveStep s s.clearLoginState :=
  LiveStep.of_keys hs (nodup_keys_filter hs.memoryNodup _) hs.tokenNodup (keys_filter_subset _ _)
    (List.Subset.refl _) rfl hs.stored

/-- A session is closed. -/
theorem closeSession_live (session : Ulong) : LiveStep s (s.closeSession session) :=
  removeObjectHandles_live hs _

end

/-! ## New handles -/

/-- A handle from the counter. -/
theorem allocateObject_live (hs : LiveInvariant s) (halloc : s.allocateObject = some (handle, s₁)) :
    LiveStep s s₁ := by
  obtain ⟨-, hbound, hs₁⟩ := allocateObject_spec halloc
  have hlive : s₁.liveHandles = s.liveHandles := by rw [hs₁]; rfl
  have hle : handleBound s ≤ handleBound s₁ := hbound ▸ Nat.le_succ _
  refine ⟨⟨?_, ?_, ?_, ?_, ?_⟩, hle, fun h hh => .inl (hlive ▸ hh)⟩
  · rw [hs₁]
    exact hs.memoryNodup
  · rw [hs₁]
    exact hs.tokenNodup
  · rw [hs₁]
    exact hs.disjoint
  · intro h hh
    exact (hs.below h (hlive ▸ hh)).trans_le hle
  · rw [hs₁]
    exact hs.stored

/-- A new handle in one of the maps. -/
theorem LiveStep.addHandle {s₂ : SlotState} (hs : LiveInvariant s)
    (halloc : s.allocateObject = some (handle, s₁)) (hmemoryNodup : (keys s₂.memoryObjects).Nodup)
    (htokenNodup : (keys s₂.tokenObjectHandles).Nodup)
    (hkeys : (∀ h ∈ keys s₂.memoryObjects, h = handle ∨ h ∈ keys s.memoryObjects) ∧
        (∀ h ∈ keys s₂.tokenObjectHandles, h ∈ keys s.tokenObjectHandles) ∨
      (∀ h ∈ keys s₂.memoryObjects, h ∈ keys s.memoryObjects) ∧
        ∀ h ∈ keys s₂.tokenObjectHandles, h = handle ∨ h ∈ keys s.tokenObjectHandles)
    (hnext : s₂.nextObject = s₁.nextObject) (hbacked : s₂.backedTokenObjects = s.backedTokenObjects) :
    LiveStep s s₂ := by
  obtain ⟨hnew, hbound, -⟩ := allocateObject_spec halloc
  have hbound₂ : handleBound s₂ = handleBound s + 1 := by
    rw [← hbound]
    unfold handleBound
    rw [hnext]
  have hfresh : ∀ h ∈ s.liveHandles, h ≠ handle := fun h hh =>
    ne_of_lt_bound (hs.below h hh) hnew
  have hlive : ∀ h ∈ s₂.liveHandles, h = handle ∨ h ∈ s.liveHandles := by grind [mem_liveHandles]
  refine ⟨⟨hmemoryNodup, htokenNodup, ?_, ?_, ?_⟩, hbound₂ ▸ Nat.le_succ _, ?_⟩
  · intro h hmem htok
    rcases hkeys with ⟨hm, ht⟩ | ⟨hm, ht⟩
    · rcases hm h hmem with heq | hold
      · exact hfresh h (mem_liveHandles.mpr (.inr (ht h htok))) heq
      · exact hs.disjoint h hold (ht h htok)
    · rcases ht h htok with heq | hold
      · exact hfresh h (mem_liveHandles.mpr (.inl (hm h hmem))) heq
      · exact hs.disjoint h (hm h hmem) hold
  · intro h hh
    rw [hbound₂]
    rcases hlive h hh with rfl | hold
    · rw [hnew]
      exact Nat.lt_succ_self _
    · exact Nat.lt_succ_of_lt (hs.below h hold)
  · rw [hbacked]
    exact hs.stored
  · intro h hh
    rcases hlive h hh with rfl | hold
    · exact .inr hnew.ge
    · exact .inl hold

end Operations

/-! ## Edits -/

/-- A listing edit. -/
theorem ListEdit.live {s s' : SlotState} (h : ListEdit s s') (hs : LiveInvariant s) :
    LiveStep s s' := by
  cases h with
  | removed handles htoken => exact removeObjectHandles_live hs handles
  | listed stored references handles hstored hhandles =>
    exact LiveStep.of_records hs rfl rfl rfl hstored
  | rebound rebindings hknown =>
    exact LiveStep.of_keys hs hs.memoryNodup (nodup_keys_mapInsertAll _ hs.tokenNodup)
      (List.Subset.refl _) (keys_mapInsertAll hknown) rfl hs.stored
  | named uniqueId halloc =>
    obtain ⟨htoken, hmemory, hbacked⟩ := allocateObject_frame halloc
    refine LiveStep.addHandle hs halloc (hmemory ▸ hs.memoryNodup) ?_ (.inr ⟨?_, ?_⟩) rfl ?_
    · exact nodup_keys_mapInsert (htoken ▸ hs.tokenNodup) _ _
    · exact fun h hh => hmemory ▸ hh
    · exact fun h hh => htoken ▸ mem_keys_mapInsert.mp hh
    · exact hbacked

/-- An edit. -/
theorem Edit.live {s s' : SlotState} (h : Edit opens s s') (hs : LiveInvariant s) :
    LiveStep s s' := by
  cases h with
  | list h => exact h.live hs
  | removed handles => exact removeObjectHandles_live hs handles
  | booked references handles hhandles => exact LiveStep.of_records hs rfl rfl rfl hs.stored
  | created object halloc howner =>
    obtain ⟨htoken, hmemory, hbacked⟩ := allocateObject_frame halloc
    refine LiveStep.addHandle hs halloc ?_ (htoken ▸ hs.tokenNodup) (.inl ⟨?_, ?_⟩) rfl ?_
    · exact nodup_keys_mapInsert (hmemory ▸ hs.memoryNodup) _ _
    · exact fun h hh => hmemory ▸ mem_keys_mapInsert.mp hh
    · exact fun h hh => htoken ▸ hh
    · exact hbacked
  | changed updated hobject htoken howner =>
    exact replaceMemory_live hs updated (mem_keys_of_mem hobject)
  | skipped halloc => exact allocateObject_live hs halloc

/-- **Every operation.**  Any number of edits. -/
theorem Edits.live {s s' : SlotState} (h : Edits opens s s') (hs : LiveInvariant s) :
    LiveStep s s' := by
  induction h with
  | refl => exact LiveStep.refl hs
  | tail _ hedit ih => exact ih.trans (hedit.live ih.inv)

/-- A new slot has no handles. -/
theorem liveInvariant_empty (slotId : Ulong) (nextObject : UInt64) :
    LiveInvariant (SlotState.empty slotId nextObject) :=
  ⟨List.nodup_nil, List.nodup_nil, fun _ h => absurd h List.not_mem_nil,
    fun _ h => absurd h List.not_mem_nil, fun _ _ h => absurd h List.not_mem_nil⟩

end Pkcs11rs.Analysis
