import Mathlib.Data.Set.Basic
import Mathlib.Tactic.SplitIfs
import Pkcs11rs.Model.ObjectHandles

/-!
# Reconciliation of the handle map

`HandleInvariant` is what the two handle maps of a slot satisfy in every reachable state, and
`HandlesStable` is what one operation does to them: which entries it can add, which it keeps and
where the handles go that it rebinds.

`reconcile_stable` is the result about `reconcile_slot_token_objects_with_rebindings`: rebindings
with distinct targets that nothing else holds keep the invariant.
-/

set_option autoImplicit false

namespace Pkcs11rs.Analysis

open Pkcs11rs.Library Pkcs11rs.Model SlotState List

variable {s' : SlotState} {done₁ : Prop} {handle : ObjectHandle} {ids : List String} {s : SlotState}
  {handles : List ObjectHandle} {present : Set String} {rebindings : List (ObjectHandle × String)}
  {u : String}

/-! ## The handles that have been given out -/

/-- Every handle given out so far is below this number. -/
def handleBound (s : SlotState) : ℕ :=
  if s.nextObject = 0 then 2 ^ 64 else s.nextObject.toNat

/-- What holds of the handle maps in every reachable state. -/
structure HandleInvariant (s : SlotState) : Prop where
  tokenFunctional : Functional s.tokenObjectHandles
  tokenInjective : Injective s.tokenObjectHandles
  memoryFunctional : Functional s.memoryObjects
  disjoint : ∀ h ∈ keys s.memoryObjects, h ∉ keys s.tokenObjectHandles
  tokenBelow : ∀ h ∈ keys s.tokenObjectHandles, h.toNat < handleBound s
  memoryBelow : ∀ h ∈ keys s.memoryObjects, h.toNat < handleBound s
  stored : ∀ u o, (u, o) ∈ s.backedTokenObjects → o.token = true

/-- What an operation does to the handles.  `named` are the replacements that it names and
`present` the token objects that exist when it returns; `done` says that it succeeded. -/
structure HandlesStable (named : List (ObjectHandle × String)) (present : Set String)
    (done : Prop) (s s' : SlotState) : Prop where
  inv : HandleInvariant s'
  bound : handleBound s ≤ handleBound s'
  token : ∀ h u, (h, u) ∈ s'.tokenObjectHandles →
    (h, u) ∈ s.tokenObjectHandles ∨ ((h, u) ∈ named ∧ h ∈ keys s.tokenObjectHandles) ∨
      handleBound s ≤ h.toNat
  memory : ∀ h o, (h, o) ∈ s'.memoryObjects →
    (∃ o₀, (h, o₀) ∈ s.memoryObjects ∧ o₀.uniqueId = o.uniqueId) ∨ handleBound s ≤ h.toNat
  kept : ∀ h u, (h, u) ∈ s.tokenObjectHandles → u ∈ present → (h, u) ∈ s'.tokenObjectHandles
  replaced : done → ∀ p ∈ named, p ∈ s'.tokenObjectHandles

/-! ## Changes that add no handle -/

/-- The state loses some memory objects at most, and the handles of token objects stay. -/
structure Shrinks (s s' : SlotState) : Prop where
  token : s'.tokenObjectHandles = s.tokenObjectHandles
  memory : s'.memoryObjects ⊆ s.memoryObjects
  next : s'.nextObject = s.nextObject
  stored : (∀ u o, (u, o) ∈ s.backedTokenObjects → o.token = true) →
    ∀ u o, (u, o) ∈ s'.backedTokenObjects → o.token = true

/-- The counter stays. -/
theorem Shrinks.bound_eq (h : Shrinks s s') : handleBound s' = handleBound s := by
  unfold handleBound
  rw [h.next]

/-- The handles that are left. -/
theorem Shrinks.keys_memory (h : Shrinks s s') :
    ∀ k ∈ keys s'.memoryObjects, k ∈ keys s.memoryObjects := by
  intro k hk
  obtain ⟨o, ho⟩ := mem_keys.mp hk
  exact mem_keys_of_mem (h.memory ho)

/-- The invariant is kept. -/
theorem Shrinks.inv (h : Shrinks s s') (hs : HandleInvariant s) : HandleInvariant s' where
  tokenFunctional := h.token ▸ hs.tokenFunctional
  tokenInjective := h.token ▸ hs.tokenInjective
  memoryFunctional := hs.memoryFunctional.mono h.memory
  disjoint := fun k hk => h.token ▸ hs.disjoint k (h.keys_memory k hk)
  tokenBelow := by
    rw [h.token, h.bound_eq]
    exact hs.tokenBelow
  memoryBelow := by
    rw [h.bound_eq]
    exact fun k hk => hs.memoryBelow k (h.keys_memory k hk)
  stored := h.stored hs.stored

namespace HandlesStable

variable {named : List (ObjectHandle × String)} {present : Set String} {done : Prop}
  {s s₁ s₂ : SlotState}

section

variable (hs : HandleInvariant s)

include hs

/-- An operation that only forgets. -/
theorem of_shrinks (h : Shrinks s s₁) (hnamed : done → named = []) :
    HandlesStable named present done s s₁ where
  inv := h.inv hs
  bound := h.bound_eq.ge
  token := fun k u hu => .inl (h.token ▸ hu)
  memory := fun k o ho => .inl ⟨o, h.memory ho, rfl⟩
  kept := fun k u hu _ => h.token ▸ hu
  replaced := by
    intro hdone p hp
    rw [hnamed hdone] at hp
    cases hp

/-- An operation that does nothing. -/
theorem refl (hnamed : done → named = []) : HandlesStable named present done s s :=
  of_shrinks hs ⟨rfl, List.Subset.refl _, rfl, id⟩ hnamed

/-- A call that failed before it changed anything. -/
theorem failed (hdone : ¬ done) : HandlesStable named present done s s :=
  refl hs fun h => absurd h hdone

end

/-- Forgetting first. -/
theorem after_shrinks (h : Shrinks s s₁) (h₁ : HandlesStable named present done s₁ s₂) :
    HandlesStable named present done s s₂ where
  inv := h₁.inv
  bound := h.bound_eq ▸ h₁.bound
  token := by
    rw [← h.token, ← h.bound_eq]
    exact h₁.token
  memory := by
    intro k o ho
    rw [← h.bound_eq]
    rcases h₁.memory k o ho with ⟨o₀, ho₀, hid⟩ | hnew
    · exact .inl ⟨o₀, h.memory ho₀, hid⟩
    · exact .inr hnew
  kept := by
    rw [← h.token]
    exact h₁.kept
  replaced := h₁.replaced

/-- Forgetting afterwards. -/
theorem shrink (h : HandlesStable named present done s s₁) (h₁ : Shrinks s₁ s₂) :
    HandlesStable named present done s s₂ where
  inv := h₁.inv h.inv
  bound := h₁.bound_eq ▸ h.bound
  token := by
    rw [h₁.token]
    exact h.token
  memory := fun k o ho => h.memory k o (h₁.memory ho)
  kept := by
    rw [h₁.token]
    exact h.kept
  replaced := by
    rw [h₁.token]
    exact h.replaced

/-- Rebinding comes first; what follows names no replacement and keeps the listed objects. -/
theorem named_trans {ids : Set String} (h : HandlesStable named present True s s₁)
    (h₁ : HandlesStable [] ids done₁ s₁ s₂) (hnamed : ∀ p ∈ named, p.2 ∈ ids)
    (hlisted : ∀ k u, (k, u) ∈ s.tokenObjectHandles → u ∈ present → u ∈ ids) :
    HandlesStable named present done s s₂ where
  inv := h₁.inv
  bound := h.bound.trans h₁.bound
  token := by
    intro k u hu
    rcases h₁.token k u hu with hold | ⟨hnil, -⟩ | hnew
    · exact h.token k u hold
    · cases hnil
    · exact .inr (.inr (h.bound.trans hnew))
  memory := by
    intro k o ho
    rcases h₁.memory k o ho with ⟨o₁, ho₁, hid₁⟩ | hnew
    · rcases h.memory k o₁ ho₁ with ⟨o₀, ho₀, hid₀⟩ | hnew
      · exact .inl ⟨o₀, ho₀, hid₀.trans hid₁⟩
      · exact .inr hnew
    · exact .inr (h.bound.trans hnew)
  kept := fun k u hu hpresent => h₁.kept k u (h.kept k u hu hpresent) (hlisted k u hu hpresent)
  replaced := fun _ p hp => h₁.kept p.1 p.2 (h.replaced trivial p hp) (hnamed p hp)

/-- Operations that name no replacement compose. -/
theorem trans {done₂ : Prop} (h : HandlesStable [] present done₁ s s₁)
    (h₁ : HandlesStable [] present done₂ s₁ s₂) : HandlesStable [] present done s s₂ :=
  named_trans { h with replaced := nofun } h₁ nofun
    fun _ _ _ hu => hu

end HandlesStable

/-! ## Removing handles -/

section Removal

variable (s : SlotState) (handles : List ObjectHandle)

/-- The token handles that are left. -/
@[simp] theorem removeObjectHandles_token : (s.removeObjectHandles handles).tokenObjectHandles =
      s.tokenObjectHandles.filter fun entry => entry.1 ∉ handles := by
  unfold removeObjectHandles
  induction handles generalizing s with
  | nil => simp
  | cons handle handles ih =>
    rw [foldl_cons, ih]
    simp [removeObjectHandle, mapRemove, filter_filter, Bool.and_comm]

/-- The memory objects that are left. -/
@[simp] theorem removeObjectHandles_memory : (s.removeObjectHandles handles).memoryObjects =
      s.memoryObjects.filter fun entry => entry.1 ∉ handles := by
  unfold removeObjectHandles
  induction handles generalizing s with
  | nil => simp
  | cons handle handles ih =>
    rw [foldl_cons, ih]
    simp [removeObjectHandle, mapRemove, filter_filter, Bool.and_comm]

/-- The counter stays. -/
@[simp] theorem removeObjectHandles_next :
    (s.removeObjectHandles handles).nextObject = s.nextObject := by
  induction handles generalizing s with
  | nil => rfl
  | cons handle handles ih => exact ih _

/-- The stored objects stay. -/
@[simp] theorem removeObjectHandles_backed :
    (s.removeObjectHandles handles).backedTokenObjects = s.backedTokenObjects := by
  induction handles generalizing s with
  | nil => rfl
  | cons handle handles ih => exact ih _

/-- One handle. -/
theorem removeObjectHandle_eq (handle : ObjectHandle) :
    s.removeObjectHandle handle = s.removeObjectHandles [handle] := rfl

end Removal

/-- Removing handles of memory objects leaves those of token objects alone. -/
theorem shrinks_removeObjectHandles (hhandles : ∀ h ∈ handles, h ∉ keys s.tokenObjectHandles) :
    Shrinks s (s.removeObjectHandles handles) where
  token := by
    rw [removeObjectHandles_token, filter_eq_self]
    intro entry hentry
    simp only [decide_eq_true_eq]
    exact fun hmem => hhandles entry.1 hmem (mem_keys_of_mem hentry)
  memory := by
    rw [removeObjectHandles_memory]
    exact filter_subset_self _
  next := removeObjectHandles_next s handles
  stored := by
    rw [removeObjectHandles_backed]
    exact id

/-- Forgetting a memory object. -/
theorem shrinks_removeObjectHandle (hhandle : handle ∉ keys s.tokenObjectHandles) :
    Shrinks s (s.removeObjectHandle handle) := by
  rw [removeObjectHandle_eq]
  apply shrinks_removeObjectHandles
  intro h hh
  rw [mem_singleton.mp hh]
  exact hhandle

/-- Removing handles whose objects are gone. -/
theorem HandlesStable.forget {done : Prop} (hs : HandleInvariant s)
    (hgone : ∀ h u, (h, u) ∈ s.tokenObjectHandles → u ∈ present → h ∉ handles) :
    HandlesStable [] present done s (s.removeObjectHandles handles) := by
  have htoken : (s.removeObjectHandles handles).tokenObjectHandles ⊆ s.tokenObjectHandles := by
    rw [removeObjectHandles_token]
    exact filter_subset_self _
  have hmemory : (s.removeObjectHandles handles).memoryObjects ⊆ s.memoryObjects := by
    rw [removeObjectHandles_memory]
    exact filter_subset_self _
  have hbound : handleBound (s.removeObjectHandles handles) = handleBound s := by
    simp [handleBound]
  have hkeys : ∀ h ∈ keys (s.removeObjectHandles handles).tokenObjectHandles,
      h ∈ keys s.tokenObjectHandles := by
    intro h hh
    obtain ⟨u, hu⟩ := mem_keys.mp hh
    exact mem_keys_of_mem (htoken hu)
  have hkeysMemory : ∀ h ∈ keys (s.removeObjectHandles handles).memoryObjects,
      h ∈ keys s.memoryObjects := by
    intro h hh
    obtain ⟨o, ho⟩ := mem_keys.mp hh
    exact mem_keys_of_mem (hmemory ho)
  refine ⟨⟨hs.tokenFunctional.mono htoken, hs.tokenInjective.mono htoken,
    hs.memoryFunctional.mono hmemory, ?_, ?_, ?_, ?_⟩, hbound.ge, ?_, ?_, ?_, ?_⟩
  · exact fun h hh htok => hs.disjoint h (hkeysMemory h hh) (hkeys h htok)
  · exact fun h hh => hbound ▸ hs.tokenBelow h (hkeys h hh)
  · exact fun h hh => hbound ▸ hs.memoryBelow h (hkeysMemory h hh)
  · rw [removeObjectHandles_backed]
    exact hs.stored
  · exact fun h u hu => .inl (htoken hu)
  · exact fun h o ho => .inl ⟨o, hmemory ho, rfl⟩
  · intro h u hu hpresent
    rw [removeObjectHandles_token]
    exact mem_filter.mpr ⟨hu, by simpa using hgone h u hu hpresent⟩
  · exact nofun

/-! ## Giving out handles -/

/-- A counter that gives out its value and stands at 0 after the last one. -/
theorem counter_succ (next : UInt64) :
    (if next + 1 = 0 then 2 ^ 64 else (next + 1).toNat) = next.toNat + 1 := by
  have hlt : next.toNat < 2 ^ 64 := next.toNat_lt
  have hadd : (next + 1).toNat = (next.toNat + 1) % 2 ^ 64 := by
    rfl
  by_cases hmax : next.toNat + 1 = 2 ^ 64
  · have hwrap : next + 1 = 0 := by
      apply UInt64.toNat_inj.mp
      rw [hadd, hmax]
      rfl
    rw [if_pos hwrap, hmax]
  · have hsucc : (next + 1).toNat = next.toNat + 1 := by omega
    have hne : next + 1 ≠ 0 := by
      intro heq
      rw [heq] at hsucc
      exact absurd hsucc (by simp)
    rw [if_neg hne, hsucc]

/-- What `allocate_object` gives out. -/
theorem allocateObject_spec (h : s.allocateObject = some (handle, s')) :
    handle.toNat = handleBound s ∧ handleBound s' = handleBound s + 1 ∧
      s' = { s with nextObject := s'.nextObject } := by
  unfold allocateObject at h
  split_ifs at h with hzero
  obtain ⟨rfl, rfl⟩ := Prod.mk.inj (Option.some.inj h)
  have hbound : handleBound s = s.nextObject.toNat := if_neg hzero
  refine ⟨hbound.symm, ?_, rfl⟩
  rw [hbound]
  exact counter_succ s.nextObject

/-- The objects stay as they are. -/
theorem allocateObject_frame (h : s.allocateObject = some (handle, s')) :
    s'.tokenObjectHandles = s.tokenObjectHandles ∧ s'.memoryObjects = s.memoryObjects ∧
      s'.backedTokenObjects = s.backedTokenObjects := by
  rw [(allocateObject_spec h).2.2]
  exact ⟨rfl, rfl, rfl⟩

/-- A handle that has been given out before is not the new one. -/
theorem ne_of_lt_bound {h : ObjectHandle} (hh : h.toNat < handleBound s)
    (hnew : handle.toNat = handleBound s) : h ≠ handle := by
  rintro rfl
  omega

/-- A new token object. -/
theorem HandlesStable.addToken {done : Prop} {s₁ : SlotState} {uniqueId : String}
    (hs : HandleInvariant s) (halloc : s.allocateObject = some (handle, s₁))
    (hfree : ∀ h, (h, uniqueId) ∉ s.tokenObjectHandles) : HandlesStable [] present done s
      { s₁ with tokenObjectHandles := mapInsert s₁.tokenObjectHandles handle uniqueId } := by
  obtain ⟨hnew, hbound, -⟩ := allocateObject_spec halloc
  obtain ⟨htoken, hmemory, hbacked⟩ := allocateObject_frame halloc
  have hbound' : handleBound { s₁ with
      tokenObjectHandles := mapInsert s₁.tokenObjectHandles handle uniqueId } =
      handleBound s + 1 := hbound
  refine ⟨⟨?_, ?_, ?_, ?_, ?_, ?_, ?_⟩, ?_, ?_, ?_, ?_, ?_⟩
  · exact htoken ▸ hs.tokenFunctional.mapInsert handle uniqueId
  · exact htoken ▸ hs.tokenInjective.mapInsert hfree
  · exact hmemory ▸ hs.memoryFunctional
  · intro h hh htok
    have hmem : h ∈ keys s.memoryObjects := hmemory ▸ hh
    obtain ⟨u, hu⟩ := mem_keys.mp htok
    rcases mem_mapInsert.mp hu with heq | ⟨hold, -⟩
    · exact ne_of_lt_bound (hs.memoryBelow h hmem) hnew (Prod.mk.inj heq).1
    · exact hs.disjoint h hmem (mem_keys_of_mem (htoken ▸ hold))
  · intro h hh
    rw [hbound']
    obtain ⟨u, hu⟩ := mem_keys.mp hh
    rcases mem_mapInsert.mp hu with heq | ⟨hold, -⟩
    · rw [(Prod.mk.inj heq).1, hnew]
      exact Nat.lt_succ_self _
    · exact Nat.lt_succ_of_lt (hs.tokenBelow h (mem_keys_of_mem (htoken ▸ hold)))
  · intro h hh
    rw [hbound']
    exact Nat.lt_succ_of_lt (hs.memoryBelow h (hmemory ▸ hh))
  · exact hbacked ▸ hs.stored
  · exact hbound' ▸ Nat.le_succ _
  · grind [mem_mapInsert]
  · exact fun h o ho => .inl ⟨o, hmemory ▸ ho, rfl⟩
  · intro h u hu _
    have hne : h ≠ handle := ne_of_lt_bound (hs.tokenBelow h (mem_keys_of_mem hu)) hnew
    exact mem_mapInsert.mpr (.inr ⟨htoken ▸ hu, hne⟩)
  · exact nofun

/-- The loop that gives handles to new objects. -/
theorem allocateHandles_stable {done : Prop} (hids : ids.Nodup) :
    ∀ {s : SlotState}, HandleInvariant s →
      (∀ u ∈ ids, ∀ h, (h, u) ∉ s.tokenObjectHandles) →
      HandlesStable [] present done s (allocateHandles ids s).2 := by
  induction ids with
  | nil =>
    intro s hs _
    exact HandlesStable.refl hs fun _ => rfl
  | cons u ids ih =>
    intro s hs hfree
    obtain ⟨hu, hrest⟩ := nodup_cons.mp hids
    unfold allocateHandles
    cases halloc : s.allocateObject with
    | none => exact HandlesStable.refl hs fun _ => rfl
    | some given =>
      have hadd : HandlesStable [] present done s _ :=
        HandlesStable.addToken hs halloc (hfree u mem_cons_self)
      refine hadd.trans (ih hrest hadd.inv ?_)
      intro u' hu' h hmem
      have htoken := (allocateObject_frame halloc).1
      rcases mem_mapInsert.mp hmem with heq | ⟨hold, -⟩
      · exact hu ((Prod.mk.inj heq).2 ▸ hu')
      · exact hfree u' (mem_cons_of_mem _ hu') h (htoken ▸ hold)

/-! ## Reconciliation -/

/-- The rebindings that pass the check are about known handles and listed objects. -/
theorem checkRebindings_ok (h : s.checkRebindings ids rebindings = .ok ()) :
    ∀ p ∈ rebindings, p.1 ∈ keys s.tokenObjectHandles ∧ p.2 ∈ ids := by
  induction rebindings with
  | nil => exact nofun
  | cons binding rebindings ih =>
    unfold checkRebindings at h
    split_ifs at h with hhas hmem
    intro p hp
    rcases mem_cons.mp hp with rfl | hp
    · exact ⟨mapHas_iff.mp (by simpa using hhas), hmem⟩
    · exact ih h p hp

/-- A handle whose object is listed is not removed. -/
theorem not_mem_unlisted {h : ObjectHandle} (hfun : Functional s.tokenObjectHandles)
    (hu : (h, u) ∈ s.tokenObjectHandles) (hid : u ∈ ids) : h ∉ s.unlisted ids := by
  intro hmem
  obtain ⟨⟨k, u'⟩, hentry, rfl⟩ := mem_map.mp hmem
  obtain ⟨hu', hnot⟩ := mem_filter.mp hentry
  have hsame : u = u' := hfun k u u' hu hu'
  simp only [decide_eq_true_eq] at hnot
  exact hnot (hsame ▸ hid)

/-- The listed objects without a handle. -/
theorem newUniqueIds_spec (s : SlotState) (hids : ids.Nodup) : (s.newUniqueIds ids).Nodup ∧
      ∀ u ∈ s.newUniqueIds ids, ∀ h, (h, u) ∉ s.tokenObjectHandles := by
  grind [newUniqueIds, perm_insertionSort]

/-- Rebindings with distinct targets which only the rebound handles hold. -/
structure CleanRebindings (s : SlotState) (present : Set String)
    (rebindings : List (ObjectHandle × String)) : Prop where
  functional : Functional rebindings
  injective : Injective rebindings
  free : ∀ h u, (h, u) ∈ s.tokenObjectHandles → u ∈ rebindings.map (·.2) → h ∈ keys rebindings
  gone : ∀ h u u', (h, u') ∈ rebindings → (h, u) ∈ s.tokenObjectHandles → u ∈ present → u = u'

/-- No rebindings. -/
theorem cleanRebindings_nil (s : SlotState) (present : Set String) : CleanRebindings s present [] :=
  ⟨functional_nil, injective_nil, fun _ _ _ hu => (nomatch hu), fun _ _ _ h => (nomatch h)⟩

namespace CleanRebindings

variable {s : SlotState} {present : Set String} {rebindings : List (ObjectHandle × String)}

section

variable (h : CleanRebindings s present rebindings)

include h

/-- Clean rebindings have no conflicts. -/
theorem conflicts_eq_nil : s.conflicts rebindings = [] := by
  unfold conflicts
  rw [map_eq_nil_iff, filter_eq_nil_iff]
  rintro ⟨k, u⟩ hmem
  simp only [decide_eq_true_eq, not_and, not_not]
  exact fun hu => h.free k u hmem hu

/-- The handles after the rebindings. -/
theorem mem_rebind {k : ObjectHandle} : (k, u) ∈ (s.rebind rebindings).tokenObjectHandles ↔
      (k, u) ∈ rebindings ∨ (k, u) ∈ s.tokenObjectHandles ∧ k ∉ keys rebindings :=
  mem_mapInsertAll h.functional

/-- The loop that sets the locators. -/
theorem rebind_stable (hs : HandleInvariant s)
    (hkeys : ∀ p ∈ rebindings, p.1 ∈ keys s.tokenObjectHandles) {done : Prop} :
    HandlesStable rebindings present done s (s.rebind rebindings) := by
  have hknown : ∀ k ∈ keys (s.rebind rebindings).tokenObjectHandles,
      k ∈ keys s.tokenObjectHandles := by
    intro k hk
    obtain ⟨u, hu⟩ := mem_keys.mp hk
    rcases h.mem_rebind.mp hu with hnew | ⟨hold, -⟩
    · exact hkeys _ hnew
    · exact mem_keys_of_mem hold
  refine ⟨⟨?_, ?_, hs.memoryFunctional, ?_, ?_, hs.memoryBelow, hs.stored⟩, le_rfl, ?_, ?_, ?_, ?_⟩
  · intro k u u' hu hu'
    rcases h.mem_rebind.mp hu with hu | ⟨hu, hk⟩ <;> rcases h.mem_rebind.mp hu' with hu' | ⟨hu', hk'⟩
    · exact h.functional k u u' hu hu'
    · exact absurd (mem_keys_of_mem hu) hk'
    · exact absurd (mem_keys_of_mem hu') hk
    · exact hs.tokenFunctional k u u' hu hu'
  · intro k k' u hk hk'
    rcases h.mem_rebind.mp hk with hk | ⟨hk, hnot⟩ <;>
      rcases h.mem_rebind.mp hk' with hk' | ⟨hk', hnot'⟩
    · exact h.injective k k' u hk hk'
    -- a handle that is not rebound does not hold a target
    · exact absurd (h.free k' u hk' (mem_map.mpr ⟨(k, u), hk, rfl⟩)) hnot'
    · exact absurd (h.free k u hk (mem_map.mpr ⟨(k', u), hk', rfl⟩)) hnot
    · exact hs.tokenInjective k k' u hk hk'
  · exact fun k hk htok => hs.disjoint k hk (hknown k htok)
  · exact fun k hk => hs.tokenBelow k (hknown k hk)
  · intro k u hu
    rcases h.mem_rebind.mp hu with hnew | ⟨hold, -⟩
    · exact .inr (.inl ⟨hnew, hkeys _ hnew⟩)
    · exact .inl hold
  · exact fun k o ho => .inl ⟨o, ho, rfl⟩
  · intro k u hu hpresent
    refine h.mem_rebind.mpr ?_
    by_cases hk : k ∈ keys rebindings
    · obtain ⟨u', hu'⟩ := mem_keys.mp hk
      rw [h.gone k u u' hu' hu hpresent]
      exact .inl hu'
    · exact .inr ⟨hu, hk⟩
  · rintro - ⟨k, u⟩ hp
    exact h.mem_rebind.mpr (.inl hp)

end

end CleanRebindings

/-- **Reconciliation.**  With rebindings that have distinct and free targets, and an object list
that has every object still present, `reconcile_slot_token_objects_with_rebindings` keeps the
invariant and the handles of the objects. -/
theorem reconcile_stable {objects : List TokenObject} (hs : HandleInvariant s)
    (hclean : CleanRebindings s present rebindings)
    (hlisted : ∀ k u, (k, u) ∈ s.tokenObjectHandles → u ∈ present → u ∈ tokenUniqueIds objects) :
    HandlesStable rebindings present ((s.reconcileWithRebindings objects rebindings).1 = .ok ()) s
      (s.reconcileWithRebindings objects rebindings).2 := by
  unfold reconcileWithRebindings
  dsimp only
  split_ifs with hbad
  · exact HandlesStable.failed hs nofun
  · have hnodup : (tokenUniqueIds objects).Nodup := by
      by_contra hnot
      exact hbad (.inr hnot)
    cases hcheck : s.checkRebindings (tokenUniqueIds objects) rebindings with
    | error error => exact HandlesStable.failed hs nofun
    | ok _ =>
      have hchecked := checkRebindings_ok hcheck
      rw [hclean.conflicts_eq_nil]
      -- the three loops: locators, unlisted objects, new objects
      have hrebind : HandlesStable rebindings present True s (s.rebind rebindings) :=
        hclean.rebind_stable hs fun p hp => (hchecked p hp).1
      have hunlisted : HandlesStable [] {u | u ∈ tokenUniqueIds objects} True (s.rebind rebindings)
          ((s.rebind rebindings).removeObjectHandles
            ((s.rebind rebindings).unlisted (tokenUniqueIds objects))) :=
        HandlesStable.forget hrebind.inv fun k u hu hid =>
          not_mem_unlisted hrebind.inv.tokenFunctional hu hid
      obtain ⟨hnew, hfree⟩ := newUniqueIds_spec ((s.rebind rebindings).removeObjectHandles
        ((s.rebind rebindings).unlisted (tokenUniqueIds objects))) hnodup
      have hallocate : HandlesStable [] {u | u ∈ tokenUniqueIds objects} True _ _ :=
        allocateHandles_stable hnew hunlisted.inv hfree
      have hrest : HandlesStable [] {u | u ∈ tokenUniqueIds objects} True _ _ :=
        hunlisted.trans hallocate
      exact hrebind.named_trans hrest (fun p hp => (hchecked p hp).2) hlisted

end Pkcs11rs.Analysis
