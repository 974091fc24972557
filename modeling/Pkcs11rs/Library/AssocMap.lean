import Mathlib.Data.List.Basic

/-!
# Maps as lists of pairs

A finite map is a list of pairs; only its entries matter, so the laws are about membership.
`Functional` says that a key has one value and `Injective` that a value has one key.

`mem_mapInsertAll` gives the entries after a batch of insertions, which is the rule for a loop
that overwrites some keys.
-/

set_option autoImplicit false

namespace Pkcs11rs.Library

variable {κ α : Type}

section Operations

variable [DecidableEq κ]

/-- The value of a key. -/
def mapGet (m : List (κ × α)) (k : κ) : Option α :=
  (m.find? fun p => p.1 = k).map (·.2)

/-- Whether a key has a value. -/
def mapHas (m : List (κ × α)) (k : κ) : Bool :=
  m.any fun p => p.1 = k

/-- Forget a key. -/
def mapRemove (m : List (κ × α)) (k : κ) : List (κ × α) :=
  m.filter fun p => p.1 ≠ k

/-- Give a key a value, in place of the one it had. -/
def mapInsert (m : List (κ × α)) (k : κ) (v : α) : List (κ × α) :=
  (k, v) :: mapRemove m k

/-- Insert a list of bindings, the later ones in place of the earlier ones. -/
def mapInsertAll (m bindings : List (κ × α)) : List (κ × α) :=
  bindings.foldl (fun m binding => mapInsert m binding.1 binding.2) m

end Operations

/-! ## Functional and injective maps -/

/-- Every key has one value. -/
def Functional (m : List (κ × α)) : Prop :=
  ∀ k v v', (k, v) ∈ m → (k, v') ∈ m → v = v'

/-- Every value has one key. -/
def Injective (m : List (κ × α)) : Prop :=
  ∀ k k' v, (k, v) ∈ m → (k', v) ∈ m → k = k'

/-- The keys of a map. -/
def keys (m : List (κ × α)) : List κ := m.map (·.1)

variable {m : List (κ × α)} {k : κ}

/-- Keys are those of the entries. -/
theorem mem_keys : k ∈ keys m ↔ ∃ v, (k, v) ∈ m := by
  simp [keys]

variable {v : α}

/-- The key of an entry. -/
theorem mem_keys_of_mem (h : (k, v) ∈ m) : k ∈ keys m :=
  mem_keys.mpr ⟨v, h⟩

variable {m' : List (κ × α)}

/-- Fewer entries. -/
theorem Functional.mono (hm : Functional m) (h : m' ⊆ m) : Functional m' :=
  fun k v v' hv hv' => hm k v v' (h hv) (h hv')

/-- Fewer entries. -/
theorem Injective.mono (hm : Injective m) (h : m' ⊆ m) : Injective m' :=
  fun k k' v hk hk' => hm k k' v (h hk) (h hk')

/-- The empty map. -/
theorem functional_nil : Functional ([] : List (κ × α)) := nofun

/-- The empty map. -/
theorem injective_nil : Injective ([] : List (κ × α)) := nofun

/-- A map with one entry. -/
theorem functional_singleton (p : κ × α) : Functional [p] := by
  intro k v v' hv hv'
  grind [List.mem_singleton]

/-- The keys that are left. -/
theorem keys_filter_subset (m : List (κ × α)) (p : κ × α → Bool) : keys (m.filter p) ⊆ keys m :=
  (List.filter_sublist.map _).subset

/-- They are apart. -/
theorem nodup_keys_filter (h : (keys m).Nodup) (p : κ × α → Bool) : (keys (m.filter p)).Nodup :=
  h.sublist (List.filter_sublist.map _)

/-! ## The operations -/

variable {p : κ × α}

section Lemmas

variable [DecidableEq κ]

/-- The entries after a removal. -/
@[simp] theorem mem_mapRemove : p ∈ mapRemove m k ↔ p ∈ m ∧ p.1 ≠ k := by
  simp [mapRemove]

/-- A removal adds no entry. -/
theorem mapRemove_subset (m : List (κ × α)) (k : κ) : mapRemove m k ⊆ m :=
  fun _ hp => (mem_mapRemove.mp hp).1

/-- The entries after an insertion. -/
@[simp] theorem mem_mapInsert : p ∈ mapInsert m k v ↔ p = (k, v) ∨ p ∈ m ∧ p.1 ≠ k := by
  simp [mapInsert]

/-- A key has a value. -/
theorem mapHas_iff : mapHas m k = true ↔ k ∈ keys m := by
  simp [mapHas, keys]

/-- The value of a key is an entry. -/
theorem mapGet_mem (h : mapGet m k = some v) : (k, v) ∈ m := by
  obtain ⟨⟨k', v'⟩, hfind, hv⟩ := Option.map_eq_some_iff.mp h
  grind

/-- A key has no value. -/
theorem mapGet_eq_none_iff : mapGet m k = none ↔ k ∉ keys m := by
  simp only [mapGet, Option.map_eq_none_iff, List.find?_eq_none, decide_eq_true_eq, mem_keys,
    not_exists]
  grind

/-- The first entry counts. -/
theorem mapGet_cons (p : κ × α) (m : List (κ × α)) (k : κ) :
    mapGet (p :: m) k = if p.1 = k then some p.2 else mapGet m k := by
  unfold mapGet
  by_cases h : p.1 = k <;> simp [h]

section

variable (m : List (κ × α))

/-- The values are mapped. -/
theorem mapGet_map {β : Type} (f : α → β) (k : κ) :
    mapGet (m.map fun p => (p.1, f p.2)) k = (mapGet m k).map f := by
  induction m with
  | nil => rfl
  | cons p m ih =>
    rw [List.map_cons, mapGet_cons, mapGet_cons, ih]
    by_cases hk : p.1 = k <;> simp [hk]

/-- The value after a removal. -/
theorem mapGet_mapRemove (k k' : κ) :
    mapGet (mapRemove m k) k' = if k' = k then none else mapGet m k' := by
  induction m with
  | nil => simp [mapGet, mapRemove]
  | cons p m ih =>
    rw [mapRemove] at ih
    by_cases hp : p.1 = k
    · rw [mapRemove, List.filter_cons_of_neg (by simpa using hp), ih, mapGet_cons]
      by_cases hk : k' = k
      · simp [hk]
      · rw [if_neg hk, if_neg hk, if_neg (fun h => hk (h.symm.trans hp))]
    · rw [mapRemove, List.filter_cons_of_pos (by simpa using hp), mapGet_cons, mapGet_cons, ih]
      by_cases hk : k' = k
      · rw [if_pos hk, if_pos hk, if_neg (fun h => hp (h.trans hk))]
      · rw [if_neg hk, if_neg hk]

/-- The value after an insertion. -/
theorem mapGet_mapInsert (k : κ) (v : α) (k' : κ) :
    mapGet (mapInsert m k v) k' = if k' = k then some v else mapGet m k' := by
  grind [mapInsert, mapGet_cons, mapGet_mapRemove]

end

/-- The keys after a removal. -/
theorem mem_keys_mapRemove {k' : κ} : k' ∈ keys (mapRemove m k) ↔ k' ∈ keys m ∧ k' ≠ k := by
  simp [mem_keys, exists_and_right]

/-- The keys after an insertion. -/
theorem mem_keys_mapInsert {k' : κ} : k' ∈ keys (mapInsert m k v) ↔ k' = k ∨ k' ∈ keys m := by
  have hcons : k' ∈ keys (mapInsert m k v) ↔ k' = k ∨ k' ∈ keys (mapRemove m k) := by
    simp [keys, mapInsert]
  rw [hcons, mem_keys_mapRemove]
  by_cases hk : k' = k <;> simp [hk]

/-! ## One entry for each key -/

section

variable (h : (keys m).Nodup)

include h

/-- A removal keeps the keys apart. -/
theorem nodup_keys_mapRemove (k : κ) : (keys (mapRemove m k)).Nodup :=
  h.sublist (List.filter_sublist.map _)

/-- An insertion keeps the keys apart. -/
theorem nodup_keys_mapInsert (k : κ) (v : α) : (keys (mapInsert m k v)).Nodup :=
  List.nodup_cons.mpr ⟨fun hk => (mem_keys_mapRemove.mp hk).2 rfl, nodup_keys_mapRemove h k⟩

/-- Values and entries of a map with distinct keys. -/
theorem mapGet_eq_some_iff : mapGet m k = some v ↔ (k, v) ∈ m := by
  induction m with
  | nil => simp [mapGet]
  | cons p m ih =>
    obtain ⟨hp, hm⟩ := List.nodup_cons.mp h
    rw [mapGet_cons, List.mem_cons]
    by_cases hk : p.1 = k
    · have hnot : (k, v) ∉ m := by
        rw [← hk]
        exact fun hmem => hp (mem_keys_of_mem hmem)
      rw [if_pos hk, Option.some.injEq]
      constructor
      · rintro rfl
        exact .inl (by rw [← hk])
      · rintro (rfl | hmem)
        · rfl
        · exact absurd hmem hnot
    · rw [if_neg hk, ih hm]
      constructor
      · exact .inr
      · rintro (rfl | hmem)
        · exact absurd rfl hk
        · exact hmem

/-- The values of a map, by its keys. -/
theorem filterMap_keys {β : Type} (f : α → β) :
    (keys m).filterMap (fun k => (mapGet m k).map f) = m.map fun p => f p.2 := by
  have hget : ∀ p ∈ m, mapGet m p.1 = some p.2 := fun p hp => (mapGet_eq_some_iff h).mpr hp
  rw [keys, List.filterMap_map, ← List.filterMap_eq_map']
  exact List.filterMap_congr fun p hp => by simp [hget p hp]

end

/-- An insertion keeps the map functional. -/
theorem Functional.mapInsert (hm : Functional m) (k : κ) (v : α) :
    Functional (mapInsert m k v) := by
  intro k₁ v₁ v₂ h₁ h₂
  rw [mem_mapInsert] at h₁ h₂
  rcases h₁ with h₁ | ⟨h₁, hne₁⟩ <;> rcases h₂ with h₂ | ⟨h₂, hne₂⟩
  · exact (Prod.mk.inj (h₁.trans h₂.symm)).2
  · exact absurd (Prod.mk.inj h₁).1 hne₂
  · exact absurd (Prod.mk.inj h₂).1 hne₁
  · exact hm k₁ v₁ v₂ h₁ h₂

/-- A new key for a new value keeps a map injective. -/
theorem Injective.mapInsert (hm : Injective m) (hv : ∀ k', (k', v) ∉ m) :
    Injective (mapInsert m k v) := by
  intro k₁ k₂ v₁ h₁ h₂
  rw [mem_mapInsert] at h₁ h₂
  rcases h₁ with h₁ | ⟨h₁, -⟩ <;> rcases h₂ with h₂ | ⟨h₂, -⟩
  · exact (Prod.mk.inj (h₁.trans h₂.symm)).1
  · obtain ⟨-, rfl⟩ := Prod.mk.inj h₁
    exact absurd h₂ (hv k₂)
  · obtain ⟨-, rfl⟩ := Prod.mk.inj h₂
    exact absurd h₁ (hv k₁)
  · exact hm k₁ k₂ v₁ h₁ h₂

variable {bindings : List (κ × α)}

/-- A batch of insertions adds only its own entries. -/
theorem mem_or_mem_of_mem_mapInsertAll (h : p ∈ mapInsertAll m bindings) :
    p ∈ bindings ∨ p ∈ m := by
  induction bindings generalizing m with
  | nil => exact .inr h
  | cons binding bindings ih =>
    rcases ih h with hrest | hm
    · exact .inl (List.mem_cons_of_mem _ hrest)
    · rcases mem_mapInsert.mp hm with rfl | ⟨hm, -⟩
      · exact .inl List.mem_cons_self
      · exact .inr hm

/-- A batch of insertions leaves the other keys alone. -/
theorem mapGet_mapInsertAll_of_not_mem (hk : k ∉ keys bindings) :
    mapGet (mapInsertAll m bindings) k = mapGet m k := by
  unfold mapInsertAll
  induction bindings generalizing m with
  | nil => rfl
  | cons binding bindings ih =>
    have hne : k ≠ binding.1 := fun heq => hk (heq ▸ List.mem_cons_self)
    rw [List.foldl_cons, ih fun hmem => hk (List.mem_cons_of_mem _ hmem), mapGet_mapInsert,
      if_neg hne]

/-- The entries after a batch of insertions with one value for each key. -/
theorem mem_mapInsertAll (hb : Functional bindings) : (k, v) ∈ mapInsertAll m bindings ↔
      (k, v) ∈ bindings ∨ (k, v) ∈ m ∧ k ∉ keys bindings := by
  unfold mapInsertAll
  induction bindings generalizing m with
  | nil => simp [keys]
  | cons binding bindings ih =>
    obtain ⟨k₀, v₀⟩ := binding
    have hrest : Functional bindings := hb.mono (List.subset_cons_self _ _)
    rw [List.foldl_cons, ih hrest, mem_mapInsert]
    constructor
    · rintro (h | ⟨h | ⟨h, hne⟩, hnot⟩)
      · exact .inl (List.mem_cons_of_mem _ h)
      · exact .inl (h ▸ List.mem_cons_self)
      · refine .inr ⟨h, ?_⟩
        rintro hmem
        rcases List.mem_cons.mp hmem with heq | hmem
        · exact hne heq
        · exact hnot hmem
    · rintro (h | ⟨h, hnot⟩)
      · rcases List.mem_cons.mp h with heq | h
        · by_cases hk : k ∈ keys bindings
          · obtain ⟨v', hv'⟩ := mem_keys.mp hk
            -- the later binding of the same key has the same value
            have hsame : v = v' := hb k v v' (heq ▸ List.mem_cons_self) (List.mem_cons_of_mem _ hv')
            exact .inl (hsame ▸ hv')
          · exact .inr ⟨.inl heq, hk⟩
        · exact .inl h
      · have hne : k ≠ k₀ := fun heq => hnot (heq ▸ List.mem_cons_self)
        exact .inr ⟨.inr ⟨h, hne⟩, fun hmem => hnot (List.mem_cons_of_mem _ hmem)⟩

/-- Insertions for known keys add no key. -/
theorem keys_mapInsertAll (hknown : ∀ p ∈ bindings, p.1 ∈ keys m) :
    keys (mapInsertAll m bindings) ⊆ keys m := by
  intro k hk
  obtain ⟨v, hv⟩ := mem_keys.mp hk
  rcases mem_or_mem_of_mem_mapInsertAll hv with hnew | hold
  · exact hknown _ hnew
  · exact mem_keys_of_mem hold

/-- An insertion removes no key. -/
theorem keys_subset_mapInsert (m : List (κ × α)) (k : κ) (v : α) : keys m ⊆ keys (mapInsert m k v) :=
  fun _ h => mem_keys_mapInsert.mpr (.inr h)

/-- Insertions remove no key. -/
theorem keys_subset_mapInsertAll (bindings : List (κ × α)) :
    ∀ m : List (κ × α), keys m ⊆ keys (mapInsertAll m bindings) := by
  induction bindings with
  | nil => exact fun m => List.Subset.refl _
  | cons binding bindings ih =>
    exact fun m => List.Subset.trans (keys_subset_mapInsert m binding.1 binding.2) (ih _)

/-- Insertions keep the keys apart. -/
theorem nodup_keys_mapInsertAll (bindings : List (κ × α)) :
    ∀ {m : List (κ × α)}, (keys m).Nodup → (keys (mapInsertAll m bindings)).Nodup := by
  induction bindings with
  | nil => exact fun h => h
  | cons binding bindings ih => exact fun h => ih (nodup_keys_mapInsert h binding.1 binding.2)

end Lemmas

end Pkcs11rs.Library
