import Mathlib.Tactic.SplitIfs
import Pkcs11rs.Model.ObjectTemplates

/-!
# What attribute changes can do to an object

`C_SetAttributeValue` and `C_CopyObject` try every attribute of their template on the object so
far.  `setAttributeValue_changes` says which fields one attribute can change and how, and
`attributesApplied_induction` carries a property of the object through the loop; over runs of calls
protection is one-way (`protection_is_one_way`).
-/

set_option autoImplicit false

namespace Pkcs11rs.Analysis

open Pkcs11rs.Library Pkcs11rs.Model TokenObject

variable {object updated : TokenObject} {attr : CkAttribute} {templ : List CkAttribute}

/-- What an attribute change keeps: everything but the label, the identifier, the content of a data
object and the two flags, of which `CKA_SENSITIVE` is never cleared and `CKA_EXTRACTABLE` never
set. -/
structure AttributeChange (object updated : TokenObject) : Prop where
  fields : ∃ label id sensitive extractable material, updated =
    { object with
      label := label
      id := id
      sensitive := sensitive
      extractable := extractable
      material := material }
  sensitive : object.sensitive = true → updated.sensitive = true
  extractable : object.extractable = false → updated.extractable = false
  material : updated.material = object.material ∨
    ∃ inst application objectId value application' objectId' value',
      object.material = .data inst application objectId value ∧
        updated.material = .data inst application' objectId' value'

namespace AttributeChange

/-- Nothing changes. -/
theorem refl (object : TokenObject) : AttributeChange object object :=
  ⟨⟨object.label, object.id, object.sensitive, object.extractable, object.material, rfl⟩, id, id, .inl rfl⟩

/-- Changes compose. -/
theorem trans {a b c : TokenObject} (h : AttributeChange a b) (h' : AttributeChange b c) :
    AttributeChange a c where
  fields := by
    obtain ⟨_, _, _, _, _, hb⟩ := h.fields
    obtain ⟨label, id, sensitive, extractable, material, hc⟩ := h'.fields
    exact ⟨label, id, sensitive, extractable, material, by rw [hc, hb]⟩
  sensitive := fun hs => h'.sensitive (h.sensitive hs)
  extractable := fun hs => h'.extractable (h.extractable hs)
  material := by
    rcases h.material with hb | ⟨inst, a₁, i₁, v₁, a₂, i₂, v₂, ha, hb⟩
    · rcases h'.material with hc | ⟨inst, a₁, i₁, v₁, a₂, i₂, v₂, hb', hc⟩
      · exact .inl (hc.trans hb)
      · exact .inr ⟨inst, a₁, i₁, v₁, a₂, i₂, v₂, hb ▸ hb', hc⟩
    · rcases h'.material with hc | ⟨inst', a₃, i₃, v₃, a₄, i₄, v₄, hb', hc⟩
      · exact .inr ⟨inst, a₁, i₁, v₁, a₂, i₂, v₂, ha, hc.trans hb⟩
      · have hinst : inst = inst' := by
          rw [hb] at hb'
          cases hb'
          rfl
        exact .inr ⟨inst, a₁, i₁, v₁, a₄, i₄, v₄, ha, hinst ▸ hc⟩

end AttributeChange

/-- The attributes of data objects. -/
theorem setDataAttribute_changes {type : AttributeType} {value : Bytes}
    (h : object.setDataAttribute type value = some (.ok updated)) :
    AttributeChange object updated := by
  unfold setDataAttribute at h
  split at h
  · rename_i inst application objectId data hmaterial
    split_ifs at h <;> cases h
    all_goals
      exact ⟨⟨_, _, _, _, _, rfl⟩, id, id, .inr ⟨inst, _, _, _, _, _, _, hmaterial, rfl⟩⟩
  · cases h

/-- `CKA_SENSITIVE` is set. -/
theorem setSensitive_changes (h : object.setSensitive attr = .ok updated) :
    AttributeChange object updated := by
  unfold setSensitive at h
  split_ifs at h
  obtain ⟨requested, -, h⟩ := bind_eq_ok.mp h
  split_ifs at h with hcleared
  cases h
  refine ⟨⟨_, _, _, _, _, rfl⟩, ?_, id, .inl rfl⟩
  intro hs
  by_contra hnot
  exact hcleared ⟨hs, by simpa using hnot⟩

/-- `CKA_EXTRACTABLE` is cleared. -/
theorem setExtractable_changes (h : object.setExtractable attr = .ok updated) :
    AttributeChange object updated := by
  unfold setExtractable at h
  split_ifs at h
  obtain ⟨requested, -, h⟩ := bind_eq_ok.mp h
  split_ifs at h with _ hset
  cases h
  refine ⟨⟨_, _, _, _, _, rfl⟩, id, ?_, .inl rfl⟩
  intro he
  by_contra hnot
  exact hset ⟨he, by simpa using hnot⟩

/-- `set_attribute_value`. -/
theorem setAttributeValue_changes (h : object.setAttributeValue attr = .ok updated) :
    AttributeChange object updated := by
  obtain ⟨value, -, h⟩ := bind_eq_ok.mp h
  cases hdata : object.setDataAttribute attr.type value with
  | some result =>
    rw [hdata] at h
    exact setDataAttribute_changes (hdata.trans (congrArg some h))
  | none =>
    rw [hdata] at h
    split_ifs at h
    · obtain ⟨label, -, h⟩ := bind_eq_ok.mp h
      cases h
      exact ⟨⟨_, _, _, _, _, rfl⟩, id, id, .inl rfl⟩
    · cases h
      exact ⟨⟨_, _, _, _, _, rfl⟩, id, id, .inl rfl⟩
    · exact setSensitive_changes h
    · exact setExtractable_changes h

/-! ## The loop over the template -/

/-- A property that every successful attribute keeps holds of the object after the loop. -/
theorem attributesApplied_induction {set : TokenObject → CkAttribute → Except Rv TokenObject}
    (P : TokenObject → Prop)
    (hset : ∀ object attr updated, P object → set object attr = .ok updated → P updated)
    (hobject : P object) (h : attributesApplied set templ object = .ok updated) : P updated := by
  have hloop : ∀ templ object rv, P object → P (applyAttributes set templ object rv).1 := by
    intro templ
    induction templ with
    | nil => exact fun object rv hobject => hobject
    | cons attr templ ih =>
      intro object rv hobject
      unfold applyAttributes
      cases hattr : set object attr with
      | ok next => exact ih next rv (hset object attr next hobject hattr)
      | error error => exact ih object _ hobject
  grind [attributesApplied]

/-- The change that the loop of `C_SetAttributeValue` makes. -/
theorem attributesApplied_changes
    (h : attributesApplied setAttributeValue templ object = .ok updated) :
    AttributeChange object updated :=
  attributesApplied_induction (AttributeChange object)
    (fun _ _ _ hchange hset => hchange.trans (setAttributeValue_changes hset))
    (AttributeChange.refl object) h

/-! ## Runs of changes and copies -/

/-- The template of one `C_SetAttributeValue`, or of one `C_CopyObject`. -/
def changeBy (object : TokenObject) (call : Bool × List CkAttribute) : Except Rv TokenObject :=
  attributesApplied (if call.1 then setCopyAttributeValue else setAttributeValue) call.2 object

/-- A change of a copy: the copy may be stored elsewhere, and its privacy may differ. -/
def CopyChange (object updated : TokenObject) : Prop :=
  AttributeChange { object with token := updated.token, isPrivate := updated.isPrivate } updated

variable {next : TokenObject}

/-- An attribute of the copy is set. -/
theorem CopyChange.set (h : CopyChange object next) (hset : next.setAttributeValue attr = .ok updated) :
    CopyChange object updated := by
  have hchange := setAttributeValue_changes hset
  obtain ⟨_, _, _, _, _, hfields⟩ := hchange.fields
  have hsame : updated.token = next.token ∧ updated.isPrivate = next.isPrivate := by simp [hfields]
  rw [CopyChange, hsame.1, hsame.2]
  exact AttributeChange.trans h hchange

/-- The copy is stored elsewhere. -/
theorem CopyChange.store (h : CopyChange object next) (token isPrivate : Bool) :
    CopyChange object { next with token := token, isPrivate := isPrivate } := by
  obtain ⟨⟨_, _, _, _, _, hnext⟩, hs, he, hm⟩ := h
  exact ⟨⟨_, _, _, _, _, by rw [hnext]⟩, hs, he, hm⟩

/-- An attribute is set while copying. -/
theorem CopyChange.copy (h : CopyChange object next)
    (hset : next.setCopyAttributeValue attr = .ok updated) : CopyChange object updated := by
  unfold setCopyAttributeValue at hset
  split_ifs at hset
  · obtain ⟨value, -, hset⟩ := bind_eq_ok.mp hset
    cases hset
    exact h.store value next.isPrivate
  · obtain ⟨value, -, hset⟩ := bind_eq_ok.mp hset
    cases hset
    exact h.store next.token value
  · exact h.set hset

/-- A whole template is applied. -/
theorem CopyChange.call (h : CopyChange object next) :
    ∀ {call : Bool × List CkAttribute}, changeBy next call = .ok updated → CopyChange object updated
  | (true, _), hcall => attributesApplied_induction _ (fun _ _ _ h hset => h.copy hset) h hcall
  | (false, _), hcall => attributesApplied_induction _ (fun _ _ _ h hset => h.set hset) h hcall

/-- **Protection is one-way.**  Over every run of changes and copies `CKA_SENSITIVE` is not cleared,
`CKA_EXTRACTABLE` is not set, and only labels, identifiers, storage, privacy and data contents change. -/
theorem protection_is_one_way (object updated : TokenObject) (calls : List (Bool × List CkAttribute))
    (hcalls : calls.foldlM changeBy object = .ok updated) :
    AttributeChange { object with token := updated.token, isPrivate := updated.isPrivate } updated := by
  have hrun : ∀ calls next, CopyChange object next → List.foldlM changeBy next calls = .ok updated →
      CopyChange object updated := by
    intro calls
    induction calls with
    | nil =>
      rintro next h ⟨⟩
      exact h
    | cons call calls ih =>
      intro next h hcalls
      obtain ⟨applied, hcall, hcalls⟩ := bind_eq_ok.mp hcalls
      exact ih applied (h.call hcall) hcalls
  exact hrun calls object (AttributeChange.refl object) hcalls

/-- A session key is copied to the token, and the copy is made sensitive. -/
theorem protection_is_one_way_copied :
    AttributeChange { class_ := Cko.secretKey, keyType := Ckk.aes, token := true }
      { class_ := Cko.secretKey, keyType := Ckk.aes, token := true, sensitive := true } :=
  protection_is_one_way { class_ := Cko.secretKey, keyType := Ckk.aes }
    { class_ := Cko.secretKey, keyType := Ckk.aes, token := true, sensitive := true }
    [(true, [.plain Cka.token [1]]), (false, [.plain Cka.sensitive [1]])] rfl

end Pkcs11rs.Analysis
