import Pkcs11rs.Model.ObjectTemplates
import Pkcs11rs.Analysis.BackedKeyMetadata

/-!
# Policy templates

A key carries templates for the keys that are unwrapped or derived with it, which are stored in CBOR.
The template of a caller is read (`read_semantic_template`), merged with that of the key
(`merge_policy_template`) and laid out in memory again (`OwnedPolicyTemplate`) for the next reader.
`layout_read_back` says that a stored template is read back from its layout, and
`mergePolicyTemplate_exact` that a merge is the union of the two templates and when it fails.
-/

set_option autoImplicit false

namespace Pkcs11rs.Analysis

open Pkcs11rs.Library Pkcs11rs.Model AttributeMap KeyAttributes

variable {a : AttributeType} {v : KeyAttributeValue} {rest : AttributeMap} {x y : KeyAttributes}

/-! ## Reading back -/

/-- A plain value is read back. -/
theorem readPolicyValue_plain {value : Bytes} (h : value.length < 2 ^ 63) :
    readPolicyValue (.plain a value) = .ok value := by
  have hnat : (UInt64.ofNat value.length).toNat = value.length :=
    UInt64.toNat_ofNat_of_lt' (h.trans (by decide))
  unfold readPolicyValue
  simp only [CkAttribute.plain, CkAttribute.length, CkAttribute.memory, hnat]
  split_ifs with hzero hlong
  · have hempty : value.length = 0 := by rw [← hnat, hzero]; rfl
    rw [List.length_eq_zero_iff.mp hempty]
  · simp at hlong
    omega
  · simp

/-- The length of a list of numbers. -/
theorem length_flatMap_ulongAttribute (values : List Ulong) :
    (values.flatMap ulongAttribute).length = 8 * values.length := by
  simp [List.length_flatMap, Nat.mul_comm]

/-- A list of numbers is read back. -/
theorem ulongChunks_flatMap (values : List Ulong) :
    ulongChunks values.length (values.flatMap ulongAttribute) = values := by
  induction values with
  | nil => rfl
  | cons value values ih => simp [ulongChunks, ih]

/-- An ascending list. -/
theorem isChain_of_ascending : ∀ {values : List Ulong}, strictlyAscending values = true →
    values.IsChain (· < ·)
  | [], _ => .nil
  | [a], _ => .singleton a
  | a :: b :: rest, h => by
      simp only [strictlyAscending, Bool.and_eq_true, decide_eq_true_eq] at h
      exact .cons_cons h.1 (isChain_of_ascending h.2)

/-- A list in ascending order is left as it is by the sort, and has nothing twice. -/
theorem readMechanismList_flatMap {values : List Ulong} (h : strictlyAscending values = true) :
    readMechanismList (values.flatMap ulongAttribute) = .ok values := by
  have hpairwise := List.isChain_iff_pairwise.mp (isChain_of_ascending h)
  have hnodup : values.Nodup := hpairwise.imp fun hlt => (ne_of_lt_uint64 hlt).symm
  have hsort : values.mergeSort = values :=
    List.mergeSort_of_pairwise (hpairwise.imp fun hlt => decide_eq_true (UInt64.le_of_lt hlt))
  rw [readMechanismList, length_flatMap_ulongAttribute, Nat.mul_div_cancel_left _ (by decide),
    ulongChunks_flatMap, hsort]
  simp [hnodup]

/-- Every attribute is laid out. -/
theorem length_ownedAttributes : ∀ m : AttributeMap, (ownedAttributes m).length = m.len
  | .nil => rfl
  | .cons _ _ rest => congrArg (· + 1) (length_ownedAttributes rest)

/-- A nested template is read back. -/
theorem readPolicyTemplate_ownedAttribute {levels : ℕ} (h : rest.len ≤ maxAttributes) :
    readPolicyTemplate (levels + 1) (ownedAttribute a (.template rest)) =
      readSemanticEntries (readPolicyTemplate levels) (ownedAttributes rest) new := by
  unfold maxAttributes at h
  have hnat : (UInt64.ofNat (rest.len * ckAttributeSize)).toNat = rest.len * ckAttributeSize :=
    UInt64.toNat_ofNat_of_lt' (show rest.len * 24 < 2 ^ 64 by omega)
  have hcount : rest.len * ckAttributeSize / ckAttributeSize = rest.len :=
    Nat.mul_div_cancel _ (by decide)
  have htake : (ownedAttributes rest).take rest.len = ownedAttributes rest :=
    List.take_of_length_le (length_ownedAttributes rest).le
  simp only [ownedAttribute, readPolicyTemplate, CkAttribute.length, CkAttribute.memory,
    CkAttribute.items, hnat, hcount, htake]
  simp [h]

/-- What the check of a type says. -/
theorem validateAttributeType_ok (h : validateAttributeType a v = .ok ()) :
    attributeKind a = .ok v.kind ∧
      ∀ values, v = .mechanisms values → strictlyAscending values = true := by
  obtain ⟨kind, hkind, h⟩ := bind_eq_ok.mp h
  obtain ⟨hne, h⟩ := guard_eq_ok.mp h
  rw [not_not] at hne
  refine ⟨hne ▸ hkind, ?_⟩
  rintro values rfl
  simpa using (not_or.mp (guard_eq_ok.mp h).1).2

section Layout

variable [CborCodec]

mutual

/-- A value is read back from its layout. -/
theorem readSemanticValue_ownedAttribute : ∀ (v : KeyAttributeValue) (hv : v.isSorted = true)
    (levels : ℕ) {a : AttributeType} {bytes : Bytes}, encodeAttributeValue v = .ok bytes →
    bytes.length < 2 ^ 63 → valueDepth v ≤ levels → validateAttributeType a v = .ok () →
    readSemanticValue (readPolicyTemplate levels) (ownedAttribute a v) v.kind = .ok ⟨v, hv⟩
  | .boolean value, _, _, _, _, _, _, _, _ => by cases value <;> rfl
  | .unsigned value, _, _, a, _, _, _, _, _ => by
      have hread : readPolicyUlong (.plain a (ulongAttribute value)) = .ok value := by
        refine guard_eq_ok.mpr ⟨by simp [CkAttribute.plain, CkAttribute.length], ?_⟩
        exact bind_eq_ok.mpr ⟨_, readPolicyValue_plain (by simp), by simp⟩
      exact bind_eq_ok.mpr ⟨value, hread, rfl⟩
  | .bytes value, _, _, _, _, hencode, hlen, _, _ => by
      cases hencode
      have hvalue := (length_le_cborBytes value).trans_lt hlen
      exact bind_eq_ok.mpr ⟨value, readPolicyValue_plain hvalue, rfl⟩
  | .text value, _, _, _, _, hencode, hlen, _, _ => by
      cases hencode
      have hvalue := (length_le_cborText value).trans_lt hlen
      refine bind_eq_ok.mpr ⟨utf8 value, readPolicyValue_plain hvalue, ?_⟩
      exact bind_eq_ok.mpr ⟨value, by simp [readText], rfl⟩
  | .mechanisms values, _, _, _, _, _, _, _, hvalid => by
      have hbound : values.length ≤ maxAttributes := validateAttributeType_bounded hvalid
      have hascending := (validateAttributeType_ok hvalid).2 values rfl
      unfold maxAttributes at hbound
      refine bind_eq_ok.mpr ⟨values.flatMap ulongAttribute, readPolicyValue_plain ?_, ?_⟩
      · rw [length_flatMap_ulongAttribute]
        omega
      · exact bind_eq_ok.mpr ⟨values, readMechanismList_flatMap hascending, rfl⟩
  | .template attributes, hsorted, levels, a, _, hencode, hlen, hdepth, _ => by
      obtain ⟨_, hvalid, hencode⟩ := bind_eq_ok.mp hencode
      obtain ⟨entries, hentries, hencode⟩ := bind_eq_ok.mp hencode
      cases hencode
      obtain ⟨hcount, hvalid⟩ := validateTemplateAttributes_ok hvalid
      cases levels with
      | zero => exact absurd hdepth (Nat.not_succ_le_zero _)
      | succ levels =>
        rw [List.length_append] at hlen
        obtain ⟨result, hread, hresult⟩ := readSemanticEntries_ownedAttributes attributes hsorted
          levels new hentries (by omega) (Nat.le_of_succ_le_succ hdepth) hvalid
          (joins_nil attributes) (by simpa [new, len] using hcount)
        cases result
        cases hresult
        exact bind_eq_ok.mpr ⟨_, (readPolicyTemplate_ownedAttribute hcount).trans hread, rfl⟩

/-- The entries of a map are read behind those read before. -/
theorem readSemanticEntries_ownedAttributes : ∀ (m : AttributeMap), m.isSorted = true →
    ∀ (levels : ℕ) (acc : KeyAttributes) {bytes : Bytes}, encodeEntries m = .ok bytes →
    bytes.length < 2 ^ 63 → mapDepth m ≤ levels → AllValid validateTemplateAttribute m →
    Joins acc.attributes m → acc.attributes.len + m.len ≤ maxAttributes →
    ∃ result, readSemanticEntries (readPolicyTemplate levels) (ownedAttributes m) acc = .ok result ∧
      result.attributes = appendMap acc.attributes m
  | .nil, _, _, acc, _, _, _, _, _, _, _ => ⟨acc, rfl, (appendMap_nil acc.attributes).symm⟩
  | .cons a v rest, hsorted, levels, acc, bytes, hencode, hlen, hdepth, hvalid, hjoins, hroom => by
      simp only [isSorted, Bool.and_eq_true] at hsorted
      obtain ⟨⟨hv, habove⟩, hrest⟩ := hsorted
      obtain ⟨value, hvalue, hencode⟩ := bind_eq_ok.mp hencode
      obtain ⟨entries, hentries, hencode⟩ := bind_eq_ok.mp hencode
      cases hencode
      simp only [List.length_append] at hlen
      simp only [mapDepth] at hdepth
      simp only [len] at hroom
      obtain ⟨_, htype, -⟩ := bind_eq_ok.mp hvalid.1
      have hread := readSemanticValue_ownedAttribute v hv levels hvalue (by omega) (by omega) htype
      obtain ⟨inserted, hinsert, happend⟩ :=
        insertChecked_of_endsBelow (v := ⟨v, hv⟩) hjoins (by omega) hvalid.1
      have hjoins' : Joins inserted.attributes rest := happend ▸ joins_append hjoins habove
      obtain ⟨result, hloop, hresult⟩ := readSemanticEntries_ownedAttributes rest hrest levels inserted
        hentries (by omega) (by omega) hvalid.2 hjoins' (by rw [happend, len_appendMap]; omega)
      refine ⟨result, ?_, by rw [hresult, happend, appendMap_assoc]⟩
      have hnumber : (ownedAttribute a v).type = a := by cases v <;> rfl
      rw [ownedAttributes, readSemanticEntries, hnumber, (validateAttributeType_ok htype).1]
      refine bind_eq_ok.mpr ⟨_, rfl, bind_eq_ok.mpr ⟨_, hread, ?_⟩⟩
      exact bind_eq_ok.mpr ⟨_, mapError_eq_ok_iff.mpr hinsert, hloop⟩

end

/-- **Layouts are read back.**  A template that is stored, with templates no deeper than the reader
goes, is read back from its layout in memory. -/
theorem layout_read_back {template : KeyAttributes} {encoded : Bytes}
    (hencode : template.templateToCbor = .ok encoded) (hlen : encoded.length < 2 ^ 63)
    (hdepth : mapDepth template.attributes ≤ 3) :
    readSemanticTemplate (ownedAttributes template.attributes) = .ok template := by
  obtain ⟨_, hvalid, -⟩ := bind_eq_ok.mp hencode
  -- as the value of an attribute, one level up
  have hread := readSemanticValue_ownedAttribute (.template template.attributes) template.sorted 4
    (a := Cka.wrapTemplate) hencode hlen (Nat.succ_le_succ hdepth) rfl
  obtain ⟨result, hresult, hvalue⟩ := bind_eq_ok.mp hread
  rw [readPolicyTemplate_ownedAttribute (validateTemplateAttributes_ok hvalid).1] at hresult
  cases result
  cases hvalue
  exact hresult

end Layout

/-- A template in a template in a template. -/
theorem layout_read_back_nested :
    readSemanticTemplate (ownedAttributes (nestedAttributes 2).attributes) = .ok (nestedAttributes 2) :=
  layout_read_back rfl (by decide) (by decide)

/-! ## Merging -/

/-- The values after a put. -/
theorem get_put (a b : AttributeType) (v : KeyAttributeValue) :
    ∀ m : AttributeMap, (m.put a v).get b = if b = a then some v else m.get b
  | .nil => rfl
  | .cons c w rest => by
      have ih := get_put a b v rest
      unfold put
      split_ifs with hlt heq <;> grind [AttributeMap.get]

/-- The first number of a map is not in the rest of it. -/
theorem get_rest (hm : (cons a v rest).isSorted = true) : rest.get a = none := by
  cases rest with
  | nil => rfl
  | cons b w rest =>
    simp only [isSorted, Bool.and_eq_true, startsAbove_cons, decide_eq_true_eq] at hm
    rw [AttributeMap.get, if_neg (ne_of_lt_uint64 hm.1.2).symm]
    exact get_eq_none_of_startsAbove hm.2.2 hm.1.2 hm.2.1.2

/-- The two templates have no attribute with two values. -/
def Agree (x : KeyAttributes) (m : AttributeMap) : Prop :=
  ∀ b v w, x.get b = some v → m.get b = some w → v = w

/-- The first entry of the second map is moved into the first one. -/
theorem agree_cons (hrest : rest.get a = none) (hx : x.get a = none ∨ x.get a = some v)
    (hy : ∀ b, y.get b = if b = a then some v else x.get b) :
    (Agree x (cons a v rest) ↔ Agree y rest) ∧
      ∀ b, (y.get b).or (rest.get b) = (x.get b).or ((cons a v rest).get b) := by
  refine ⟨by grind [Agree, AttributeMap.get], fun b => ?_⟩
  rw [hy b, AttributeMap.get]
  split_ifs with hb
  · subst hb
    rcases hx with hx | hx <;> simp [hx]
  · rfl

/-- The outcome of the loop over the entries of the policy. -/
def Merges (x : KeyAttributes) (m : AttributeMap) (outcome : Except Rv KeyAttributes) : Prop :=
  (Agree x m ∧ ∃ merged, outcome = .ok merged ∧ ∀ b, merged.get b = (x.get b).or (m.get b)) ∨
    ¬ Agree x m ∧ outcome = .error .templateInconsistent

/-- The entries are merged one by one. -/
theorem mergeEntries_merges : ∀ {m : AttributeMap} (hm : m.isSorted = true) {x : KeyAttributes},
    AllValid validateTemplateAttribute m → x.attributes.len + m.len ≤ maxAttributes →
    Merges x m (mergeEntries (m.entries hm) x)
  | .nil, _, x, _, _ => .inl ⟨nofun, x, rfl, fun b => (Option.or_none).symm⟩
  | .cons a v rest, hm, x, hvalid, hroom => by
      have hnone := get_rest hm
      have hsorted : v.isSorted = true ∧ rest.isSorted = true := by
        simp only [isSorted, Bool.and_eq_true] at hm
        exact ⟨hm.1.1, hm.2⟩
      rw [len] at hroom
      rw [AttributeMap.entries, mergeEntries]
      cases hget : x.get a with
      | some w =>
        by_cases hne : w = v
        · subst hne
          obtain ⟨hagree, hor⟩ := agree_cons hnone (.inr hget) (y := x) (by grind)
          have ih := mergeEntries_merges hsorted.2 hvalid.2 (by omega : x.attributes.len + _ ≤ _)
          simpa [Merges, hagree, hor] using ih
        · exact .inr ⟨fun h => hne (h a w v hget (if_pos rfl)), by simp [hne]⟩
      | none =>
        let inserted : KeyAttributes := ⟨x.attributes.put a v, isSorted_put hsorted.1 x.sorted⟩
        have hinsert : x.insertTemplate a ⟨v, hsorted.1⟩ = .ok (none, inserted) := by
          refine guard_eq_ok.mpr ⟨by omega, ?_⟩
          exact bind_eq_ok.mpr ⟨(), hvalid.1, by rw [hget]⟩
        obtain ⟨hagree, hor⟩ := agree_cons hnone (.inl hget) (y := inserted)
          fun b => get_put a b v x.attributes
        have hlen : inserted.attributes.len ≤ x.attributes.len + 1 := len_put_le x.attributes
        have ih := mergeEntries_merges hsorted.2 (x := inserted) hvalid.2 (by omega)
        simp only [Merges, hor] at ih
        rw [Merges, hagree, hinsert]
        exact ih

/-- **Merges are exact.**  Where the caller's template and the policy of the key are together within the
limit, the merge is their union, laid out for the next reader, and it fails exactly if they have two
values for an attribute. -/
theorem mergePolicyTemplate_exact (caller : List CkAttribute) (supplied policy : KeyAttributes)
    (hread : readSemanticTemplate caller = .ok supplied)
    (hpolicy : validateTemplateAttributes policy.attributes = .ok ())
    (hroom : supplied.attributes.len + policy.attributes.len ≤ maxAttributes) :
    ((∀ a v w, supplied.get a = some v → policy.get a = some w → v = w) ∧
      ∃ merged : KeyAttributes,
        mergePolicyTemplate caller (some policy) = .ok (ownedAttributes merged.attributes) ∧
        ∀ a, merged.get a = (supplied.get a).or (policy.get a)) ∨
    (∃ a v w, supplied.get a = some v ∧ policy.get a = some w ∧ v ≠ w) ∧
      mergePolicyTemplate caller (some policy) = .error .templateInconsistent := by
  have hvalid := (validateTemplateAttributes_ok hpolicy).2
  rcases mergeEntries_merges policy.sorted hvalid hroom with
    ⟨hagree, merged, hmerged, hunion⟩ | ⟨hagree, herror⟩
  · exact .inl ⟨hagree, merged, bind_eq_ok.mpr ⟨_, hread, bind_eq_ok.mpr ⟨_, hmerged, rfl⟩⟩, hunion⟩
  · refine .inr ⟨?_, bind_eq_error.mpr (.inr ⟨_, hread, bind_eq_error.mpr (.inl herror)⟩)⟩
    simpa [Agree, KeyAttributes.get] using hagree

/-- A caller who asks for a sensitive key that cannot be extracted. -/
def sensitiveCaller : List CkAttribute := [.plain Cka.sensitive [1], .plain Cka.extractable [0]]

/-- What is read from that template. -/
def sensitiveAttributes : KeyAttributes :=
  ⟨.cons Cka.sensitive (.boolean true) (.cons Cka.extractable (.boolean false) .nil), rfl⟩

/-- A policy for `CKA_SENSITIVE` and `CKA_ENCRYPT`. -/
def encryptionPolicy (sensitive : Bool) : KeyAttributes :=
  ⟨.cons Cka.sensitive (.boolean sensitive) (.cons Cka.encrypt (.boolean true) .nil), rfl⟩

/-- A policy that agrees on one attribute adds its other one; one that does not agree is refused. -/
theorem mergePolicyTemplate_exact_sensitive :
    (∃ merged : KeyAttributes,
      mergePolicyTemplate sensitiveCaller (some (encryptionPolicy true)) =
        .ok (ownedAttributes merged.attributes) ∧
      merged.get Cka.sensitive = some (.boolean true) ∧
      merged.get Cka.extractable = some (.boolean false) ∧
      merged.get Cka.encrypt = some (.boolean true)) ∧
    mergePolicyTemplate sensitiveCaller (some (encryptionPolicy false)) =
      .error .templateInconsistent := by
  constructor
  · rcases mergePolicyTemplate_exact sensitiveCaller sensitiveAttributes (encryptionPolicy true) rfl rfl
      (by decide) with ⟨-, merged, hmerged, hunion⟩ | ⟨-, herror⟩
    · exact ⟨merged, hmerged, hunion Cka.sensitive, hunion Cka.extractable, hunion Cka.encrypt⟩
    · cases herror
  · rcases mergePolicyTemplate_exact sensitiveCaller sensitiveAttributes (encryptionPolicy false) rfl rfl
      (by decide) with ⟨hagree, -⟩ | ⟨-, herror⟩
    · cases hagree Cka.sensitive _ _ rfl rfl
    · exact herror

end Pkcs11rs.Analysis
