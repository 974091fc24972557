import Pkcs11rs.Analysis.KeyMetadataCodec
import Pkcs11rs.Library.CborItems
import Pkcs11rs.Model.BackedKeyMetadata

/-!
# The encoding of backed key metadata

Everything that `insert`, `insert_template`, `remove` and `insert_aspect` build passes the checks
of the encoder, so `to_cbor` writes every record that has an aspect and `template_to_cbor` every
template.  The decoders take the encoding back exactly if no template is nested deeper than
`MAX_TEMPLATE_DEPTH`, a limit that nothing on the way to the encoder looks at
(`keyMetadata_codec`).
-/

set_option autoImplicit false

namespace Pkcs11rs.Analysis

open Pkcs11rs.Library Pkcs11rs.Model AttributeMap Aspects KeyBacking Reads BackedKeyMetadata Reader List

variable {skip : CborSkip} {metadata : BackedKeyMetadata} {bytes : Bytes}
  {attributes : KeyAttributes} {type : AttributeType} {encoded : Bytes}

/-! ## What the operations build -/

/-- The attribute maps that the operations of `KeyAttributes` build. -/
inductive AttributesBuilt : KeyAttributes → Prop
  | new : AttributesBuilt KeyAttributes.new
  | insert {attributes inserted : KeyAttributes} {type : AttributeType} {value : SemanticValue}
      {previous : Option KeyAttributeValue} (built : AttributesBuilt attributes)
      (h : attributes.insert type value = .ok (previous, inserted)) : AttributesBuilt inserted
  | insertTemplate {attributes inserted : KeyAttributes} {type : AttributeType}
      {value : SemanticValue} {previous : Option KeyAttributeValue}
      (built : AttributesBuilt attributes)
      (h : attributes.insertTemplate type value = .ok (previous, inserted)) :
      AttributesBuilt inserted
  | remove {attributes : KeyAttributes} (type : AttributeType) (built : AttributesBuilt attributes) :
      AttributesBuilt (attributes.remove type)

/-- The records that the operations of `BackedKeyMetadata` build. -/
inductive MetadataBuilt (skip : CborSkip) : BackedKeyMetadata → Prop
  | new {provider : String} {data : Bytes} {backing : KeyBacking}
      (h : KeyBacking.new skip provider data = .ok backing) :
      MetadataBuilt skip (BackedKeyMetadata.new backing)
  | insertAspect {metadata inserted : BackedKeyMetadata} {cls : ObjectClass}
      {attributes : KeyAttributes} {previous : Option KeyAttributes}
      (built : MetadataBuilt skip metadata) (builtAttributes : AttributesBuilt attributes)
      (h : metadata.insertAspect cls attributes = .ok (previous, inserted)) :
      MetadataBuilt skip inserted

section Valid

variable {validate : AttributeType → KeyAttributeValue → Except KeyMetadataError Unit}
  {a : AttributeType} {v : KeyAttributeValue} {m : AttributeMap}

/-- A valid attribute is put. -/
theorem AllValid.put (hv : validate a v = .ok ()) :
    ∀ {m : AttributeMap}, AllValid validate m → AllValid validate (m.put a v)
  | .nil, _ => ⟨hv, trivial⟩
  | .cons b w rest, h => by
      unfold AttributeMap.put
      split
      · exact ⟨hv, h⟩
      · split
        · exact ⟨hv, h.2⟩
        · exact ⟨h.1, AllValid.put hv h.2⟩

/-- An attribute is removed. -/
theorem AllValid.remove : ∀ {m : AttributeMap}, AllValid validate m → AllValid validate (m.remove a)
  | .nil, _ => trivial
  | .cons b w rest, h => by
      unfold AttributeMap.remove
      split
      · exact h.2
      · exact ⟨h.1, AllValid.remove h.2⟩

/-- A put adds one attribute at most. -/
theorem len_put_le : ∀ m : AttributeMap, (m.put a v).len ≤ m.len + 1
  | .nil => le_refl _
  | .cons b w rest => by
      unfold AttributeMap.put
      split
      · exact le_refl _
      · split
        · exact Nat.le_succ _
        · exact Nat.succ_le_succ (len_put_le rest)

/-- A number below all others has no value. -/
theorem get_eq_none_of_startsAbove :
    ∀ {m : AttributeMap} {a b : AttributeType}, m.isSorted = true → a < b →
      m.startsAbove b = true → m.get a = none
  | .nil, _, _, _, _, _ => rfl
  | .cons c w rest, a, b, hsorted, hab, habove => by
      simp only [isSorted, Bool.and_eq_true] at hsorted
      have hac : a < c := UInt64.lt_trans hab (by simpa using habove)
      rw [AttributeMap.get, if_neg (ne_of_lt_uint64 hac).symm]
      exact get_eq_none_of_startsAbove hsorted.2 hac hsorted.1.2

/-- A value in place of another adds no entry. -/
theorem len_put_of_get (a : AttributeType) (v : KeyAttributeValue) :
    ∀ {m : AttributeMap}, m.isSorted = true → m.get a ≠ none → (m.put a v).len = m.len
  | .nil, _, h => absurd rfl h
  | .cons b w rest, hsorted, h => by
      simp only [isSorted, Bool.and_eq_true] at hsorted
      unfold AttributeMap.put
      split
      · rename_i hlt
        rw [AttributeMap.get, if_neg (ne_of_lt_uint64 hlt).symm,
          get_eq_none_of_startsAbove hsorted.2 hlt hsorted.1.2] at h
        exact absurd rfl h
      · split
        · rfl
        · rename_i hne
          rw [AttributeMap.get, if_neg hne] at h
          exact congrArg (· + 1) (len_put_of_get a v hsorted.2 h)

/-- A removal adds no attribute. -/
theorem len_remove_le : ∀ m : AttributeMap, (m.remove a).len ≤ m.len
  | .nil => le_refl _
  | .cons b w rest => by
      unfold remove
      split
      · exact Nat.le_succ _
      · exact Nat.succ_le_succ (len_remove_le rest)

end Valid

/-- An insertion keeps within the limit, and keeps what holds of the entries. -/
theorem insertChecked_ok
    {check validate : AttributeType → KeyAttributeValue → Except KeyMetadataError Unit}
    {inserted : KeyAttributes} {value : SemanticValue} {previous : Option KeyAttributeValue}
    (hcheck : check type value = .ok () → validate type value = .ok ())
    (hlen : attributes.attributes.len ≤ maxAttributes)
    (hvalid : AllValid validate attributes.attributes)
    (h : attributes.insertChecked check type value = .ok (previous, inserted)) :
    inserted.attributes.len ≤ maxAttributes ∧ AllValid validate inserted.attributes := by
  obtain ⟨hroom, h⟩ := guard_eq_ok.mp h
  obtain ⟨_, hchecked, h⟩ := bind_eq_ok.mp h
  cases h
  refine ⟨?_, hvalid.put (hcheck hchecked)⟩
  by_cases hget : attributes.get type = none
  · have hlt : attributes.attributes.len < maxAttributes :=
      not_le.mp fun hle => hroom ⟨hle, hget⟩
    exact (len_put_le attributes.attributes).trans hlt
  · exact (len_put_of_get type value attributes.sorted hget).trans_le hlen

/-- A valid attribute is valid in a template. -/
theorem validateAttribute_template {value : KeyAttributeValue}
    (h : validateAttribute type value = .ok ()) : validateTemplateAttribute type value = .ok () :=
  (guard_eq_ok.mp h).2

/-- Built attributes are valid and few. -/
theorem AttributesBuilt.valid (h : AttributesBuilt attributes) :
    attributes.attributes.len ≤ maxAttributes ∧
      AllValid validateTemplateAttribute attributes.attributes := by
  induction h with
  | new => exact ⟨Nat.zero_le _, trivial⟩
  | insert _ h ih => exact insertChecked_ok validateAttribute_template ih.1 ih.2 h
  | insertTemplate _ h ih => exact insertChecked_ok id ih.1 ih.2 h
  | remove type _ ih => exact ⟨(len_remove_le _).trans ih.1, ih.2.remove⟩

/-! ## Encoding succeeds -/

/-- Valid attributes pass the check of templates. -/
theorem validateTemplateEntries_of_allValid :
    ∀ {m : AttributeMap}, AllValid validateTemplateAttribute m → validateTemplateEntries m = .ok ()
  | .nil, _ => rfl
  | .cons a v rest, h => by
      obtain ⟨_, htype, hnested⟩ := bind_eq_ok.mp h.1
      exact bind_eq_ok.mpr ⟨(), htype,
        bind_eq_ok.mpr ⟨(), hnested, validateTemplateEntries_of_allValid h.2⟩⟩

/-- Valid attributes are a valid template. -/
theorem AllValid.template :
    ∀ {m : AttributeMap}, AllValid validateAttribute m → AllValid validateTemplateAttribute m
  | .nil, _ => trivial
  | .cons _ _ _, h => ⟨validateAttribute_template h.1, AllValid.template h.2⟩

section Encoding

variable [CborCodec]

mutual

/-- A valid value has an encoding. -/
theorem exists_encodeAttributeValue : ∀ {v : KeyAttributeValue}, validateNested v = .ok () →
    ∃ bytes, encodeAttributeValue v = .ok bytes
  | .boolean _, _ => ⟨_, rfl⟩
  | .unsigned _, _ => ⟨_, rfl⟩
  | .bytes _, _ => ⟨_, rfl⟩
  | .text _, _ => ⟨_, rfl⟩
  | .mechanisms _, _ => ⟨_, rfl⟩
  | .template attributes, h => by
      obtain ⟨hlen, hentries⟩ := guard_eq_ok.mp h
      obtain ⟨bytes, hbytes⟩ := exists_encodeEntries (allValid_template hentries)
      have hvalid : validateTemplateAttributes attributes = .ok () :=
        guard_eq_ok.mpr ⟨hlen, hentries⟩
      exact ⟨_, bind_eq_ok.mpr ⟨(), hvalid, bind_eq_ok.mpr ⟨bytes, hbytes, rfl⟩⟩⟩

/-- Valid attributes have an encoding. -/
theorem exists_encodeEntries : ∀ {m : AttributeMap}, AllValid validateTemplateAttribute m →
    ∃ bytes, encodeEntries m = .ok bytes
  | .nil, _ => ⟨_, rfl⟩
  | .cons a v rest, h => by
      obtain ⟨_, -, hnested⟩ := bind_eq_ok.mp h.1
      obtain ⟨value, hvalue⟩ := exists_encodeAttributeValue hnested
      obtain ⟨entries, hentries⟩ := exists_encodeEntries h.2
      exact ⟨_, bind_eq_ok.mpr ⟨value, hvalue, bind_eq_ok.mpr ⟨entries, hentries, rfl⟩⟩⟩

end

/-- Valid aspects have an encoding. -/
theorem exists_encodeAspect (h : validateAttributes attributes.attributes = .ok ()) :
    ∃ bytes, encodeAttributes attributes false = .ok bytes := by
  obtain ⟨bytes, hbytes⟩ := exists_encodeEntries (validateAttributes_ok h).2.template
  exact ⟨_, bind_eq_ok.mpr ⟨(), h, bind_eq_ok.mpr ⟨bytes, hbytes, rfl⟩⟩⟩

/-- `template_to_cbor` encodes everything that was built. -/
theorem AttributesBuilt.exists_templateToCbor (h : AttributesBuilt attributes) :
    ∃ encoded, attributes.templateToCbor = .ok encoded := by
  obtain ⟨hlen, hvalid⟩ := h.valid
  obtain ⟨bytes, hbytes⟩ := exists_encodeEntries hvalid
  have hchecked : validateTemplateAttributes attributes.attributes = .ok () :=
    guard_eq_ok.mpr ⟨not_lt.mpr hlen, validateTemplateEntries_of_allValid hvalid⟩
  exact ⟨_, bind_eq_ok.mpr ⟨(), hchecked, bind_eq_ok.mpr ⟨bytes, hbytes, rfl⟩⟩⟩

end Encoding

/-! ## Records -/

/-- The classes of the aspects are in ascending order. -/
def Ascending (aspects : Aspects) : Prop := (aspects.map (·.1)).Pairwise (· < ·)

/-- What `insert_aspect` keeps. -/
structure AspectsValid (aspects : Aspects) : Prop where
  ascending : Ascending aspects
  length_le : aspects.length ≤ maxAspects
  aspect : ∀ entry ∈ aspects, validateObjectClass entry.1 = .ok () ∧
    validateAttributes entry.2.attributes = .ok ()

section Aspects

variable {cls : ObjectClass} {attributes : KeyAttributes}

/-- The entries after a put. -/
theorem mem_put {entry : ObjectClass × KeyAttributes} :
    ∀ {aspects : Aspects}, entry ∈ put cls attributes aspects →
      entry = (cls, attributes) ∨ entry ∈ aspects
  | [], h => .inl (mem_singleton.mp h)
  | first :: rest, h => by
      unfold Aspects.put at h
      split at h
      · exact mem_cons.mp h
      · split at h
        · rcases mem_cons.mp h with h | h
          · exact .inl h
          · exact .inr (mem_cons_of_mem _ h)
        · rcases mem_cons.mp h with h | h
          · exact .inr (h ▸ mem_cons_self)
          · rcases mem_put h with h | h
            · exact .inl h
            · exact .inr (mem_cons_of_mem _ h)

/-- A put keeps the order. -/
theorem Ascending.put : ∀ {aspects : Aspects}, Ascending aspects →
    Ascending (put cls attributes aspects)
  | [], _ => pairwise_singleton _ _
  | first :: rest, h => by
      have hcons := pairwise_cons.mp h
      unfold Aspects.put
      split
      · rename_i hlt
        refine pairwise_cons.mpr ⟨fun other hother => ?_, h⟩
        rcases mem_cons.mp hother with rfl | hother
        · exact hlt
        · exact UInt64.lt_trans hlt (hcons.1 other hother)
      · split
        · rename_i heq
          exact pairwise_cons.mpr ⟨fun other hother => heq ▸ hcons.1 other hother, hcons.2⟩
        · rename_i hnlt hne
          have hgt : first.1 < cls := by
            rw [UInt64.lt_iff_toNat_lt] at hnlt ⊢
            have hne' : cls.toNat ≠ first.1.toNat := fun h => hne (UInt64.toNat_inj.mp h)
            omega
          refine pairwise_cons.mpr ⟨fun other hother => ?_, Ascending.put hcons.2⟩
          obtain ⟨entry, hentry, rfl⟩ := mem_map.mp hother
          rcases mem_put hentry with rfl | hentry
          · exact hgt
          · exact hcons.1 _ (mem_map_of_mem hentry)

/-- A put adds one aspect at most. -/
theorem length_put_le : ∀ aspects : Aspects,
    (put cls attributes aspects).length ≤ aspects.length + 1
  | [] => le_refl _
  | first :: rest => by
      unfold Aspects.put
      split
      · exact le_refl _
      · split
        · exact Nat.le_succ _
        · exact Nat.succ_le_succ (length_put_le rest)

/-- A put in place of an aspect adds none. -/
theorem length_put_of_mem : ∀ {aspects : Aspects}, Ascending aspects → cls ∈ keys aspects →
    (put cls attributes aspects).length = aspects.length
  | [], _, h => nomatch h
  | first :: rest, hasc, h => by
      have hcons := pairwise_cons.mp hasc
      unfold Aspects.put
      split
      · rename_i hlt
        rcases mem_cons.mp h with rfl | h
        · exact absurd hlt (not_lt_of_lt hlt)
        · exact absurd (hcons.1 _ h) (not_lt_of_lt hlt)
      · split
        · rfl
        · rename_i hne
          have hrest : cls ∈ keys rest := (mem_cons.mp h).resolve_left hne
          exact congrArg (· + 1) (length_put_of_mem hcons.2 hrest)

/-- An aspect after those that are there. -/
theorem put_of_forall_lt : ∀ {aspects : Aspects}, (∀ other ∈ keys aspects, other < cls) →
    Aspects.put cls attributes aspects = aspects ++ [(cls, attributes)]
  | [], _ => rfl
  | first :: rest, h => by
      have hfirst : first.1 < cls := h _ mem_cons_self
      rw [Aspects.put, if_neg (not_lt_of_lt hfirst), if_neg (ne_of_lt_uint64 hfirst),
        put_of_forall_lt fun other hother => h other (mem_cons_of_mem _ hother)]
      rfl

end Aspects

/-- The aspects of built metadata are valid. -/
theorem MetadataBuilt.aspectsValid (h : MetadataBuilt skip metadata) :
    AspectsValid metadata.aspects := by
  induction h with
  | new h => exact ⟨List.Pairwise.nil, Nat.zero_le _, nofun⟩
  | @insertAspect metadata inserted cls attributes previous _ _ h ih =>
    obtain ⟨_, hclass, h⟩ := bind_eq_ok.mp h
    obtain ⟨hroom, h⟩ := guard_eq_ok.mp h
    obtain ⟨_, hattributes, h⟩ := bind_eq_ok.mp h
    cases h
    refine ⟨ih.ascending.put, ?_, fun entry hentry => ?_⟩
    · by_cases hmem : cls ∈ keys metadata.aspects
      · exact (length_put_of_mem ih.ascending hmem).trans_le ih.length_le
      · have hlt : metadata.aspects.length < maxAspects :=
          not_le.mp fun hle => hroom ⟨hle, mapGet_eq_none_iff.mpr hmem⟩
        exact (length_put_le _).trans hlt
    · rcases mem_put hentry with rfl | hentry
      · exact ⟨hclass, hattributes⟩
      · exact ih.aspect entry hentry

/-- The backing of built metadata is accepted again. -/
theorem MetadataBuilt.backing_new (h : MetadataBuilt skip metadata) :
    KeyBacking.new skip metadata.backing.provider metadata.backing.dataCbor =
      .ok metadata.backing := by
  induction h with
  | new h =>
    obtain ⟨hprovider, h'⟩ := guard_eq_ok.mp h
    obtain ⟨hdata, h'⟩ := guard_eq_ok.mp h'
    obtain ⟨_, -, h'⟩ := bind_eq_ok.mp h'
    cases h'
    exact h
  | insertAspect _ _ h ih =>
    obtain ⟨_, -, h⟩ := bind_eq_ok.mp h
    obtain ⟨-, h⟩ := guard_eq_ok.mp h
    obtain ⟨_, -, h⟩ := bind_eq_ok.mp h
    cases h
    exact ih

/-- The lengths of an accepted backing. -/
theorem keyBacking_new_bounds {backing : KeyBacking}
    (h : new skip backing.provider backing.dataCbor = .ok backing) :
    (utf8 backing.provider).length < 2 ^ 64 ∧
      backing.dataCbor.length ≤ maxProviderDataLength := by
  obtain ⟨hprovider, h⟩ := guard_eq_ok.mp h
  obtain ⟨hdata, -⟩ := guard_eq_ok.mp h
  simp only [not_or, not_lt] at hprovider
  exact ⟨lt_of_le_of_lt hprovider.2.1 (by decide), not_lt.mp hdata⟩

/-- A field that has to be there. -/
theorem orMalformed_eq_ok_iff {α : Type} {reason : String} {x : Option α} {a : α} :
    orMalformed reason x = .ok a ↔ x = some a := by
  cases x <;> simp [orMalformed]

/-- Complete fields make a record. -/
theorem record_ok
    (hbacking : new skip metadata.backing.provider metadata.backing.dataCbor =
      .ok metadata.backing) (hne : metadata.aspects ≠ []) :
    BackedKeyFields.record skip
      { schema := some backedKeySchema
        version := some backedKeySchemaVersion
        provider := some metadata.backing.provider
        providerData := some metadata.backing.dataCbor
        aspects := some metadata.aspects } = .ok metadata := by
  refine guard_eq_ok.mpr ⟨not_not.mpr rfl, ?_⟩
  refine bind_eq_ok.mpr ⟨_, rfl, guard_eq_ok.mpr ⟨not_not.mpr rfl, ?_⟩⟩
  refine bind_eq_ok.mpr ⟨_, rfl, bind_eq_ok.mpr ⟨_, rfl, ?_⟩⟩
  refine bind_eq_ok.mpr ⟨_, hbacking, bind_eq_ok.mpr ⟨_, rfl, ?_⟩⟩
  exact guard_eq_ok.mpr ⟨hne, rfl⟩

section Codec

variable [CborCodec]

/-- Lists of valid aspects have an encoding. -/
theorem exists_encodeAspects : ∀ {aspects : Aspects},
    (∀ entry ∈ aspects, validateAttributes entry.2.attributes = .ok ()) →
      ∃ bytes, encodeAspects aspects = .ok bytes
  | [], _ => ⟨_, rfl⟩
  | entry :: rest, h => by
      obtain ⟨attributes, hattributes⟩ := exists_encodeAspect (h entry mem_cons_self)
      obtain ⟨entries, hentries⟩ :=
        exists_encodeAspects fun other hother => h other (mem_cons_of_mem _ hother)
      exact ⟨_, bind_eq_ok.mpr ⟨attributes, hattributes,
        bind_eq_ok.mpr ⟨entries, hentries, rfl⟩⟩⟩

/-- `to_cbor` refuses only a record without aspects. -/
theorem MetadataBuilt.exists_toCbor_iff (h : MetadataBuilt skip metadata) :
    (∃ encoded, metadata.toCbor = .ok encoded) ↔ metadata.aspects ≠ [] := by
  constructor
  · rintro ⟨encoded, hencoded⟩
    exact (guard_eq_ok.mp hencoded).1
  · intro hne
    obtain ⟨bytes, hbytes⟩ :=
      exists_encodeAspects fun entry hentry => (h.aspectsValid.aspect entry hentry).2
    exact ⟨_, guard_eq_ok.mpr ⟨hne, bind_eq_ok.mpr ⟨bytes, hbytes, rfl⟩⟩⟩

/-! ## Reading back -/

/-- No aspect is nested deeper than the decoder allows. -/
def WithinDepth (aspects : Aspects) : Prop :=
  ∀ entry ∈ aspects, mapDepth entry.2.attributes ≤ maxTemplateDepth

/-- The aspects are read back. -/
theorem reads_decodeAspectEntries : ∀ {aspects : Aspects} {acc : Aspects} {bytes : Bytes},
    (∀ entry ∈ aspects, validateObjectClass entry.1 = .ok ()) → Ascending (acc ++ aspects) →
    WithinDepth aspects → encodeAspects aspects = .ok bytes → bytes.length < 2 ^ 64 →
    Reads (decodeAspectEntries aspects.length acc) bytes (acc ++ aspects)
  | [], acc, bytes, _, _, _, hencode, _ => by
      cases hencode
      rw [append_nil]
      exact pure acc
  | entry :: rest, acc, bytes, hclass, hasc, hdepth, hencode, hlen => by
      obtain ⟨attributes, hattributes, hencode⟩ := bind_eq_ok.mp hencode
      obtain ⟨entries, hentries, hencode⟩ := bind_eq_ok.mp hencode
      cases hencode
      simp only [length_append] at hlen
      have hbelow : ∀ other ∈ keys acc, other < entry.1 := by
        intro other hother
        rw [Ascending, map_append, map_cons, pairwise_append] at hasc
        exact hasc.2.2 other hother _ mem_cons_self
      have hfresh : (mapGet acc entry.1).isNone = true := by
        rw [Option.isNone_iff_eq_none, mapGet_eq_none_iff]
        exact fun hmem => not_lt_of_lt (hbelow _ hmem) (hbelow _ hmem)
      have hread := reads_decodeAspectAttributes hattributes (by omega) (hdepth entry mem_cons_self)
      refine (reads_readUint invalidCbor entry.1).bind ?_
      refine lift (hclass entry mem_cons_self) (hread.bind (check hfresh ?_))
      have hsplit : acc ++ entry :: rest = (acc ++ [entry]) ++ rest := by simp
      rw [put_of_forall_lt hbelow, hsplit]
      exact reads_decodeAspectEntries (fun other hother => hclass other (mem_cons_of_mem _ hother))
        (hsplit ▸ hasc) (fun other hother => hdepth other (mem_cons_of_mem _ hother)) hentries
        (by omega)

/-- The map of aspects is read back. -/
theorem reads_decodeAspects {aspects : Aspects} (hvalid : AspectsValid aspects)
    (hdepth : WithinDepth aspects) (hencode : encodeAspects aspects = .ok bytes)
    (hlen : bytes.length < 2 ^ 64) :
    Reads decodeAspects (cborMap aspects.length ++ bytes) aspects := by
  have hcount : aspects.length < 2 ^ 64 := lt_of_le_of_lt hvalid.length_le (by decide)
  have hmap : Reads (definiteMap "key aspects are not a definite map") (cborMap aspects.length)
      aspects.length := (reads_readMap invalidCbor hcount).last (pure aspects.length)
  refine hmap.bind (check (decide_eq_true hvalid.length_le) ?_)
  have hread := @reads_decodeAspectEntries _ aspects [] bytes
    (fun entry hentry => (hvalid.aspect entry hentry).1) hvalid.ascending hdepth hencode hlen
  exact hread

/-- The loop of `from_cbor` reads the fields back. -/
theorem reads_decodeBackedFields
    (hbacking : new skip metadata.backing.provider metadata.backing.dataCbor =
      .ok metadata.backing) (hvalid : AspectsValid metadata.aspects)
    (hdepth : WithinDepth metadata.aspects) (hencode : encodeAspects metadata.aspects = .ok bytes)
    (hlen : bytes.length < 2 ^ 64) :
    Reads (definiteMap "backed key is not a definite map" >>= fun count =>
        decodeBackedFields count {})
      (metadata.headFields ++ [bytes]).flatten
      { schema := some backedKeySchema
        version := some backedKeySchemaVersion
        provider := some metadata.backing.provider
        providerData := some metadata.backing.dataCbor
        aspects := some metadata.aspects } := by
  obtain ⟨hprovider, hdata⟩ := keyBacking_new_bounds hbacking
  have hdata' : metadata.backing.dataCbor.length < 2 ^ 64 := lt_of_le_of_lt hdata (by decide)
  have hmap : Reads (definiteMap "backed key is not a definite map") (cborMap 5) 5 :=
    (reads_readMap invalidCbor (by decide)).last (pure 5)
  have hdataField : ∀ fields : BackedKeyFields, fields.providerData = none →
      Reads (decodeBackedField fields) (cborUint 4 ++ cborBytes metadata.backing.dataCbor)
        { fields with providerData := some metadata.backing.dataCbor } := fun fields hnone =>
    (reads_readUint invalidCbor 4).bind (check (by simp [hnone])
      ((reads_readBytes invalidCbor hdata').last (check (decide_eq_true hdata) (pure _))))
  have hfields : (metadata.headFields ++ [bytes]).flatten = cborMap 5 ++
      ((cborUint 1 ++ cborText backedKeySchema) ++
        ((cborUint 2 ++ cborUint backedKeySchemaVersion) ++
          ((cborUint 3 ++ cborText metadata.backing.provider) ++
            ((cborUint 4 ++ cborBytes metadata.backing.dataCbor) ++
              (cborUint 5 ++ (cborMap metadata.aspects.length ++ bytes)))))) := by
    simp only [headFields, cons_append, nil_append, flatten_cons, flatten_nil, append_assoc, append_nil]
  rw [hfields]
  -- every field is read once
  refine hmap.bind (((reads_readUint invalidCbor 1).bind (check (by simp)
    ((reads_readString invalidCbor (by decide)).map _))).bind ?_)
  refine ((reads_readUint invalidCbor 2).bind (check (by simp)
    ((reads_readUint invalidCbor _).map _))).bind ?_
  refine ((reads_readUint invalidCbor 3).bind (check (by simp)
    ((reads_readString invalidCbor hprovider).map _))).bind ?_
  refine (hdataField _ rfl).bind ?_
  exact ((reads_readUint invalidCbor 5).bind (check (by simp)
    ((reads_decodeAspects hvalid hdepth hencode hlen).map _))).last (pure _)

/-! ## What the decoder returns -/

/-- Attributes that are read are not too deep. -/
theorem decodeAspectAttributes_depth {result : KeyAttributes × Bytes}
    (h : decodeAspectAttributes bytes = .ok result) :
    mapDepth result.1.attributes ≤ maxTemplateDepth := by
  obtain ⟨count, -, h⟩ := bind_ok_iff.mp h
  obtain ⟨checked, -, h⟩ := bind_ok_iff.mp h
  refine decodeEntries_depth ?_ (Nat.zero_le _) h
  intro bytes result hread
  exact decodeAttributeValue_depth decodeTemplate_depth hread

/-- Aspects that are read are not too deep. -/
theorem decodeAspectEntries_depth : ∀ {n : ℕ} {acc : Aspects} {bytes : Bytes}
    {result : Aspects × Bytes}, WithinDepth acc → decodeAspectEntries n acc bytes = .ok result →
      WithinDepth result.1
  | 0, _, _, _, hacc, h => by
      cases h
      exact hacc
  | n + 1, acc, bytes, result, hacc, h => by
      obtain ⟨cls, -, h⟩ := bind_ok_iff.mp h
      obtain ⟨valid, -, h⟩ := bind_ok_iff.mp h
      obtain ⟨attributes, hattributes, h⟩ := bind_ok_iff.mp h
      obtain ⟨fresh, -, h⟩ := bind_ok_iff.mp h
      refine decodeAspectEntries_depth (fun entry hentry => ?_) h
      rcases mem_put hentry with rfl | hentry
      · exact decodeAspectAttributes_depth hattributes
      · exact hacc entry hentry

/-- A map of aspects that is read is not too deep. -/
theorem decodeAspects_depth {result : Aspects × Bytes} (h : decodeAspects bytes = .ok result) :
    WithinDepth result.1 := by
  obtain ⟨count, -, h⟩ := bind_ok_iff.mp h
  obtain ⟨checked, -, h⟩ := bind_ok_iff.mp h
  exact decodeAspectEntries_depth (fun entry hentry => absurd hentry not_mem_nil) h

/-- The aspects that the loop of `from_cbor` has found. -/
def FieldsWithinDepth (fields : BackedKeyFields) : Prop :=
  ∀ aspects, fields.aspects = some aspects → WithinDepth aspects

/-- A field that is read is not too deep. -/
theorem decodeBackedField_depth {fields : BackedKeyFields} {result : BackedKeyFields × Bytes}
    (hfields : FieldsWithinDepth fields) (h : decodeBackedField fields bytes = .ok result) :
    FieldsWithinDepth result.1 := by
  obtain ⟨⟨key, rest⟩, -, h⟩ := bind_ok_iff.mp h
  split_ifs at h
  -- the schema, the version and the provider
  iterate 3
    · obtain ⟨checked, -, h⟩ := bind_ok_iff.mp h
      obtain ⟨value, -, h⟩ := bind_ok_iff.mp h
      rw [pure_ok_iff.mp h]
      exact hfields
  · obtain ⟨checked, -, h⟩ := bind_ok_iff.mp h
    obtain ⟨data, -, h⟩ := bind_ok_iff.mp h
    obtain ⟨short, -, h⟩ := bind_ok_iff.mp h
    rw [pure_ok_iff.mp h]
    exact hfields
  · obtain ⟨checked, -, h⟩ := bind_ok_iff.mp h
    obtain ⟨aspects, haspects, h⟩ := bind_ok_iff.mp h
    rw [pure_ok_iff.mp h]
    intro found hfound
    rw [← Option.some.inj hfound]
    exact decodeAspects_depth haspects
  · cases h

/-- Fields that are read are not too deep. -/
theorem decodeBackedFields_depth : ∀ {n : ℕ} {fields : BackedKeyFields} {bytes : Bytes}
    {result : BackedKeyFields × Bytes}, FieldsWithinDepth fields →
      decodeBackedFields n fields bytes = .ok result → FieldsWithinDepth result.1
  | 0, _, _, _, hfields, h => by
      cases h
      exact hfields
  | n + 1, fields, bytes, result, hfields, h => by
      obtain ⟨first, hfirst, h⟩ := bind_ok_iff.mp h
      exact decodeBackedFields_depth (decodeBackedField_depth hfields hfirst) h

/-- How `from_cbor` succeeds. -/
theorem fromCbor_ok {record : BackedKeyMetadata} (h : fromCbor skip encoded = .ok record) :
    WithinDepth record.aspects ∧ record.toCbor = .ok encoded := by
  obtain ⟨⟨fields, rest⟩, hread, h⟩ := bind_eq_ok.mp h
  obtain ⟨-, h⟩ := guard_eq_ok.mp h
  obtain ⟨record', hrecord, h⟩ := bind_eq_ok.mp h
  obtain ⟨canonical, hcanonical, h⟩ := bind_eq_ok.mp h
  obtain ⟨hsame, h⟩ := guard_eq_ok.mp h
  cases h
  obtain rfl := not_not.mp hsame
  refine ⟨?_, hcanonical⟩
  obtain ⟨count, -, hfields⟩ := bind_ok_iff.mp hread
  have hstart : FieldsWithinDepth {} := by
    intro aspects haspects
    cases haspects
  have hdepth : FieldsWithinDepth fields := decodeBackedFields_depth hstart hfields
  obtain ⟨-, hrecord⟩ := guard_eq_ok.mp hrecord
  obtain ⟨version, -, hrecord⟩ := bind_eq_ok.mp hrecord
  obtain ⟨-, hrecord⟩ := guard_eq_ok.mp hrecord
  obtain ⟨provider, -, hrecord⟩ := bind_eq_ok.mp hrecord
  obtain ⟨data, -, hrecord⟩ := bind_eq_ok.mp hrecord
  obtain ⟨backing, -, hrecord⟩ := bind_eq_ok.mp hrecord
  obtain ⟨aspects, haspects, hrecord⟩ := bind_eq_ok.mp hrecord
  obtain ⟨-, hrecord⟩ := guard_eq_ok.mp hrecord
  cases hrecord
  exact hdepth aspects (orMalformed_eq_ok_iff.mp haspects)

/-- `from_cbor` takes back exactly the records that are not nested too deep. -/
theorem MetadataBuilt.fromCbor_eq_ok_iff (hbuilt : MetadataBuilt skip metadata)
    (hencode : metadata.toCbor = .ok encoded) (hlen : encoded.length < 2 ^ 64) :
    BackedKeyMetadata.fromCbor skip encoded = .ok metadata ↔ WithinDepth metadata.aspects := by
  constructor
  · exact fun h => (fromCbor_ok h).1
  · intro hdepth
    have htoCbor := hencode
    obtain ⟨hne, hencode⟩ := guard_eq_ok.mp hencode
    obtain ⟨entries, hentries, hencode⟩ := bind_eq_ok.mp hencode
    cases hencode
    have hentriesLen : entries.length < 2 ^ 64 := by
      rw [flatten_append, length_append, flatten_singleton] at hlen
      omega
    have hread := reads_decodeBackedFields hbuilt.backing_new hbuilt.aspectsValid hdepth hentries
      hentriesLen
    refine bind_eq_ok.mpr ⟨_, hread.run, guard_eq_ok.mpr ⟨not_not.mpr rfl, ?_⟩⟩
    refine bind_eq_ok.mpr ⟨_, record_ok hbuilt.backing_new hne, ?_⟩
    exact bind_eq_ok.mpr ⟨_, htoCbor, guard_eq_ok.mpr ⟨not_not.mpr rfl, rfl⟩⟩

/-- **The codec of key metadata.**  The encoders write everything that the operations build,
except a record without aspects.  The decoders take it back exactly if it is not nested too deep;
a byte vector is shorter than `2 ^ 64`.  Only canonical encodings are accepted. -/
theorem keyMetadata_codec (skip : CborSkip) :
    (∀ metadata, MetadataBuilt skip metadata →
      ((∃ encoded, metadata.toCbor = .ok encoded) ↔ metadata.aspects ≠ []) ∧
      ∀ encoded, metadata.toCbor = .ok encoded → encoded.length < 2 ^ 64 →
        (BackedKeyMetadata.fromCbor skip encoded = .ok metadata ↔
          ∀ entry ∈ metadata.aspects, mapDepth entry.2.attributes ≤ maxTemplateDepth)) ∧
    (∀ encoded record, BackedKeyMetadata.fromCbor skip encoded = .ok record →
      record.toCbor = .ok encoded) ∧
    (∀ attributes, AttributesBuilt attributes →
      (∃ encoded, attributes.templateToCbor = .ok encoded) ∧
      ∀ encoded, attributes.templateToCbor = .ok encoded → encoded.length < 2 ^ 64 →
        (KeyAttributes.templateFromCbor encoded = .ok attributes ↔
          mapDepth attributes.attributes < maxTemplateDepth)) ∧
    (∀ encoded attributes, KeyAttributes.templateFromCbor encoded = .ok attributes →
      attributes.templateToCbor = .ok encoded) := by
  refine ⟨fun metadata hbuilt => ⟨hbuilt.exists_toCbor_iff, fun encoded hencode hlen => ?_⟩,
    fun encoded record h => (fromCbor_ok h).2,
    fun attributes hbuilt => ⟨hbuilt.exists_templateToCbor, fun encoded hencode hlen => ?_⟩,
    fun encoded attributes h => (readCanonical_ok h).2⟩
  · exact hbuilt.fromCbor_eq_ok_iff hencode hlen
  · rw [templateFromCbor_eq_ok_iff hencode hlen, and_iff_left rfl]

end Codec

/-! ## Instances -/

/-- A template inside a template, and so on. -/
def nestedTemplate : ℕ → KeyAttributeValue
  | 0 => .template .nil
  | n + 1 => .template (.cons Cka.wrapTemplate (nestedTemplate n) .nil)

/-- Nested templates are sorted. -/
theorem isSorted_nestedTemplate : ∀ n, (nestedTemplate n).isSorted = true
  | 0 => rfl
  | n + 1 => by
      simp [nestedTemplate, KeyAttributeValue.isSorted, isSorted, isSorted_nestedTemplate n]

/-- A secret key with a wrap template of some depth. -/
def nestedAttributes (n : ℕ) : KeyAttributes :=
  ⟨.cons Cka.wrapTemplate (nestedTemplate n) .nil, by
    simp [AttributeMap.isSorted, isSorted_nestedTemplate n]⟩

/-- Every byte string is taken as one item. -/
def sampleSkip : CborSkip := fun _ => some []

def sampleBacking : KeyBacking := ⟨"software", [0xf6]⟩

def nestedMetadata (n : ℕ) : BackedKeyMetadata := ⟨sampleBacking, [(Cko.secretKey, nestedAttributes n)]⟩

/-- Metadata with nested templates can be built. -/
theorem metadataBuilt_nestedMetadata {n : ℕ}
    (hattributes : KeyAttributes.new.insert Cka.wrapTemplate
      ⟨nestedTemplate n, isSorted_nestedTemplate n⟩ = .ok (none, nestedAttributes n))
    (haspect : (new sampleBacking).insertAspect Cko.secretKey
      (nestedAttributes n) = .ok (none, nestedMetadata n)) :
    MetadataBuilt sampleSkip (nestedMetadata n) := by
  have hbacking : new sampleSkip "software" [0xf6] = .ok sampleBacking := by decide
  exact .insertAspect (.new hbacking) (.insert .new hattributes) haspect

/-- The encoding of a record with four nested templates. -/
def nestedEncoding : Bytes := ((nestedMetadata 3).toCbor).toOption.getD []

/-- Three levels of templates are read back. -/
theorem nestedEncoding_read_back :
    (nestedMetadata 3).toCbor = .ok nestedEncoding ∧
      BackedKeyMetadata.fromCbor sampleSkip nestedEncoding = .ok (nestedMetadata 3) := by
  have hbuilt : MetadataBuilt sampleSkip (nestedMetadata 3) :=
    metadataBuilt_nestedMetadata (by rfl) (by rfl)
  refine ⟨by rfl, (((keyMetadata_codec sampleSkip).1 _ hbuilt).2 nestedEncoding (by rfl)
    (by decide)).mpr ?_⟩
  decide

/-- One more level is written as well, and is not read back. -/
theorem nestedTemplate_not_read_back :
    MetadataBuilt sampleSkip (nestedMetadata 4) ∧
      ∃ encoded, (nestedMetadata 4).toCbor = .ok encoded ∧
        BackedKeyMetadata.fromCbor sampleSkip encoded =
          .error (.malformed "attribute template nesting is too deep") :=
  ⟨metadataBuilt_nestedMetadata (by rfl) (by rfl), _, by rfl, by rfl⟩

end Pkcs11rs.Analysis
