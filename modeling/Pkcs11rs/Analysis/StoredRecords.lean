import Pkcs11rs.Analysis.KeyMetadataCodec
import Pkcs11rs.Analysis.PrivateKeyInfo
import Pkcs11rs.Model.TokenRecords

/-!
# What a record of a software token gives back

Each decoder of `software_storage.rs`, run on what its encoder wrote: the attribute record and
the PKCS #8 structure of a private key, the record of a secret key, the record of a data object
or a certificate, and the encrypted envelope around them.

`decode_record` refuses some of the records that `encode_record` writes.  `Recoverable` says
which objects it gives back, `restored` as what, and `decodeRecord_eq_ok_iff` is the result.
-/

set_option autoImplicit false

namespace Pkcs11rs.Analysis

open Pkcs11rs.Library Pkcs11rs.Model Reads ReadsIf

variable {bytes encoded : Bytes} {fields : List Bytes} {n : ℕ} {attributes : StoredAttributes}
  {key : SoftwarePrivateKey} {decoded : TokenObject} {contents : DataContents}
  {value : Option Bytes} {object : TokenObject} {slotId : Ulong} {uniqueId : String}
  {env : RecordEnv} {token : Bool} {record : String × Bytes} {random : Option Nonce}

/-! ## Fields -/

/-- A field is no longer than the record. -/
theorem length_le_flatten (h : bytes ∈ fields) : bytes.length ≤ fields.flatten.length :=
  (List.sublist_flatten_of_mem h).length_le

section Codec

variable [CborCodec]

/-- A byte string is shorter than the record. -/
theorem length_lt_of_cborBytes (h : cborBytes bytes ∈ fields) (hn : fields.flatten.length < n) :
    bytes.length < n := by
  have hfield := length_le_flatten h
  have hbytes := length_le_cborBytes bytes
  omega

/-- A text is shorter than the record. -/
theorem length_lt_of_cborText {text : String} (h : cborText text ∈ fields)
    (hn : fields.flatten.length < n) : (utf8 text).length < n := by
  have hfield := length_le_flatten h
  have htext := length_le_cborText text
  omega

/-- Optional bytes are shorter than the record. -/
theorem length_lt_of_optionalBytes (h : encodeOptionalBytes value ∈ fields)
    (hn : fields.flatten.length < n) (hvalue : value = some bytes) : bytes.length < n := by
  subst hvalue
  exact length_lt_of_cborBytes h hn

/-- The mechanism is read back. -/
theorem reads_decodeKeyGenMechanism (mechanism : Option UInt64) :
    Reads decodeKeyGenMechanism (cborOption cborUint mechanism) mechanism :=
  reads_readNullOr _ (by decide) (startsWith_cborUint _) fun value _ => reads_readUint _ value

/-- Optional bytes are read back. -/
theorem reads_decodeOptionalBytes (h : ∀ bytes, value = some bytes → bytes.length < 2 ^ 64) :
    Reads decodeOptionalBytes (encodeOptionalBytes value) value :=
  reads_readNullOr _ (by decide) (startsWith_cborBytes _) fun bytes hbytes =>
    reads_readBytes _ (h bytes hbytes)

/-- A mechanism list that the encoder accepts is read back. -/
theorem reads_decodeAllowedMechanisms {mechanisms : Option (List UInt64)}
    (h : encodeAllowedMechanisms mechanisms = .ok bytes) :
    Reads decodeAllowedMechanisms (cborMechanisms mechanisms) mechanisms := by
  refine reads_readNullOr _ (by decide)
    (fun mechanisms => (startsWith_cborArray _ mechanisms.length).append _) ?_
  rintro mechanisms rfl
  obtain ⟨_, hvalid, -⟩ := bind_eq_ok.mp h
  have hlength : mechanisms.length ≤ 256 := by
    have hbad := (guard_eq_ok.mp hvalid).1
    omega
  refine (reads_readArray _ (by omega)).bind ?_
  refine check (decide_eq_true hlength) ?_
  have htimes : Reads ((readUint Rv.dataInvalid).times mechanisms.length)
      (mechanisms.flatMap cborUint) mechanisms :=
    times fun value _ => reads_readUint _ value
  exact htimes.last (lift hvalid (pure mechanisms))

/-! ## The attribute record of a private key -/

/-- The attributes are read back. -/
theorem reads_readStoredAttributes {mechanisms : Bytes}
    (hmechanisms : encodeAllowedMechanisms attributes.allowedMechanisms = .ok mechanisms)
    (hlen : (storedAttributeFields attributes).flatten.length < 2 ^ 64) :
    Reads (readStoredAttributes true) (storedAttributeFields attributes).tail.flatten
      attributes := by
  have hlabel : (utf8 attributes.label).length < 2 ^ 64 :=
    length_lt_of_cborText (by simp [storedAttributeFields]) hlen
  have hid : attributes.id.length < 2 ^ 64 :=
    length_lt_of_cborBytes (by simp [storedAttributeFields]) hlen
  have htemplate : ∀ {template}, encodeOptionalBytes template ∈ storedAttributeFields attributes →
      Reads decodeOptionalBytes (encodeOptionalBytes template) template := fun hmem =>
    reads_decodeOptionalBytes fun _ => length_lt_of_optionalBytes hmem hlen
  refine (reads_readString _ (by decide)).field (check (by decide) ?_)
  refine (reads_readUint _ _).field (check (by decide) ?_)
  refine (reads_readUint _ _).field ((reads_readUint _ _).field ?_)
  refine (reads_readString _ hlabel).field ((reads_readBytes _ hid).field ?_)
  iterate 13 refine (reads_readBool _ _).field ?_
  refine (reads_decodeKeyGenMechanism _).field ?_
  refine (reads_decodeAllowedMechanisms hmechanisms).field ((reads_readBool _ _).field ?_)
  iterate 3 refine (htemplate (by simp [storedAttributeFields])).field ?_
  exact result _

/-- `decode_stored_attributes` gives the attributes back. -/
theorem decodeStoredAttributes_encode (hencode : encodeStoredAttributes attributes = .ok encoded)
    (hlen : encoded.length < 2 ^ 64) : decodeStoredAttributes encoded = .ok attributes := by
  obtain ⟨mechanisms, hmechanisms, hfields⟩ := bind_eq_ok.mp hencode
  cases hfields
  have hcount : readArray Rv.dataInvalid (storedAttributeFields attributes).flatten =
      .ok (some 25, (storedAttributeFields attributes).tail.flatten) :=
    reads_readArray Rv.dataInvalid (by decide) _
  refine bind_eq_ok.mpr ⟨_, hcount, ?_⟩
  refine guard_eq_ok.mpr ⟨by simp, ?_⟩
  refine bind_eq_ok.mpr ⟨_, (reads_readStoredAttributes hmechanisms hlen).run, ?_⟩
  refine guard_eq_ok.mpr ⟨by simp, ?_⟩
  exact bind_eq_ok.mpr ⟨_, hencode, guard_eq_ok.mpr ⟨by simp, rfl⟩⟩

/-! ## Policy templates -/

/-- The template is within the depth limit of its decoder. -/
def Shallow (template : Option KeyAttributes) : Prop :=
  ∀ attributes, template = some attributes → mapDepth attributes.attributes < maxTemplateDepth

/-- All policy templates of an object are within the depth limit. -/
def ShallowTemplates (templates : KeyPolicyTemplates) : Prop :=
  Shallow templates.wrap ∧ Shallow templates.unwrap ∧ Shallow templates.derive

/-- When a policy is read back. -/
theorem decodePolicyTemplate_eq_ok_iff {template decoded : Option KeyAttributes}
    {encoded : Option Bytes} (hencode : encodePolicyTemplate template = .ok encoded)
    (hlen : ∀ bytes, encoded = some bytes → bytes.length < 2 ^ 64) :
    decodePolicyTemplate encoded = .ok decoded ↔ Shallow template ∧ decoded = template := by
  cases template with
  | none =>
    cases hencode
    grind [Shallow, decodePolicyTemplate]
  | some template =>
    obtain ⟨bytes, hbytes, rfl⟩ := map_eq_ok.mp hencode
    grind [mapError_eq_ok_iff, Shallow, maxTemplateDepth, decodePolicyTemplate, map_eq_ok,
      templateFromCbor_eq_ok_iff]

/-! ## Private keys -/

/-- The attributes of an object that are stored, and their record. -/
structure StoredAs (object : TokenObject) (attributes : StoredAttributes) : Prop where
  stored : storedAttributes object = .ok attributes
  bounded : ∃ encoded, encodeStoredAttributes attributes = .ok encoded ∧ encoded.length < 2 ^ 64

/-- `decode_stored_private_key_info` gives the attributes and the key back. -/
theorem decodeStoredPrivateKeyInfo_encode {core : KeyCore} {der : DerCodec} (hder : DerLaws der)
    (hcore : KeyCoreLaws core der key) (hmaterial : object.material = .softwarePrivate key)
    (hencode : encodeStoredPrivateKeyInfo core der object = .ok encoded) :
    encoded.head? = some 0x30 ∧ ∃ attributes, StoredAs object attributes ∧
      decodeStoredPrivateKeyInfo core der encoded = .ok (attributes, key) := by
  unfold encodeStoredPrivateKeyInfo at hencode
  rw [hmaterial] at hencode
  obtain ⟨bare, hbare, hencode⟩ := bind_eq_ok.mp hencode
  obtain ⟨info, hinfo, hencode⟩ := bind_eq_ok.mp hencode
  obtain ⟨attributes, hattributes, hencode⟩ := bind_eq_ok.mp hencode
  obtain ⟨metadata, hmetadata, hencode⟩ := bind_eq_ok.mp hencode
  obtain ⟨id, hid, hencode⟩ := bind_eq_ok.mp hencode
  obtain ⟨-, rfl⟩ := octetString_eq_ok.mp hid
  obtain ⟨metadata', hoctets, hencode⟩ := bind_eq_ok.mp hencode
  obtain ⟨hlength, rfl⟩ := octetString_eq_ok.mp hoctets
  obtain ⟨privateKey, hprivateKey, hencode⟩ := bind_eq_ok.mp hencode
  obtain ⟨-, rfl⟩ := octetString_eq_ok.mp hprivateKey
  obtain ⟨set, hset, hencode⟩ := bind_eq_ok.mp hencode
  rw [orDataInvalid_eq_ok] at hinfo hset hencode
  have hbounded : metadata.length < 2 ^ 64 := by
    have hmax := hder.lengthMax_lt
    omega
  refine ⟨hder.storedPrivateKeyInfo_head hencode, attributes,
    ⟨hattributes, metadata, hmetadata, hbounded⟩, ?_⟩
  obtain ⟨friendlyName, hfriendly, hfound⟩ :=
    readPkcs8Attributes_perm (hder.setOfAttributes_perm hset)
      (decodeStoredAttributes_encode hmetadata hbounded)
  have hmatches : ¬ (some attributes.id ≠ some attributes.id ∨
      friendlyName.any (· ≠ attributes.label) = true) := by
    rcases hfriendly with rfl | rfl <;> simp
  have hkey := materialFromPkcs8_materialToPkcs8 hder hcore hbare hinfo
    (hder.privateKeyInfo_stored hencode rfl)
  refine bind_eq_ok.mpr ⟨_, orDataInvalid_eq_ok.mpr (hder.storedPrivateKeyInfo hencode), ?_⟩
  refine guard_eq_ok.mpr ⟨by simp [hencode], bind_eq_ok.mpr ⟨set, rfl, ?_⟩⟩
  refine bind_eq_ok.mpr ⟨_, hfound, bind_eq_ok.mpr ⟨attributes, rfl, ?_⟩⟩
  exact guard_eq_ok.mpr ⟨hmatches, bind_eq_ok.mpr ⟨key, hkey, rfl⟩⟩

/-- The private key that a record stands for: the flags `wrap` and `unwrap` are not stored. -/
def storedPrivateKey (slotId : Ulong) (uniqueId : String) (object : TokenObject)
    (publicKey : Option PublicKeyMaterial) : TokenObject :=
  { object with
    slotId := some slotId, uniqueId := uniqueId, token := true, wrap := false, unwrap := false,
    creatorSession := none, publicKey := publicKey, rpId := none }

/-- When a private key is read back. -/
theorem privateKeyObject_eq_ok_iff (hmaterial : object.material = .softwarePrivate key)
    (hstored : StoredAs object attributes) :
    privateKeyObject slotId uniqueId attributes key = .ok decoded ↔
      ShallowTemplates object.policyTemplates ∧ object.class_ = Cko.privateKey ∧ object.keyType =
        key.keyType ∧ ∃ publicKey, key.publicKey = .ok publicKey ∧
          decoded = storedPrivateKey slotId uniqueId object (some publicKey) := by
  obtain ⟨wrapTemplate, hwrap, hattributes⟩ := bind_eq_ok.mp hstored.stored
  obtain ⟨unwrapTemplate, hunwrap, hattributes⟩ := bind_eq_ok.mp hattributes
  obtain ⟨deriveTemplate, hderive, hattributes⟩ := bind_eq_ok.mp hattributes
  cases hattributes
  obtain ⟨encoded, hencoded, hlength⟩ := hstored.bounded
  obtain ⟨-, -, hfields⟩ := bind_eq_ok.mp hencoded
  cases hfields
  have htemplate : ∀ {template encoded}, encodePolicyTemplate template = .ok encoded →
      encodeOptionalBytes encoded ∈ storedAttributeFields _ → ∀ decoded,
      decodePolicyTemplate encoded = .ok decoded ↔ Shallow template ∧ decoded = template :=
    fun hencode hmem _ => decodePolicyTemplate_eq_ok_iff hencode fun _ =>
      length_lt_of_optionalBytes hmem hlength
  simp only [privateKeyObject, bind_eq_ok, guard_eq_ok,
    htemplate hwrap (by simp [storedAttributeFields]),
    htemplate hunwrap (by simp [storedAttributeFields]),
    htemplate hderive (by simp [storedAttributeFields]),
    and_assoc, exists_and_left, exists_eq_left, not_or, not_not, ShallowTemplates,
    Except.ok.injEq, storedPrivateKey, hmaterial, eq_comm (b := decoded)]

/-! ## Secret keys -/

/-- A policy template in the record of a secret key. -/
theorem readsIf_readPolicyTemplateField {template : Option KeyAttributes} {encoded : Option Bytes}
    (hencode : encodePolicyTemplate template = .ok encoded)
    (hmem : encodeOptionalBytes encoded ∈ fields) (hlen : fields.flatten.length < 2 ^ 64) :
    ReadsIf readPolicyTemplateField (encodeOptionalBytes encoded) (Shallow template) template :=
  have hbytes := fun _ => length_lt_of_optionalBytes hmem hlen
  last (reads_decodeOptionalBytes hbytes)
    (computed fun _ => decodePolicyTemplate_eq_ok_iff hencode hbytes)

/-- The secret key that a record stands for. -/
def storedSecretKey (slotId : Ulong) (uniqueId : String) (object : TokenObject) : TokenObject :=
  { object with
    slotId := some slotId, uniqueId := uniqueId, token := true, encapsulate := false,
    decapsulate := false, creatorSession := none, publicKey := none, rpId := none }

/-- What `encode_stored_secret_key_info` accepts, and what it writes. -/
theorem encodeStoredSecretKeyInfo_ok (h : encodeStoredSecretKeyInfo object = .ok encoded) :
    object.class_ = Cko.secretKey ∧ object.isPrivate = true ∧ ∃ value mechanisms wrap unwrap derive,
      object.material = .softwareSecret value ∧
      validateStoredSecretKey object.keyType value.length = .ok () ∧
      encodeAllowedMechanisms object.allowedMechanisms = .ok mechanisms ∧
      encodePolicyTemplate object.policyTemplates.wrap = .ok wrap ∧
      encodePolicyTemplate object.policyTemplates.unwrap = .ok unwrap ∧
      encodePolicyTemplate object.policyTemplates.derive = .ok derive ∧
      encoded = (secretKeyFields object wrap unwrap derive value).flatten := by
  unfold encodeStoredSecretKeyInfo at h
  split at h
  case h_2 => cases h
  obtain ⟨hclass, h⟩ := guard_eq_ok.mp h
  obtain ⟨_, hvalid, h⟩ := bind_eq_ok.mp h
  obtain ⟨mechanisms, hmechanisms, h⟩ := bind_eq_ok.mp h
  obtain ⟨wrap, hwrap, h⟩ := bind_eq_ok.mp h
  obtain ⟨unwrap, hunwrap, h⟩ := bind_eq_ok.mp h
  obtain ⟨derive, hderive, h⟩ := bind_eq_ok.mp h
  grind

/-- `decode_stored_secret_key_info` gives a key with shallow templates back. -/
theorem decodeStoredSecretKeyInfo_eq_ok_iff
    (hencode : encodeStoredSecretKeyInfo object = .ok encoded) (hlen : encoded.length < 2 ^ 64) :
    decodeStoredSecretKeyInfo slotId uniqueId encoded = .ok decoded ↔
      ShallowTemplates object.policyTemplates ∧
        decoded = storedSecretKey slotId uniqueId object := by
  obtain ⟨hclass, hprivate, value, mechanisms, wrap, unwrap, derive, hmaterial, hvalid,
    hmechanisms, hwrap, hunwrap, hderive, rfl⟩ := encodeStoredSecretKeyInfo_ok hencode
  have hlabel : (utf8 object.label).length < 2 ^ 64 :=
    length_lt_of_cborText (by simp [secretKeyFields]) hlen
  have hid : object.id.length < 2 ^ 64 :=
    length_lt_of_cborBytes (by simp [secretKeyFields]) hlen
  have hvalue : value.length < 2 ^ 64 :=
    length_lt_of_cborBytes (by simp [secretKeyFields]) hlen
  have hwrapField := readsIf_readPolicyTemplateField hwrap (by simp [secretKeyFields]) hlen
  have hunwrapField := readsIf_readPolicyTemplateField hunwrap (by simp [secretKeyFields]) hlen
  have hderiveField := readsIf_readPolicyTemplateField hderive (by simp [secretKeyFields]) hlen
  have hreads : ReadsIf (readStoredSecretKeyInfo slotId uniqueId)
      (secretKeyFields object wrap unwrap derive value).flatten
      (Shallow object.policyTemplates.wrap ∧ Shallow object.policyTemplates.unwrap ∧
        Shallow object.policyTemplates.derive ∧ True)
      { storedSecretKey slotId uniqueId object with
        class_ := Cko.secretKey, material := .softwareSecret value } := by
    refine field (reads_readArray _ (by decide)) (check (by decide) ?_)
    refine field (reads_readString _ (by decide)) (check (by decide) ?_)
    refine field (reads_readUint _ _) (check (by decide) ?_)
    refine field (reads_readUint _ _) (field (reads_readString _ hlabel) ?_)
    refine field (reads_readBytes _ hid) ?_
    iterate 13 refine field (reads_readBool _ _) ?_
    refine field (reads_decodeKeyGenMechanism _) ?_
    refine field (reads_decodeAllowedMechanisms hmechanisms) ?_
    refine field (reads_readBool _ _) (hwrapField.bind ?_)
    refine hunwrapField.bind (hderiveField.bind ?_)
    refine field (reads_readBytes _ hvalue) (lift hvalid ?_)
    exact check hprivate (pure _)
  have hsame : ({ storedSecretKey slotId uniqueId object with
      class_ := Cko.secretKey, material := .softwareSecret value } : TokenObject) =
        storedSecretKey slotId uniqueId object := by
    rw [← hclass, ← hmaterial]
    rfl
  rw [hsame] at hreads
  -- the record does not depend on the fields that the decoder resets
  have hcanonical : encodeStoredSecretKeyInfo (storedSecretKey slotId uniqueId object) =
      .ok (secretKeyFields object wrap unwrap derive value).flatten := hencode
  rw [decodeStoredSecretKeyInfo, readCanonical_eq_ok_iff hreads hcanonical]
  simp only [ShallowTemplates, and_true]

end Codec

/-! ## Data objects and certificates -/

/-- The data object or the certificate that a record stands for. -/
def storedDataObject (slotId : Ulong) (uniqueId : String) (token : Bool) (object : TokenObject) :
    TokenObject where
  slotId := some slotId
  uniqueId := uniqueId
  class_ := object.class_
  keyType := Ckk.genericSecret
  label := object.label
  id := object.id
  token := token
  isPrivate := object.isPrivate
  extractable := true
  material := object.material

/-- The class and the material that `encode_data_object` accepts. -/
theorem dataContents_ok (h : dataContents object = .ok contents) : (object.class_ = Cko.data ∧
      object.material =
        .data contents.inst contents.application contents.objectId contents.value) ∨
    (object.class_ = Cko.certificate ∧ contents.application = [] ∧ contents.objectId = [] ∧
      object.material = .certificate contents.inst contents.value) := by
  unfold dataContents at h
  grind

/-- The classes of data objects. -/
theorem dataContents_class (h : dataContents object = .ok contents) :
    object.class_ = Cko.data ∨ object.class_ = Cko.certificate :=
  (dataContents_ok h).imp And.left And.left

/-- The subject of a certificate can be read. -/
def SubjectReadable (env : ObjectEnv) (object : TokenObject) : Prop :=
  ∀ inst value, object.material = .certificate inst value →
    (env.certificateSubject value).toOption ≠ none

/-- When a data object is read back. -/
theorem dataObjectOf_eq_ok_iff {env : ObjectEnv} (hcontents : dataContents object = .ok contents) :
    dataObjectOf env slotId token uniqueId object.class_ object.label object.id object.isPrivate
        contents = .ok decoded ↔
      SubjectReadable env object ∧ decoded = storedDataObject slotId uniqueId token object := by
  rcases dataContents_ok hcontents with ⟨hclass, hmaterial⟩ | ⟨hclass, happ, hid, hmaterial⟩
  · have hobject : dataObjectOf env slotId token uniqueId object.class_ object.label object.id
        object.isPrivate contents = .ok (storedDataObject slotId uniqueId token object) := by
      rw [storedDataObject, hclass, hmaterial]
      rfl
    have hsubject : SubjectReadable env object := by
      intro inst value hcertificate
      rw [hmaterial] at hcertificate
      cases hcertificate
    rw [hobject, Except.ok.injEq, eq_comm]
    exact ⟨fun h => ⟨hsubject, h⟩, fun h => h.2⟩
  · have hobject : dataObjectOf env slotId token uniqueId object.class_ object.label object.id
        object.isPrivate contents =
          if contents.application ≠ [] ∨ contents.objectId ≠ [] ∨
              (env.certificateSubject contents.value).toOption = none then .error .dataInvalid
          else .ok (storedDataObject slotId uniqueId token object) := by
      rw [storedDataObject, hclass, hmaterial]
      rfl
    have hsubject : SubjectReadable env object ↔
        (env.certificateSubject contents.value).toOption ≠ none := by
      refine ⟨fun h => h _ _ hmaterial, fun h inst value hcertificate => ?_⟩
      rw [hmaterial] at hcertificate
      cases hcertificate
      exact h
    grind

/-! ## What a record gives back -/

/-- The objects that `decode_record` gives back from their records. -/
def Recoverable (env : ObjectEnv) (object : TokenObject) : Prop :=
  match object.material with
  | .softwarePrivate key =>
    ShallowTemplates object.policyTemplates ∧ object.class_ = Cko.privateKey ∧
      object.keyType = key.keyType ∧ ∃ publicKey, key.publicKey = .ok publicKey
  | .softwareSecret _ => ShallowTemplates object.policyTemplates
  | _ => SubjectReadable env object

/-- What `decode_record` gives back. -/
def restored (slotId : Ulong) (uniqueId : String) (object : TokenObject) : TokenObject :=
  match object.material with
  | .softwarePrivate key => storedPrivateKey slotId uniqueId object key.publicKey.toOption
  | .softwareSecret _ => storedSecretKey slotId uniqueId object
  | _ => storedDataObject slotId uniqueId true object

section Restored

variable {env : ObjectEnv} {slotId : Ulong} {uniqueId : String} {object : TokenObject}

/-- When a private key can be recovered. -/
theorem recoverable_softwarePrivate (h : object.material = .softwarePrivate key) :
    Recoverable env object ↔ ShallowTemplates object.policyTemplates ∧
      object.class_ = Cko.privateKey ∧ object.keyType = key.keyType ∧
      ∃ publicKey, key.publicKey = .ok publicKey := by
  rw [Recoverable, h]

/-- A private key after its restoration. -/
theorem restored_softwarePrivate (h : object.material = .softwarePrivate key) :
    restored slotId uniqueId object =
      storedPrivateKey slotId uniqueId object key.publicKey.toOption := by
  rw [restored, h]

/-- A secret key after its restoration. -/
theorem restored_softwareSecret {value : Bytes} (h : object.material = .softwareSecret value) :
    restored slotId uniqueId object = storedSecretKey slotId uniqueId object := by
  rw [restored, h]

/-- A data object after its restoration. -/
theorem restored_of_dataContents (h : dataContents object = .ok contents) :
    restored slotId uniqueId object = storedDataObject slotId uniqueId true object := by
  rcases dataContents_ok h with ⟨-, hmaterial⟩ | ⟨-, -, -, hmaterial⟩
  · rw [restored, hmaterial]
  · rw [restored, hmaterial]

end Restored

/-! ## The record of a data object -/

variable [CborCodec]

/-- `decode_data_object` gives the object back if a certificate has a subject. -/
theorem decodeDataObject_eq_ok_iff {env : ObjectEnv}
    (hencode : encodeDataObject object = .ok encoded) (hlen : encoded.length < 2 ^ 64) :
    decodeDataObject env slotId token uniqueId encoded = .ok decoded ↔
      SubjectReadable env object ∧ decoded = storedDataObject slotId uniqueId token object := by
  obtain ⟨contents, hcontents, hfields⟩ := bind_eq_ok.mp hencode
  cases hfields
  have hclass := dataContents_class hcontents
  have hlabel : (utf8 object.label).length < 2 ^ 64 :=
    length_lt_of_cborText (by simp [dataObjectFields]) hlen
  have hbytes : ∀ bytes, cborBytes bytes ∈ dataObjectFields object contents →
      bytes.length < 2 ^ 64 := fun bytes hmem => length_lt_of_cborBytes hmem hlen
  have hreads : ReadsIf (readDataObject env slotId token uniqueId)
      (dataObjectFields object contents).flatten (SubjectReadable env object)
      (storedDataObject slotId uniqueId token object) := by
    refine field (reads_readArray _ (by decide)) (check (by decide) ?_)
    refine field (reads_readString _ (by decide)) (check (by decide) ?_)
    refine field (reads_readUint _ _) (check (by decide) ?_)
    refine field (reads_readUint _ _) (check (decide_eq_true hclass) ?_)
    refine field (reads_readString _ hlabel) ?_
    refine field (reads_readBytes _ (hbytes _ (by simp [dataObjectFields]))) ?_
    refine field (reads_readBool _ _) ?_
    iterate 4 refine field (reads_readBytes _ (hbytes _ (by simp [dataObjectFields]))) ?_
    rw [dif_pos contents.inst.2]
    exact computed fun _ => dataObjectOf_eq_ok_iff hcontents
  have hcanonical : encodeDataObject (storedDataObject slotId uniqueId token object) =
      .ok (dataObjectFields object contents).flatten := hencode
  exact readCanonical_eq_ok_iff hreads hcanonical

/-! ## The envelope -/

/-- AES-GCM: decryption inverts encryption, the tag is appended, and inputs are at most `2 ^ 36`
bytes long. -/
structure AeadLaws (env : RecordEnv) : Prop where
  decrypt_encrypt : ∀ {key nonce aad plaintext ciphertext},
    env.encrypt key nonce aad plaintext = .ok ciphertext →
    env.decrypt key nonce aad ciphertext = .ok plaintext
  length_encrypt : ∀ {key nonce aad plaintext ciphertext},
    env.encrypt key nonce aad plaintext = .ok ciphertext →
    ciphertext.length = plaintext.length + tagLength
  length_le : ∀ {key nonce aad plaintext ciphertext},
    env.encrypt key nonce aad plaintext = .ok ciphertext → plaintext.length ≤ 2 ^ 36

/-- The plaintext of a record, by the material of the object. -/
theorem recordPlaintext_ok (h : recordPlaintext env object = .ok record) :
    (∃ key, object.material = .softwarePrivate key ∧ record.1 = recordSchema ∧
      encodeStoredPrivateKeyInfo env.core env.der object = .ok record.2) ∨
    (∃ value, object.material = .softwareSecret value ∧ record.1 = secretRecordSchema ∧
      encodeStoredSecretKeyInfo object = .ok record.2) ∨
    (object.isPrivate = true ∧ record.1 = dataRecordSchema ∧
      encodeDataObject object = .ok record.2) := by
  unfold recordPlaintext at h
  split at h
  · grind [map_eq_ok]
  · rename_i value hmaterial
    obtain ⟨-, h⟩ := require_eq_ok.mp h
    obtain ⟨plaintext, hplaintext, rfl⟩ := map_eq_ok.mp h
    exact .inr (.inl ⟨value, hmaterial, rfl, hplaintext⟩)
  · grind [map_eq_ok]
  · grind [map_eq_ok]
  · cases h

/-- The schema of a record. -/
theorem recordPlaintext_schema (h : recordPlaintext env object = .ok record) :
    record.1 ∈ [recordSchema, secretRecordSchema, dataRecordSchema] := by
  rcases recordPlaintext_ok h with ⟨_, _, hschema, _⟩ | ⟨_, _, hschema, _⟩ | ⟨_, hschema, _⟩
  · simp [hschema]
  · simp [hschema]
  · simp [hschema]

/-- The fields of an envelope are read back. -/
theorem reads_readRecordEnvelope {schema : String} {nonce : Nonce} {ciphertext : Bytes}
    (hschema : schema ∈ [recordSchema, secretRecordSchema, dataRecordSchema])
    (hlen : ciphertext.length < 2 ^ 64) :
    Reads readRecordEnvelope (encodeRecordEnvelope schema nonce ciphertext)
      (schema, nonce, ciphertext) := by
  have htext : (utf8 schema).length < 2 ^ 64 := by
    simp only [List.mem_cons, List.not_mem_nil, or_false] at hschema
    rcases hschema with rfl | rfl | rfl <;> decide
  have hnonce : nonce.1.length < 2 ^ 64 := by
    rw [nonce.2]
    decide
  refine (reads_readArray _ (by decide)).field (check (by decide) ?_)
  refine (reads_readString _ htext).field (check (decide_eq_true hschema) ?_)
  refine (reads_readUint _ _).field (check (by decide) ?_)
  refine (reads_readBytes _ hnonce).field ((reads_readBytes _ hlen).field ?_)
  rw [dif_pos nonce.2]
  exact result _

/-- A record is decrypted to the plaintext that was encrypted. -/
theorem decodeRecord_encodeRecord {name masterKey : Bytes} (haead : AeadLaws env)
    (h : encodeRecord env name masterKey random object = .ok encoded) :
    object.token = true ∧ ∃ record, recordPlaintext env object = .ok record ∧
      record.2.length < 2 ^ 64 ∧
      ∀ slotId uniqueId, decodeRecord env name slotId uniqueId masterKey encoded =
        decodePlaintext env slotId uniqueId record.1 record.2 := by
  obtain ⟨htoken, h⟩ := guard_eq_ok.mp h
  obtain ⟨record, hrecord, h⟩ := bind_eq_ok.mp h
  cases random with
  | none => cases h
  | some nonce =>
    obtain ⟨ciphertext, hciphertext, h⟩ := bind_eq_ok.mp h
    cases h
    have hplaintext := haead.length_le hciphertext
    have hlength := haead.length_encrypt hciphertext
    have hread : Reads readRecordEnvelope (encodeRecordEnvelope record.1 nonce ciphertext)
        (record.1, nonce, ciphertext) :=
      reads_readRecordEnvelope (recordPlaintext_schema hrecord)
        (by unfold tagLength at hlength; omega)
    have hlong : ¬ ciphertext.length < tagLength := by omega
    refine ⟨by simpa using htoken, record, hrecord, by omega, fun slotId uniqueId => ?_⟩
    unfold decodeRecord
    rw [hread.run]
    simp only [Bind.bind, Except.bind, ne_eq, not_true_eq_false, or_false, if_neg hlong,
      if_false, haead.decrypt_encrypt hciphertext, mapError_ok]

/-! ## Which objects come back -/

/-- DER does not look like the record of a secret key. -/
theorem storedSecretKeyInfo_eq_false (h : encoded.head? = some 0x30) :
    storedSecretKeyInfo encoded = false := by
  cases encoded with
  | nil => cases h
  | cons initial rest =>
    cases h
    have hcount : readArray Rv.dataInvalid (0x30 :: rest) = .error .dataInvalid :=
      readArray_initial (by decide)
    rw [storedSecretKeyInfo, hcount]

/-- A secret key is recognized. -/
theorem storedSecretKeyInfo_secretKeyFields (object : TokenObject)
    (wrap unwrap derive : Option Bytes) (value : Bytes) :
    storedSecretKeyInfo (secretKeyFields object wrap unwrap derive value).flatten = true := by
  have hcount : Reads (readArray Rv.dataInvalid) (cborArray 25) (some 25) :=
    reads_readArray _ (by decide)
  have hschema : Reads (readString Rv.dataInvalid) (cborText secretRecordSchema)
      secretRecordSchema := reads_readString _ (by decide)
  have hfields : (secretKeyFields object wrap unwrap derive value).flatten =
      cborArray 25 ++ (secretKeyFields object wrap unwrap derive value).tail.flatten := rfl
  have hread : readString Rv.dataInvalid
      (secretKeyFields object wrap unwrap derive value).tail.flatten =
        .ok (secretRecordSchema,
          (secretKeyFields object wrap unwrap derive value).tail.tail.flatten) :=
    hschema _
  rw [storedSecretKeyInfo, hfields, hcount]
  simp only [hread, decide_true]

/-- **Which objects a record gives back, and as what.** -/
theorem decodeRecord_eq_ok_iff {name masterKey : Bytes} (haead : AeadLaws env)
    (hder : DerLaws env.der)
    (hcore : ∀ key, object.material = .softwarePrivate key → KeyCoreLaws env.core env.der key)
    (hencode : encodeRecord env name masterKey random object = .ok encoded) :
    decodeRecord env name slotId uniqueId masterKey encoded = .ok decoded ↔
      Recoverable env.objects object ∧ decoded = restored slotId uniqueId object := by
  obtain ⟨-, record, hrecord, hlen, hdecoded⟩ := decodeRecord_encodeRecord haead hencode
  rw [hdecoded]
  rcases recordPlaintext_ok hrecord with ⟨key, hmaterial, hschema, hplaintext⟩ |
    ⟨value, hmaterial, hschema, hplaintext⟩ | ⟨hprivate, hschema, hplaintext⟩
  · obtain ⟨hhead, attributes, hstored, hinfo⟩ :=
      decodeStoredPrivateKeyInfo_encode hder (hcore key hmaterial) hmaterial hplaintext
    have hdecode : decodePlaintext env slotId uniqueId recordSchema record.2 =
        privateKeyObject slotId uniqueId attributes key := by
      unfold decodePlaintext
      rw [if_neg (by decide), if_neg (by decide), storedSecretKeyInfo_eq_false hhead, hinfo]
      rfl
    rw [hschema, hdecode, privateKeyObject_eq_ok_iff hmaterial hstored,
      recoverable_softwarePrivate hmaterial, restored_softwarePrivate hmaterial]
    constructor
    · rintro ⟨hshallow, hclass, htype, publicKey, hkey, rfl⟩
      refine ⟨⟨hshallow, hclass, htype, publicKey, hkey⟩, ?_⟩
      rw [hkey]
      rfl
    · rintro ⟨⟨hshallow, hclass, htype, publicKey, hkey⟩, rfl⟩
      refine ⟨hshallow, hclass, htype, publicKey, hkey, ?_⟩
      rw [hkey]
      rfl
  · have hinfo : storedSecretKeyInfo record.2 = true := by
      obtain ⟨-, -, value, mechanisms, wrap, unwrap, derive, -, -, -, -, -, -, hfields⟩ :=
        encodeStoredSecretKeyInfo_ok hplaintext
      rw [hfields]
      exact storedSecretKeyInfo_secretKeyFields object wrap unwrap derive value
    have hdecode : decodePlaintext env slotId uniqueId secretRecordSchema record.2 =
        decodeStoredSecretKeyInfo slotId uniqueId record.2 := by
      unfold decodePlaintext
      rw [if_neg (by decide), if_pos rfl, hinfo]
      rfl
    grind [decodeStoredSecretKeyInfo_eq_ok_iff, restored_softwareSecret, Recoverable]
  · have hdecode : decodePlaintext env slotId uniqueId dataRecordSchema record.2 = .ok decoded ↔
        decodeDataObject env.objects slotId true uniqueId record.2 = .ok decoded := by
      unfold decodePlaintext
      rw [if_pos rfl, bind_eq_ok]
      constructor
      · grind
      · intro h
        refine ⟨decoded, h, guard_eq_ok.mpr ⟨?_, rfl⟩⟩
        rw [((decodeDataObject_eq_ok_iff hplaintext hlen).mp h).2]
        simpa [storedDataObject] using hprivate
    obtain ⟨contents, hcontents, -⟩ := bind_eq_ok.mp hplaintext
    rw [hschema, hdecode, decodeDataObject_eq_ok_iff hplaintext hlen,
      restored_of_dataContents hcontents, Recoverable]
    rcases dataContents_ok hcontents with ⟨-, hmaterial⟩ | ⟨-, -, -, hmaterial⟩
    · rw [hmaterial]
    · rw [hmaterial]

end Pkcs11rs.Analysis
