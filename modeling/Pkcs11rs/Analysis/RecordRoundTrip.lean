import Pkcs11rs.Analysis.AttributeFrames
import Pkcs11rs.Analysis.StoredRecords
import Pkcs11rs.Library.CborItems
import Pkcs11rs.Model.RecordStore

/-!
# The attributes of a stored object

An object that `put_object` accepts is given back with the attributes that it had, unless

* it names a FIDO relying party, which no record stores;
* it is a private key with `CKA_WRAP` or `CKA_UNWRAP`: the record of a private key has no field for
  these flags.  `CKA_UNWRAP` is read back as false, and `CKA_WRAP`, which is not an attribute of a private
  key, is missed in the mechanisms that the key allows;
* it is a private key that caches a public key which is not the one of its material.

`stored_attributes_iff` says that these are all the exceptions.
-/

set_option autoImplicit false

namespace Pkcs11rs.Analysis

open Pkcs11rs.Library Pkcs11rs.Model TokenObject

variable {name masterKey : Bytes} {random : Option Nonce} {type : AttributeType}
  {contents : DataContents} {encoded : Bytes} {ioError : Option Rv} {records : Records}
  {stored : TokenObject} {reference : ContentReference}

/-- The two objects agree on every PKCS #11 attribute but `CKA_UNIQUE_ID`, which the token gives
out, on what their usage flags enable, and on their key bytes. -/
structure SameAttributes (env : ObjectEnv) (a b : TokenObject) : Prop where
  value : ∀ type, type ≠ Cka.uniqueId → a.attributeValue env type = b.attributeValue env type
  usage : a.usage = b.usage
  sensitive : ∀ type, a.attributeIsSensitive type = b.attributeIsSensitive type
  policy : ∀ type, b.supportsAttribute type = true → a.policyTemplate type = b.policyTemplate type
  material : a.material = b.material

/-- The public key that the object caches shows nothing but the public key of its material. -/
def CachedKeyAgrees (env : ObjectEnv) (object : TokenObject) : Prop :=
  ∀ type, object.attributeValue env type =
    ({ object with publicKey := none } : TokenObject).attributeValue env type

/-- The objects that keep their attributes in a record. -/
def KeepsAttributes (env : ObjectEnv) (object : TokenObject) : Prop :=
  object.rpId = none ∧ ∀ key, object.material = .softwarePrivate key →
    object.wrap = false ∧ object.unwrap = false ∧ CachedKeyAgrees env object

variable {env : ObjectEnv} {object : TokenObject} {slotId : Ulong} {uniqueId : String}

/-! ## Private keys -/

/-- Wrapping is a matter of the flag. -/
theorem canWrap_of_inModule (h : InModule object.material) : object.canWrap = object.wrap := by
  unfold canWrap
  split
  · rename_i hmaterial
    rw [hmaterial] at h
    exact h.elim
  · simp

/-- Unwrapping is a matter of the flag. -/
theorem canUnwrap_of_inModule (h : InModule object.material) : object.canUnwrap = object.unwrap := by
  unfold canUnwrap
  split
  · rename_i hmaterial
    rw [hmaterial] at h
    exact h.elim
  · simp

/-- The flags that a stored private key is without. -/
theorem usage_storedPrivateKey_iff {publicKey : Option PublicKeyMaterial}
    (hmodule : InModule object.material) (hclass : object.class_ = Cko.privateKey) :
    (storedPrivateKey slotId uniqueId object publicKey).usage = object.usage ↔
      object.wrap = false ∧ object.unwrap = false := by
  have hmodule' : InModule (storedPrivateKey slotId uniqueId object publicKey).material := hmodule
  simp only [usage, canWrap_of_inModule hmodule, canUnwrap_of_inModule hmodule,
    canWrap_of_inModule hmodule', canUnwrap_of_inModule hmodule']
  simp [storedPrivateKey, hclass]

/-- What a private key reports after it was stored. -/
theorem attributeValue_storedPrivateKey {key : SoftwarePrivateKey} {publicKey : PublicKeyMaterial}
    {type : AttributeType} (htoken : object.token = true)
    (hmaterial : object.material = .softwarePrivate key) (hkey : key.publicKey = .ok publicKey)
    (hwrap : object.wrap = false) (hunwrap : object.unwrap = false) (hrp : object.rpId = none)
    (huid : type ≠ Cka.uniqueId) :
    (storedPrivateKey slotId uniqueId object (some publicKey)).attributeValue env type =
      ({ object with publicKey := none } : TokenObject).attributeValue env type := by
  have hstored : storedPrivateKey slotId uniqueId object (some publicKey) =
      { object with
        slotId := some slotId, uniqueId := uniqueId, creatorSession := none,
        publicKey := some publicKey } := by
    simp only [storedPrivateKey, htoken, hwrap, hunwrap, hrp]
  have hprojected : ({ object with publicKey := some publicKey } : TokenObject).projectedPublicKey env =
      ({ object with publicKey := none } : TokenObject).projectedPublicKey env := by
    simp only [projectedPublicKey, hmaterial, hkey]
  rw [hstored]
  calc
    _ = _ := @attributeValue_uniqueId env { object with
          slotId := some slotId, creatorSession := none,
          publicKey := some publicKey } type uniqueId huid
    _ = ({ object with publicKey := some publicKey } : TokenObject).attributeValue env type := rfl
    _ = _ := @attributeValue_publicKey env { object with publicKey := none } type (some publicKey)
          hprojected

/-! ## Secret keys -/

/-- A table of attributes is checked entry by entry, not over all the types there are. -/
theorem forall_mem_of_all {table : List AttributeType} {P : AttributeType → Prop} [DecidablePred P]
    (h : (table.all fun type => decide (P type)) = true) : ∀ type ∈ table, P type :=
  fun type hmem => of_decide_eq_true (List.all_eq_true.mp h type hmem)

/-- What secret keys do not have. -/
theorem supportsAttribute_secretKey (hmaterial : InModule object.material)
    (hclass : object.class_ = Cko.secretKey) :
    ∀ type ∈ Cka.encapsulate :: Cka.decapsulate :: publicKeyParts,
      object.supportsAttribute type = false := by
  have htables : ∀ type ∈ Cka.encapsulate :: Cka.decapsulate :: publicKeyParts,
      type ∉ commonStorageAttributes ∧
        type ∉ commonKeyAttributes ++ commonSecretKeyAttributes ++ [Cka.value] ∧
        type ≠ Cka.pkcs11rsUri ∧ type ≠ Cka.pkcs11rsFidoRpId ∧ type ≠ Cka.verifyRecover :=
    forall_mem_of_all (by decide)
  intro type htype
  grind [standardAttributes_secretKey, supportsAttribute_eq_false]

/-- What a secret key reports after it was stored. -/
theorem attributeValue_storedSecretKey (htoken : object.token = true)
    (hmaterial : InModule object.material) (hclass : object.class_ = Cko.secretKey)
    (hrp : object.rpId = none) (huid : type ≠ Cka.uniqueId) :
    (storedSecretKey slotId uniqueId object).attributeValue env type =
      object.attributeValue env type := by
  have hunsupported := supportsAttribute_secretKey hmaterial hclass
  have hstored : storedSecretKey slotId uniqueId object =
      { object with
        slotId := some slotId, uniqueId := uniqueId, encapsulate := false, decapsulate := false,
        creatorSession := none, publicKey := none } := by
    simp only [storedSecretKey, htoken, hrp]
  rw [hstored]
  calc
    _ = _ := @attributeValue_uniqueId env { object with
          slotId := some slotId, encapsulate := false, decapsulate := false,
          creatorSession := none, publicKey := none } type uniqueId huid
    _ = _ := @attributeValue_kem env { object with
            slotId := some slotId, creatorSession := none, publicKey := none } type false false
          (hunsupported _ (by decide)) (hunsupported _ (by decide))
    _ = ({ object with publicKey := none } : TokenObject).attributeValue env type := rfl
    _ = object.attributeValue env type := by
        refine @attributeValue_publicKey_of_class env object type none ?_ ?_ fun part hpart => ?_
        · rw [hclass]
          decide
        · rw [hclass]
          decide
        · exact hunsupported part (List.mem_cons_of_mem _ (List.mem_cons_of_mem _ hpart))

/-! ## Data objects and certificates -/

/-- What a data object or a certificate reports after it was stored. -/
theorem attributeValue_storedDataObject (htoken : object.token = true)
    (hcontents : dataContents object = .ok contents) (hrp : object.rpId = none)
    (huid : type ≠ Cka.uniqueId) :
    (storedDataObject slotId uniqueId true object).attributeValue env type =
      object.attributeValue env type := by
  have hclass := dataContents_class hcontents
  have hmaterial : InModule object.material ∧ ∀ m, object.material ≠ .external m := by
    rcases dataContents_ok hcontents with ⟨-, hmaterial⟩ | ⟨-, -, -, hmaterial⟩
    · rw [hmaterial]
      exact ⟨trivial, fun m h => by cases h⟩
    · rw [hmaterial]
      exact ⟨trivial, fun m h => by cases h⟩
  have htables : ∀ part ∈ publicKeyParts, part ∉ commonStorageAttributes ∧
      part ∉ [Cka.application, Cka.objectId, Cka.value] ∧ part ∉ x509CertificateAttributes ∧
        part ≠ Cka.pkcs11rsUri ∧ part ≠ Cka.pkcs11rsFidoRpId ∧ part ≠ Cka.verifyRecover :=
    forall_mem_of_all (by decide)
  have hparts : ∀ part ∈ publicKeyParts, object.supportsAttribute part = false := by
    grind [supportsAttribute_eq_false, standardAttributes_data, standardAttributes_certificate]
  have hkey : object.isKeyObject = false ∧ object.hasSensitiveAttributes = false := by
    grind [isKeyObject, hasSensitiveAttributes]
  exact attributeValue_of_not_key rfl hkey.1 hkey.2 rfl hmaterial.2 rfl rfl htoken.symm rfl
    hrp.symm hparts huid

/-! ## Which objects keep their attributes -/

/-- The relying party. -/
theorem attributeValue_fidoRpId (h : InModule object.material) :
    object.attributeValue env Cka.pkcs11rsFidoRpId = object.rpId.map utf8 := by
  have hvendor : object.supportsVendorAttribute Cka.pkcs11rsFidoRpId = object.rpId.isSome := by
    rfl
  have hvalue : object.supportedValue env Cka.pkcs11rsFidoRpId = object.rpId.map utf8 := rfl
  unfold attributeValue
  rw [isOath_of_inModule h, hvalue]
  cases hrp : object.rpId with
  | none => simp
  | some rpId => simp [supportsAttribute, isOath_of_inModule h, hvendor, hrp]

/-- No record names a relying party. -/
theorem SameAttributes.rpId {a b : TokenObject} (hsame : SameAttributes env a b)
    (hmodule : InModule b.material) (hnone : a.rpId = none) : b.rpId = none := by
  have hmodule' : InModule a.material := hsame.material ▸ hmodule
  have hvalue := hsame.value Cka.pkcs11rsFidoRpId (by decide)
  grind [attributeValue_fidoRpId, Option.map_eq_none_iff]

/-- When a private key comes back the same. -/
theorem sameAttributes_storedPrivateKey_iff {key : SoftwarePrivateKey}
    {publicKey : PublicKeyMaterial} (htoken : object.token = true)
    (hclass : object.class_ = Cko.privateKey) (hmaterial : object.material = .softwarePrivate key)
    (hkey : key.publicKey = .ok publicKey) :
    SameAttributes env (storedPrivateKey slotId uniqueId object (some publicKey)) object ↔
      object.rpId = none ∧ object.wrap = false ∧ object.unwrap = false ∧
        CachedKeyAgrees env object := by
  have hmodule : InModule object.material := by
    rw [hmaterial]
    trivial
  have hvalue := fun type => @attributeValue_storedPrivateKey env object slotId uniqueId key
    publicKey type htoken hmaterial hkey
  constructor
  · intro hsame
    have hrp := hsame.rpId hmodule rfl
    obtain ⟨hwrap, hunwrap⟩ := (usage_storedPrivateKey_iff hmodule hclass).mp hsame.usage
    refine ⟨hrp, hwrap, hunwrap, fun type => ?_⟩
    by_cases huid : type = Cka.uniqueId
    · subst huid
      rfl
    · rw [← hvalue type hwrap hunwrap hrp huid]
      exact (hsame.value type huid).symm
  · rintro ⟨hrp, hwrap, hunwrap, hcached⟩
    refine ⟨fun type huid => ?_, (usage_storedPrivateKey_iff hmodule hclass).mpr ⟨hwrap, hunwrap⟩,
      fun type => ?_, fun type _ => rfl, rfl⟩
    · rw [hvalue type hwrap hunwrap hrp huid, hcached type]
    · have hsupports : (storedPrivateKey slotId uniqueId object
          (some publicKey)).supportsAttribute type = object.supportsAttribute type :=
        supportsAttribute_congr rfl (.inl rfl) rfl hrp.symm
      rw [attributeIsSensitive, attributeIsSensitive, hsupports]
      rfl

/-- When a secret key comes back the same. -/
theorem sameAttributes_storedSecretKey_iff {value : Bytes} (htoken : object.token = true)
    (hclass : object.class_ = Cko.secretKey) (hmaterial : object.material = .softwareSecret value) :
    SameAttributes env (storedSecretKey slotId uniqueId object) object ↔ object.rpId = none := by
  have hmodule : InModule object.material := by
    rw [hmaterial]
    trivial
  constructor
  · intro hsame
    exact hsame.rpId hmodule rfl
  · intro hrp
    have husage : (storedSecretKey slotId uniqueId object).usage = object.usage := by
      have hpublic : ¬ (Cko.secretKey = Cko.publicKey ∨ Cko.secretKey = Cko.privateKey) := by decide
      rw [not_or] at hpublic
      simp only [usage, storedSecretKey, hclass, hpublic.1, hpublic.2, decide_false, Bool.and_false]
      rfl
    refine ⟨fun type huid => attributeValue_storedSecretKey htoken hmodule hclass hrp huid, husage,
      fun type => ?_, fun type _ => rfl, rfl⟩
    have hsupports : (storedSecretKey slotId uniqueId object).supportsAttribute type =
        object.supportsAttribute type := supportsAttribute_congr rfl (.inl rfl) rfl hrp.symm
    rw [attributeIsSensitive, attributeIsSensitive, hsupports]
    rfl

/-- Only keys have sensitive attributes. -/
theorem attributeIsSensitive_of_not_key (hmodule : InModule object.material)
    (hprivate : object.class_ ≠ Cko.privateKey) (hsecret : object.class_ ≠ Cko.secretKey)
    (type : AttributeType) : object.attributeIsSensitive type = false := by
  simp [attributeIsSensitive, isOath_of_inModule hmodule, hprivate, hsecret]

/-- When a data object comes back the same. -/
theorem sameAttributes_storedDataObject_iff (htoken : object.token = true)
    (hcontents : dataContents object = .ok contents) :
    SameAttributes env (storedDataObject slotId uniqueId true object) object ↔
      object.rpId = none := by
  have hmodule : InModule object.material := by
    rcases dataContents_ok hcontents with ⟨-, hmaterial⟩ | ⟨-, -, -, hmaterial⟩
    · rw [hmaterial]
      trivial
    · rw [hmaterial]
      trivial
  have hpublic : object.class_ ≠ Cko.publicKey := by
    rcases dataContents_class hcontents with hclass | hclass <;> rw [hclass] <;> decide
  have hclass : object.class_ ≠ Cko.privateKey ∧ object.class_ ≠ Cko.secretKey ∧
      ∀ type ∈ [Cka.wrapTemplate, Cka.unwrapTemplate, Cka.deriveTemplate],
        type ∉ object.standardAttributes := by
    rcases dataContents_class hcontents with hclass | hclass
    · grind [standardAttributes_data]
    · rw [standardAttributes_certificate hclass, hclass]
      exact ⟨by decide, by decide, forall_mem_of_all (by decide)⟩
  constructor
  · intro hsame
    exact hsame.rpId hmodule rfl
  · intro hrp
    refine ⟨fun type huid => attributeValue_storedDataObject htoken hcontents hrp huid, ?_,
      fun type => ?_, fun type hsupported => ?_, rfl⟩
    · simp [usage, storedDataObject, hpublic, hclass.1, hclass.2.1]
    · rw [attributeIsSensitive_of_not_key hmodule hclass.1 hclass.2.1,
        @attributeIsSensitive_of_not_key (storedDataObject slotId uniqueId true object) hmodule
          hclass.1 hclass.2.1]
    · have hnot : type ∉ [Cka.wrapTemplate, Cka.unwrapTemplate, Cka.deriveTemplate] := by
        intro htype
        have htables : ∀ type ∈ [Cka.wrapTemplate, Cka.unwrapTemplate, Cka.deriveTemplate],
            type ∉ commonStorageAttributes ∧ type ≠ Cka.pkcs11rsUri ∧
              type ≠ Cka.pkcs11rsFidoRpId ∧ type ≠ Cka.verifyRecover :=
          forall_mem_of_all (by decide)
        obtain ⟨hcommon, huri, hfido, hrecover⟩ := htables type htype
        rw [supportsAttribute_eq_false hmodule hcommon (hclass.2.2 type htype) huri hfido hrecover]
          at hsupported
        cases hsupported
      grind [policyTemplate]

section Codec

variable [CborCodec]

/-- **Which objects keep their attributes in a record.** -/
theorem sameAttributes_restored_iff {env : RecordEnv} (haead : AeadLaws env)
    (hencode : encodeRecord env name masterKey random object = .ok encoded)
    (hrecoverable : Recoverable env.objects object) :
    SameAttributes env.objects (restored slotId uniqueId object) object ↔
      KeepsAttributes env.objects object := by
  obtain ⟨htoken, record, hrecord, -⟩ := decodeRecord_encodeRecord haead hencode
  rcases recordPlaintext_ok hrecord with ⟨key, hmaterial, -⟩ | ⟨value, hmaterial, -, hplaintext⟩ |
    ⟨-, -, hplaintext⟩
  · obtain ⟨-, hclass, -, publicKey, hkey⟩ :=
      (recoverable_softwarePrivate hmaterial).mp hrecoverable
    have hkeeps : KeepsAttributes env.objects object ↔
        object.rpId = none ∧ object.wrap = false ∧ object.unwrap = false ∧
          CachedKeyAgrees env.objects object := by
      refine and_congr_right fun _ => ⟨fun h => h key hmaterial, fun h _ _ => h⟩
    rw [hkeeps, restored_softwarePrivate hmaterial, hkey]
    exact sameAttributes_storedPrivateKey_iff htoken hclass hmaterial hkey
  · grind [encodeStoredSecretKeyInfo_ok, KeepsAttributes, restored_softwareSecret,
      sameAttributes_storedSecretKey_iff]
  · obtain ⟨contents, hcontents, -⟩ := bind_eq_ok.mp hplaintext
    have hnot : ∀ key, object.material ≠ .softwarePrivate key := by
      intro key hkey
      rcases dataContents_ok hcontents with ⟨-, hmaterial⟩ | ⟨-, -, -, hmaterial⟩
      · cases hmaterial.symm.trans hkey
      · cases hmaterial.symm.trans hkey
    grind [KeepsAttributes, restored_of_dataContents, sameAttributes_storedDataObject_iff]

/-- What an accepted `put_object` says about the object. -/
theorem putObject_ok {env : StoreEnv}
    (h : (putObject env name slotId masterKey random ioError records object).1 =
      .ok (stored, reference)) :
    ∃ encoded, encodeRecord env.toRecordEnv name masterKey random object = .ok encoded ∧
      putRecord env ioError records encoded =
        .ok (reference, (putObject env name slotId masterKey random ioError records object).2) ∧
      decodeRecord env.toRecordEnv name slotId (recordUniqueId reference) masterKey encoded =
        .ok stored := by
  unfold putObject at h ⊢
  cases hencode : encodeRecord env.toRecordEnv name masterKey random object with
  | error error =>
    rw [hencode] at h
    cases h
  | ok encoded =>
    rw [hencode] at h
    cases hrecord : putRecord env ioError records encoded with
    | error error =>
      simp only [hrecord] at h
      cases h
    | ok result => grind [map_eq_ok]

/-- `put_object`, by its three parts. -/
theorem putObject_eq {env : StoreEnv} {records' : Records}
    (hencode : encodeRecord env.toRecordEnv name masterKey random object = .ok encoded)
    (hrecord : putRecord env ioError records encoded = .ok (reference, records'))
    (hdecode : decodeRecord env.toRecordEnv name slotId (recordUniqueId reference) masterKey
      encoded = .ok stored) : putObject env name slotId masterKey random ioError records object =
      (.ok (stored, reference), records') := by
  simp only [putObject, hencode, hrecord, hdecode, Except.map]

/-- **The attributes of a stored object.**  The record of an object that `put_object` accepts
gives it back with its attributes exactly if the object keeps them. -/
theorem stored_attributes_iff {env : StoreEnv} {name masterKey : Bytes} {random : Option Nonce}
    {ioError : Option Rv} {records : Records} {object stored : TokenObject}
    {reference : ContentReference} {slotId : Ulong} {uniqueId : String} {encoded : Bytes}
    (haead : AeadLaws env.toRecordEnv) (hder : DerLaws env.der)
    (hcore : ∀ key, object.material = .softwarePrivate key → KeyCoreLaws env.core env.der key)
    (hput : (putObject env name slotId masterKey random ioError records object).1 =
      .ok (stored, reference))
    (hencode : encodeRecord env.toRecordEnv name masterKey random object = .ok encoded) :
    (∃ decoded, decodeRecord env.toRecordEnv name slotId uniqueId masterKey encoded = .ok decoded ∧
      SameAttributes env.objects decoded object) ↔ KeepsAttributes env.objects object := by
  obtain ⟨encoded', hencode', -, hdecode⟩ := putObject_ok hput
  cases hencode.symm.trans hencode'
  obtain ⟨hrecoverable, -⟩ := (decodeRecord_eq_ok_iff haead hder hcore hencode).mp hdecode
  rw [← sameAttributes_restored_iff haead hencode hrecoverable]
  constructor
  · rintro ⟨decoded, hdecoded, hsame⟩
    obtain ⟨-, rfl⟩ := (decodeRecord_eq_ok_iff haead hder hcore hencode).mp hdecoded
    exact hsame
  · grind [decodeRecord_eq_ok_iff]

end Codec

/-! ## An instance -/

/-- An Ed25519 key. -/
def sampleKey : SoftwarePrivateKey where
  kind := .edwards
  publicKey := .ok (.ec [] [2])
  privateValue := some [1]
  seed := none
  rsaPrivateComponents := none

/-- The algorithm and the private key in the encoding of `sampleKey`. -/
def sampleKeyInfo : PrivateKeyInfo := ⟨⟨.edwards .ed25519, none⟩, [4, 1, 1]⟩

/-- A codec for `sampleKey` with an empty identifier and no friendly name. -/
def sampleDer : DerCodec where
  lengthMax := 2 ^ 32 - 1
  setOfAttributes := some
  octetStringToDer := fun value => some (0x04 :: value)
  octetStringFromDer := fun encoded => some encoded.tail
  ecPrivateKeyToDer := fun _ => none
  ecPrivateKeyFromDer := fun _ => none
  privateKeyInfoToDer := fun _ => none
  privateKeyInfoFromDer := fun _ => some sampleKeyInfo
  storedPrivateKeyInfoToDer := fun info =>
    match info with
    | ⟨version, algorithm, privateKey,
        some [⟨.localKeyId, [.octetString []]⟩,
          ⟨.pkcs11rsAttributes, [.octetString metadata]⟩]⟩ =>
        if version = 0 ∧ (⟨algorithm, privateKey⟩ : PrivateKeyInfo) = sampleKeyInfo then
          some (0x30 :: metadata)
        else none
    | _ => none
  storedPrivateKeyInfoFromDer := fun encoded =>
    some ⟨0, sampleKeyInfo.algorithm, sampleKeyInfo.privateKey,
      some (pkcs8Attributes "" [] encoded.tail)⟩

def sampleCore : KeyCore where
  weierstrassCurve := fun _ => none
  montgomeryCurve := fun _ => .x25519
  serialized := fun _ => []
  toPkcs1Der := fun _ => none
  toPkcs8Der := fun _ => some [0x30]
  restoreRsaPkcs1 := fun _ => none
  fromPkcs8Der := fun _ _ => some sampleKey
  fromSeedSlice := fun _ _ => none
  ecFromSerialized := fun _ _ => none
  montgomeryFromSerialized := fun _ _ => none

def sampleObjectEnv : ObjectEnv where
  certificateSubject := fun _ => .error .dataInvalid
  certificateIssuer := fun _ => .error .dataInvalid
  certificateSerialNumber := fun _ => .error .dataInvalid
  certificatePublicKeyInfo := fun _ => .error .dataInvalid
  sha1 := fun _ => []
  edwardsCurveParameters := fun _ => none
  montgomeryCurveParameters := fun _ => none
  mlDsaPublicKeyInfo := fun _ _ => none
  mlKemPublicKeyInfo := fun _ _ => none
  hybridPublicKeyLength := fun _ => 0
  externalPublicKey := fun _ => .error .dataInvalid
  externalValue := fun _ _ _ _ => none

def sampleStoreEnv : StoreEnv where
  objects := sampleObjectEnv
  core := sampleCore
  der := sampleDer
  encrypt := fun _ _ _ plaintext =>
    if plaintext.length ≤ 2 ^ 36 then .ok (plaintext ++ List.replicate tagLength 0)
    else .error .deviceError
  decrypt := fun _ _ _ ciphertext => .ok (ciphertext.take (ciphertext.length - tagLength))
  digest := fun _ => [1]
  isCborObject := fun _ => true

/-- The encryption of the example. -/
theorem aeadLaws_sampleStoreEnv : AeadLaws sampleStoreEnv.toRecordEnv := by
  have hencrypt : ∀ {key nonce aad plaintext ciphertext},
      sampleStoreEnv.encrypt key nonce aad plaintext = .ok ciphertext →
        plaintext.length ≤ 2 ^ 36 ∧ ciphertext = plaintext ++ List.replicate tagLength 0 := by
    intro key nonce aad plaintext ciphertext h
    obtain ⟨hle, h⟩ := require_eq_ok.mp h
    cases h
    exact ⟨hle, rfl⟩
  refine ⟨fun h => ?_, fun h => ?_, fun h => (hencrypt h).1⟩
  · rw [(hencrypt h).2]
    simp [sampleStoreEnv]
  · rw [(hencrypt h).2]
    simp

/-- The DER codec of the example. -/
theorem derLaws_sampleDer : DerLaws sampleDer := by
  have hstored : ∀ {info encoded}, sampleDer.storedPrivateKeyInfoToDer info = some encoded →
      ∃ metadata, encoded = 0x30 :: metadata ∧
        info = ⟨0, sampleKeyInfo.algorithm, sampleKeyInfo.privateKey,
          some (pkcs8Attributes "" [] metadata)⟩ := by
    intro info encoded h
    unfold sampleDer at h
    dsimp only at h
    split at h
    · rename_i version algorithm privateKey metadata
      split_ifs at h with hinfo
      cases h
      obtain ⟨rfl, hkey⟩ := hinfo
      cases hkey
      exact ⟨metadata, rfl, rfl⟩
    · cases h
  refine ⟨by decide, fun h => ?_, fun h => ?_, nofun, nofun, fun h => ?_, fun h => ?_,
    fun h _ => ?_⟩
  · cases h
    exact List.Perm.refl _
  · cases h
    rfl
  · obtain ⟨metadata, rfl, rfl⟩ := hstored h
    rfl
  · obtain ⟨metadata, rfl, rfl⟩ := hstored h
    rfl
  · obtain ⟨metadata, rfl, rfl⟩ := hstored h
    rfl

/-- The key of the example. -/
theorem keyCoreLaws_sampleKey : KeyCoreLaws sampleCore sampleDer sampleKey := by
  refine ⟨nofun, nofun, nofun, nofun, fun _ _ hinfo => ?_⟩
  cases hinfo
  exact ⟨trivial, rfl, ⟨_, rfl⟩, fun _ _ => rfl⟩

/-- The private key object of `sampleKey`. -/
def sampleObject (unwrap : Bool) : TokenObject where
  slotId := none
  uniqueId := ""
  class_ := Cko.privateKey
  keyType := Ckk.ecEdwards
  label := ""
  id := []
  token := true
  isPrivate := true
  extractable := true
  material := .softwarePrivate sampleKey
  unwrap := unwrap

/-- The key of the object of the example. -/
theorem keyCoreLaws_sampleObject {unwrap : Bool} (key : SoftwarePrivateKey)
    (h : (sampleObject unwrap).material = .softwarePrivate key) :
    KeyCoreLaws sampleStoreEnv.core sampleStoreEnv.der key := by
  cases h
  exact keyCoreLaws_sampleKey

/-- The object of the example can be read back. -/
theorem recoverable_sampleObject (unwrap : Bool) :
    Recoverable sampleObjectEnv (sampleObject unwrap) :=
  ⟨⟨nofun, nofun, nofun⟩, rfl, rfl, _, rfl⟩

def sampleNonce : Nonce := ⟨List.replicate 12 0, rfl⟩

/-- The record of the sample object. -/
def sampleRecord (unwrap : Bool) : Bytes :=
  (encodeRecord sampleStoreEnv.toRecordEnv [] [] (some sampleNonce)
    (sampleObject unwrap)).toOption.getD []

/-- Its record. -/
theorem encodeRecord_sampleObject (name masterKey : Bytes) (unwrap : Bool) :
    encodeRecord sampleStoreEnv.toRecordEnv name masterKey (some sampleNonce)
      (sampleObject unwrap) = .ok (sampleRecord unwrap) := by
  cases unwrap <;> rfl

/-- It is stored. -/
theorem putObject_sampleObject (unwrap : Bool) :
    (putObject sampleStoreEnv [] 0 [] (some sampleNonce) none [] (sampleObject unwrap)).1 =
      .ok (restored 0 (recordUniqueId [1]) (sampleObject unwrap), [1]) := by
  have hdecode : decodeRecord sampleStoreEnv.toRecordEnv [] 0 (recordUniqueId [1]) []
      (sampleRecord unwrap) = .ok (restored 0 (recordUniqueId [1]) (sampleObject unwrap)) :=
    (decodeRecord_eq_ok_iff aeadLaws_sampleStoreEnv derLaws_sampleDer keyCoreLaws_sampleObject
      (encodeRecord_sampleObject [] [] unwrap)).mpr ⟨recoverable_sampleObject unwrap, rfl⟩
  rw [putObject_eq (encodeRecord_sampleObject [] [] unwrap) rfl hdecode]

/-- Without `CKA_UNWRAP` it meets the condition. -/
theorem keepsAttributes_sampleObject : KeepsAttributes sampleObjectEnv (sampleObject false) :=
  ⟨rfl, fun _ _ => ⟨rfl, rfl, fun _ => rfl⟩⟩

/-- It comes back the same. -/
theorem stored_attributes_sampleObject :
    ∃ decoded, decodeRecord sampleStoreEnv.toRecordEnv [] 0 "" [] (sampleRecord false) =
      .ok decoded ∧ SameAttributes sampleObjectEnv decoded (sampleObject false) :=
  (stored_attributes_iff aeadLaws_sampleStoreEnv derLaws_sampleDer keyCoreLaws_sampleObject
    (putObject_sampleObject false) (encodeRecord_sampleObject [] [] false)).mpr
      keepsAttributes_sampleObject

/-- A private key with `CKA_UNWRAP` is accepted and comes back without it. -/
theorem stored_privateKey_loses_unwrap :
    (putObject sampleStoreEnv [] 0 [] (some sampleNonce) none [] (sampleObject true)).1 =
        .ok (restored 0 (recordUniqueId [1]) (sampleObject true), [1]) ∧
      decodeRecord sampleStoreEnv.toRecordEnv [] 0 "" [] (sampleRecord true) =
        .ok (restored 0 "" (sampleObject true)) ∧
      (sampleObject true).attributeValue sampleObjectEnv Cka.unwrap = some [1] ∧
      (restored 0 "" (sampleObject true)).attributeValue sampleObjectEnv Cka.unwrap = some [0] :=
  ⟨putObject_sampleObject true,
    (decodeRecord_eq_ok_iff aeadLaws_sampleStoreEnv derLaws_sampleDer keyCoreLaws_sampleObject
      (encodeRecord_sampleObject [] [] true)).mpr ⟨recoverable_sampleObject true, rfl⟩, by decide,
    by decide⟩

end Pkcs11rs.Analysis
