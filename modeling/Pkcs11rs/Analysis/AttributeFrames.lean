import Pkcs11rs.Model.ObjectAttributes

/-!
# Which fields an attribute depends on

`attribute_value` as a function of the fields of an object: a field that is changed shows in no
attribute but its own.
-/

set_option autoImplicit false

namespace Pkcs11rs.Analysis

open Pkcs11rs.Library Pkcs11rs.Model TokenObject

variable {env : ObjectEnv} {object : TokenObject} {type : AttributeType}
  {publicKey : Option PublicKeyMaterial}

/-- Two objects report the same value if they support the same attributes and have the same
supported values. -/
theorem attributeValue_congr {a b : TokenObject} (hoath : a.isOath = b.isOath)
    (hexternal : a.externalOnly env type = b.externalOnly env type)
    (hsupports : a.supportsAttribute type = b.supportsAttribute type)
    (hvalue : b.supportsAttribute type = true →
      a.supportedValue env type = b.supportedValue env type) :
    a.attributeValue env type = b.attributeValue env type := by grind [attributeValue]

/-- Only `CKA_UNIQUE_ID` reads the unique id. -/
theorem attributeValue_uniqueId (uniqueId : String) (h : type ≠ Cka.uniqueId) :
    ({ object with uniqueId := uniqueId } : TokenObject).attributeValue env type =
      object.attributeValue env type := by
  refine attributeValue_congr rfl rfl rfl fun _ => ?_
  simp only [supportedValue, if_neg h]
  rfl

/-- Unsupported KEM flags are not read. -/
theorem attributeValue_kem {encapsulate decapsulate : Bool}
    (h : object.supportsAttribute Cka.encapsulate = false)
    (h' : object.supportsAttribute Cka.decapsulate = false) :
    ({ object with encapsulate, decapsulate } : TokenObject).attributeValue env type =
      object.attributeValue env type := by
  refine attributeValue_congr rfl rfl rfl fun hsupported => ?_
  have hne : type ≠ Cka.encapsulate := fun heq => by simp [heq, h] at hsupported
  have hne' : type ≠ Cka.decapsulate := fun heq => by simp [heq, h'] at hsupported
  simp only [supportedValue, hne, hne', false_and, if_false]
  rfl

/-- The public key of an object is read through `projected_public_key`. -/
theorem attributeValue_publicKey
    (h : ({ object with publicKey := publicKey } : TokenObject).projectedPublicKey env =
      object.projectedPublicKey env) :
    ({ object with publicKey := publicKey } : TokenObject).attributeValue env type =
      object.attributeValue env type := by
  have hinfo : ({ object with publicKey := publicKey } : TokenObject).publicKeyInfo env =
      object.publicKeyInfo env := by
    rw [publicKeyInfo, publicKeyInfo, h]
  have hderive : ({ object with publicKey := publicKey } : TokenObject).allowsDerive env =
      object.allowsDerive env := by
    simp only [allowsDerive, supportsPublicProjection, hinfo]
  refine attributeValue_congr rfl rfl rfl fun _ => ?_
  unfold supportedValue
  rw [h, hinfo, hderive]
  rfl

/-- The attributes that are read from the public key alone. -/
def publicKeyParts : List AttributeType :=
  [Cka.modulus, Cka.publicExponent, Cka.modulusBits, Cka.ecParams, Cka.ecPoint,
    Cka.parameterSet]

/-- An object of another class does not show the public key that it caches. -/
theorem attributeValue_publicKey_of_class (hpublic : object.class_ ≠ Cko.publicKey)
    (hprivate : object.class_ ≠ Cko.privateKey)
    (hparts : ∀ part ∈ publicKeyParts, object.supportsAttribute part = false) :
    ({ object with publicKey := publicKey } : TokenObject).attributeValue env type =
      object.attributeValue env type := by
  have hinfo : ∀ key, ({ object with publicKey := key } : TokenObject).publicKeyInfo env = none := by
    intro key
    rw [publicKeyInfo, if_neg (not_or.mpr ⟨hpublic, hprivate⟩)]
  have hderive : ∀ key,
      ({ object with publicKey := key } : TokenObject).allowsDerive env = object.derive := by
    intro key
    simp [allowsDerive, supportsPublicProjection, hprivate]
  refine attributeValue_congr rfl rfl rfl fun hsupported => ?_
  have hne : type ∉ publicKeyParts := fun hmem => by simp [hparts type hmem] at hsupported
  simp only [publicKeyParts, List.mem_cons, List.not_mem_nil, or_false, not_or] at hne
  obtain ⟨hmodulus, hexponent, hbits, hparams, hpoint, hset⟩ := hne
  simp only [supportedValue, hmodulus, hexponent, hbits, hparams, hpoint, hset,
    false_and, if_false, hinfo, hderive]
  rfl

/-! ## Unsupported attributes -/

/-- The attributes of secret keys. -/
theorem standardAttributes_secretKey (h : object.class_ = Cko.secretKey) :
    object.standardAttributes = commonKeyAttributes ++ commonSecretKeyAttributes ++ [Cka.value] := by
  rw [standardAttributes, h]
  rfl

/-- The attributes of data objects. -/
theorem standardAttributes_data (h : object.class_ = Cko.data) :
    object.standardAttributes = [Cka.application, Cka.objectId, Cka.value] := by
  rw [standardAttributes, h]
  rfl

/-- The attributes of certificates. -/
theorem standardAttributes_certificate (h : object.class_ = Cko.certificate) :
    object.standardAttributes = x509CertificateAttributes := by
  rw [standardAttributes, h]
  rfl

/-- The materials that the records of a software token hold. -/
def InModule : KeyMaterial → Prop
  | .softwarePrivate _ => True
  | .softwareSecret _ => True
  | .data _ _ _ _ => True
  | .certificate _ _ => True
  | _ => False

section

variable (h : InModule object.material)

include h

/-- OATH keys are not in the module. -/
theorem isOath_of_inModule : object.isOath = false := by
  unfold isOath
  split
  · rename_i hmaterial
    rw [hmaterial] at h
    exact h.elim
  · rfl

/-- The vendor attributes of an object in the module. -/
theorem supportsVendorAttribute_of_inModule (huri : type ≠ Cka.pkcs11rsUri) :
    object.supportsVendorAttribute type = (decide (type = Cka.pkcs11rsFidoRpId) && object.rpId.isSome) := by
  unfold supportsVendorAttribute
  rw [if_neg huri]
  by_cases hrp : type = Cka.pkcs11rsFidoRpId
  · simp [hrp]
  · cases hmaterial : object.material with
    | softwarePrivate | softwareSecret | data | certificate => simp [hrp]
    | _ =>
      rw [hmaterial] at h
      exact h.elim

/-- An attribute outside the tables of its class is not supported. -/
theorem supportsAttribute_eq_false (hcommon : type ∉ commonStorageAttributes)
    (hstandard : type ∉ object.standardAttributes) (huri : type ≠ Cka.pkcs11rsUri)
    (hrp : type ≠ Cka.pkcs11rsFidoRpId) (hrecover : type ≠ Cka.verifyRecover) :
    object.supportsAttribute type = false := by
  have hvendor := supportsVendorAttribute_of_inModule h huri
  simp [supportsAttribute, isOath_of_inModule h, hcommon, hstandard, hvendor, hrp,
    supportsCompatibilityAttribute, hrecover]

end

/-- The attributes that an object has whether or not it is a key, which its class decides. -/
theorem supportsAttribute_congr {a b : TokenObject} (hclass : a.class_ = b.class_)
    (htype : a.keyType = b.keyType ∨ a.isKeyObject = false) (hmaterial : a.material = b.material)
    (hrp : a.rpId = b.rpId) : a.supportsAttribute type = b.supportsAttribute type := by
  have hoath : a.isOath = b.isOath := by rw [isOath, isOath, hmaterial]
  have hvendor : a.supportsVendorAttribute type = b.supportsVendorAttribute type := by
    rw [supportsVendorAttribute, supportsVendorAttribute, hmaterial, hrp]
  have hcompat : a.supportsCompatibilityAttribute type = b.supportsCompatibilityAttribute type := by
    rw [supportsCompatibilityAttribute, supportsCompatibilityAttribute, hclass]
  have hstandard : a.standardAttributes = b.standardAttributes := by
    grind [standardAttributes, isKeyObject]
  unfold supportsAttribute
  rw [hoath, hvendor, hcompat, hstandard]

/-- What an object reports that is neither a key nor held outside the module. -/
theorem attributeValue_of_not_key {a b : TokenObject} (hclass : a.class_ = b.class_)
    (hkey : b.isKeyObject = false) (hsensitive : b.hasSensitiveAttributes = false)
    (hmaterial : a.material = b.material) (hexternal : ∀ m, b.material ≠ .external m)
    (hlabel : a.label = b.label) (hid : a.id = b.id) (htoken : a.token = b.token)
    (hprivate : a.isPrivate = b.isPrivate) (hrp : a.rpId = b.rpId)
    (hparts : ∀ part ∈ publicKeyParts, b.supportsAttribute part = false)
    (huid : type ≠ Cka.uniqueId) : a.attributeValue env type = b.attributeValue env type := by
  have hkey' : a.isKeyObject = false := by
    rw [← hkey, isKeyObject, isKeyObject, hclass]
  have hsensitive' : a.hasSensitiveAttributes = false := by
    rw [← hsensitive, hasSensitiveAttributes, hasSensitiveAttributes, hclass]
  have hoath : a.isOath = b.isOath := by rw [isOath, isOath, hmaterial]
  have hnone : ∀ o : TokenObject, o.material = b.material → ∀ t, o.externalOnly env t = none := by
    grind [externalOnly]
  have hvalue : ∀ t, a.materialValue env t = b.materialValue env t := by
    intro t
    unfold materialValue
    rw [hmaterial]
    split
    case h_9 m hm => exact absurd hm (hexternal m)
    all_goals rfl
  have himmutable : a.isImmutableObject = b.isImmutableObject := by
    rw [isImmutableObject, isImmutableObject, hmaterial]
  have hheld : a.isYubihsmHeld = b.isYubihsmHeld := by
    rw [isYubihsmHeld, isYubihsmHeld, hmaterial]
  have hdestroyable : a.isDestroyableMaterial = b.isDestroyableMaterial := by
    rw [isDestroyableMaterial, isDestroyableMaterial, hmaterial]
  have hclasses := hkey
  simp only [isKeyObject, decide_eq_false_iff_not, not_or] at hclasses
  refine attributeValue_congr hoath (by rw [hnone a hmaterial, hnone b rfl])
    (supportsAttribute_congr hclass (.inr hkey') hmaterial hrp) fun hsupported => ?_
  have hne : type ∉ publicKeyParts := fun hmem => by simp [hparts type hmem] at hsupported
  simp only [publicKeyParts, List.mem_cons, List.not_mem_nil, or_false, not_or] at hne
  simp [supportedValue, *]

end Pkcs11rs.Analysis
