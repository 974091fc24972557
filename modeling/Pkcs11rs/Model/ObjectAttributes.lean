import Mathlib.Data.UInt
import Pkcs11rs.Model.TokenObject

/-!
# The attributes of an object

Which attributes an object has, which of them are sensitive, and their values
(`object.rs:683-872`, `object.rs:1003-1140`, `object.rs:1203-1600`, `object.rs:1596-2225`).

`ObjectEnv` holds the functions of other crates that a value is computed with: the X.509
parser, the digest, the encodings of post-quantum keys and the curve tables.  What material
outside the module contributes to a value is a field of it too.
-/

set_option autoImplicit false

namespace Pkcs11rs.Model

open Pkcs11rs.Library

/-- The functions outside the modelled code that attribute values depend on. -/
structure ObjectEnv where
  /-- `certificate_chain::subject`, `issuer`, `serial_number` and `public_key_info`. -/
  certificateSubject : Bytes → Except Rv Bytes
  certificateIssuer : Bytes → Except Rv Bytes
  certificateSerialNumber : Bytes → Except Rv Bytes
  certificatePublicKeyInfo : Bytes → Except Rv Bytes
  sha1 : Bytes → Bytes
  edwardsCurveParameters : Bytes → Option Bytes
  montgomeryCurveParameters : Bytes → Option Bytes
  /-- `ml_dsa_public_key_info` of the key core, for the parameter sets 1 to 3. -/
  mlDsaPublicKeyInfo : Ulong → Bytes → Option Bytes
  /-- `ml_kem_public_key_info` of the key core, for the parameter sets 1 to 3. -/
  mlKemPublicKeyInfo : Ulong → Bytes → Option Bytes
  hybridPublicKeyLength : HybridKemConstruction → ℕ
  /-- `projected_public_key` of material outside the module. -/
  externalPublicKey : ExternalMaterial → Except Rv PublicKeyMaterial
  /-- The branches of `attribute_value` that read material outside the module. -/
  externalValue : ExternalMaterial → ObjectClass → KeyType → AttributeType → Option Bytes

/-! ## Public key information -/

def derTlv (tag : UInt8) (value : Bytes) : Bytes :=
  if value.length < 128 then tag :: UInt8.ofNat value.length :: value
  else
    tag :: UInt8.ofNat (0x80 + (beMinimal value.length).length) ::
      (beMinimal value.length ++ value)

def derInteger (magnitude : Bytes) : Bytes :=
  let magnitude := magnitude.dropWhile (· = 0)
  if magnitude = [] ∨ magnitude.head?.any (0x80 ≤ ·) then derTlv 0x02 (0 :: magnitude)
  else derTlv 0x02 magnitude

def derOctetString (value : Bytes) : Option Bytes :=
  if value.length < 128 then some (0x04 :: UInt8.ofNat value.length :: value)
  else if value.length ≤ 255 then some (0x04 :: 0x81 :: UInt8.ofNat value.length :: value)
  else none

def rsaPublicKeyInfo (modulus publicExponent : Bytes) : Option Bytes :=
  if modulus = [] ∨ publicExponent = [] then none
  else
    let publicKey := derTlv 0x30 (derInteger modulus ++ derInteger publicExponent)
    some (derTlv 0x30
      ([0x30, 0x0d, 0x06, 0x09, 0x2a, 0x86, 0x48, 0x86, 0xf7, 0x0d, 0x01, 0x01, 0x01, 0x05, 0x00]
        ++ derTlv 0x03 (0 :: publicKey)))

variable (env : ObjectEnv)

def ecPublicKeyInfo (keyType : KeyType) (parameters publicKey : Bytes) : Option Bytes :=
  if publicKey = [] then none
  else if keyType = Ckk.ec then
    some (derTlv 0x30
      (derTlv 0x30 ([0x06, 0x07, 0x2a, 0x86, 0x48, 0xce, 0x3d, 0x02, 0x01] ++ parameters) ++
        derTlv 0x03 (0 :: 0x04 :: publicKey)))
  else if keyType = Ckk.ecEdwards then
    (env.edwardsCurveParameters parameters).map fun curve =>
      derTlv 0x30 (derTlv 0x30 curve ++ derTlv 0x03 (0 :: publicKey))
  else if keyType = Ckk.ecMontgomery then
    (env.montgomeryCurveParameters parameters).map fun curve =>
      derTlv 0x30 (derTlv 0x30 curve ++ derTlv 0x03 (0 :: publicKey))
  else none

def mlDsaPublicKeyInfo (env : ObjectEnv) (parameterSet : Ulong) (publicKey : Bytes) :
    Option Bytes :=
  if parameterSet ∈ [1, 2, 3] then env.mlDsaPublicKeyInfo parameterSet publicKey else none

def mlKemPublicKeyInfo (env : ObjectEnv) (parameterSet : Ulong) (publicKey : Bytes) :
    Option Bytes :=
  if parameterSet ∈ [1, 2, 3] then env.mlKemPublicKeyInfo parameterSet publicKey else none

/-- The number that stands for a construction in object identifiers and stored keys. -/
def HybridKemConstruction.number : HybridKemConstruction → UInt8
  | .mlKem768P256 => 1
  | .mlKem768X25519 => 2
  | .mlKem1024P384 => 3

def hybridKemPublicKeyInfo (construction : HybridKemConstruction) (publicKey : Bytes) :
    Option Bytes :=
  if publicKey.length ≠ env.hybridPublicKeyLength construction then none
  else
    some (derTlv 0x30
      (derTlv 0x30 [0x06, 0x0a, 0x2b, 0x06, 0x01, 0x04, 0x01, 0x82, 0xc4, 0x0a, 0x0a,
          construction.number] ++
        derTlv 0x03 (0 :: publicKey)))

def publicKeyMaterialInfo (keyType : KeyType) : PublicKeyMaterial → Option Bytes
  | .rsa key => rsaPublicKeyInfo (beMinimal key.n) (beMinimal key.e)
  | .ec parameters publicKey => ecPublicKeyInfo env keyType parameters publicKey
  | .mlDsa parameterSet publicKey => mlDsaPublicKeyInfo env parameterSet publicKey
  | .mlKem parameterSet publicKey => mlKemPublicKeyInfo env parameterSet publicKey
  | .hybridKem construction publicKey => hybridKemPublicKeyInfo env construction publicKey

variable (object : TokenObject)

namespace TokenObject

def projectedPublicKey : Except Rv PublicKeyMaterial :=
  match object.publicKey with
  | some key => .ok key
  | none =>
    match object.material with
    | .pub key => .ok key
    | .softwarePrivate key => key.publicKey
    | .external material => env.externalPublicKey material
    | _ => .error .keyTypeInconsistent

def publicKeyInfo : Option Bytes :=
  if object.class_ = Cko.publicKey ∨ object.class_ = Cko.privateKey then
    match object.projectedPublicKey env with
    | .ok key => publicKeyMaterialInfo env object.keyType key
    | .error _ => none
  else none

def supportsPublicProjection : Bool :=
  object.class_ = Cko.privateKey ∧ (object.publicKeyInfo env).isSome

def allowsDerive : Bool :=
  object.derive || object.supportsPublicProjection env

end TokenObject

/-! ## Which attributes an object has -/

def commonStorageAttributes : List AttributeType :=
  [Cka.class_, Cka.token, Cka.private_, Cka.modifiable, Cka.label, Cka.copyable,
    Cka.destroyable, Cka.uniqueId]

def commonKeyAttributes : List AttributeType :=
  [Cka.keyType, Cka.id, Cka.startDate, Cka.endDate, Cka.derive, Cka.local_,
    Cka.keyGenMechanism, Cka.allowedMechanisms, Cka.objectValidationFlags]

def commonPublicKeyAttributes : List AttributeType :=
  [Cka.subject, Cka.encrypt, Cka.verify, Cka.verifyRecover, Cka.wrap, Cka.encapsulate,
    Cka.trusted, Cka.wrapTemplate, Cka.publicKeyInfo, Cka.publicCrc64Value]

def commonPrivateKeyAttributes : List AttributeType :=
  [Cka.subject, Cka.sensitive, Cka.decrypt, Cka.sign, Cka.signRecover, Cka.unwrap,
    Cka.decapsulate, Cka.extractable, Cka.alwaysSensitive, Cka.neverExtractable,
    Cka.wrapWithTrusted, Cka.unwrapTemplate, Cka.alwaysAuthenticate, Cka.publicKeyInfo,
    Cka.deriveTemplate, Cka.publicCrc64Value]

def commonSecretKeyAttributes : List AttributeType :=
  [Cka.sensitive, Cka.encrypt, Cka.decrypt, Cka.sign, Cka.verify, Cka.wrap, Cka.unwrap,
    Cka.extractable, Cka.alwaysSensitive, Cka.neverExtractable, Cka.checkValue,
    Cka.wrapWithTrusted, Cka.trusted, Cka.wrapTemplate, Cka.unwrapTemplate,
    Cka.deriveTemplate, Cka.valueLen]

def x509CertificateAttributes : List AttributeType :=
  [Cka.certificateType, Cka.trusted, Cka.certificateCategory, Cka.checkValue, Cka.startDate,
    Cka.endDate, Cka.publicKeyInfo, Cka.subject, Cka.id, Cka.issuer, Cka.serialNumber,
    Cka.value, Cka.url, Cka.hashOfSubjectPublicKey, Cka.hashOfIssuerPublicKey,
    Cka.javaMidpSecurityDomain, Cka.nameHashAlgorithm]

/-- The RSA components that are secret, in the order of `rsa_private_components`. -/
def rsaSecretAttributes : List AttributeType :=
  [Cka.privateExponent, Cka.prime1, Cka.prime2, Cka.exponent1, Cka.exponent2, Cka.coefficient]

/-- `is_rsa_public_attribute` to `is_ml_kem_public_attribute`, by key type. -/
def publicKeyTypeAttributes (keyType : KeyType) : List AttributeType :=
  if keyType = Ckk.rsa then [Cka.modulus, Cka.modulusBits, Cka.publicExponent]
  else if keyType ∈ [Ckk.ec, Ckk.ecEdwards, Ckk.ecMontgomery] then [Cka.ecParams, Cka.ecPoint]
  else if keyType = Ckk.mlDsa then [Cka.parameterSet, Cka.value]
  else if keyType = Ckk.mlKem then [Cka.parameterSet, Cka.value]
  else if isHybridKemKeyType keyType then [Cka.value]
  else []

/-- `is_rsa_private_attribute` to `is_ml_kem_private_attribute`, by key type. -/
def privateKeyTypeAttributes (keyType : KeyType) : List AttributeType :=
  if keyType = Ckk.rsa then Cka.modulus :: Cka.publicExponent :: rsaSecretAttributes
  else if keyType ∈ [Ckk.ec, Ckk.ecEdwards, Ckk.ecMontgomery] then [Cka.ecParams, Cka.value]
  else if keyType = Ckk.mlDsa then [Cka.parameterSet, Cka.seed, Cka.value]
  else if keyType = Ckk.mlKem then [Cka.parameterSet, Cka.seed, Cka.value]
  else if isHybridKemKeyType keyType then [Cka.value, Cka.seed]
  else []

/-- `oath::supports_attribute`. -/
def oathAttributes : List AttributeType :=
  [Cka.class_, Cka.token, Cka.private_, Cka.label, Cka.uniqueId, Cka.modifiable, Cka.copyable,
    Cka.destroyable, Cka.keyType, Cka.id, Cka.sign, Cka.verify, Cka.encrypt, Cka.decrypt,
    Cka.derive, Cka.wrap, Cka.unwrap, Cka.sensitive, Cka.extractable, Cka.alwaysSensitive,
    Cka.neverExtractable, Cka.local_, Cka.allowedMechanisms, Cka.value, Cka.otpFormat,
    Cka.otpLength, Cka.otpTimeInterval, Cka.otpUserFriendlyMode, Cka.otpChallengeRequirement,
    Cka.otpTimeRequirement, Cka.otpCounterRequirement, Cka.otpPinRequirement, Cka.attrTypes,
    Cka.pkcs11rsOathHash, Cka.pkcs11rsOathTouchRequired, Cka.pkcs11rsUri]

variable (type : AttributeType)

namespace TokenObject

/-- Whether the material is an OATH credential. -/
def isOath : Bool :=
  match object.material with
  | .external (.oathCredential _) => true
  | _ => false

def supportsVendorAttribute : Bool :=
  if type = Cka.pkcs11rsUri then true
  else if type = Cka.pkcs11rsFidoRpId then object.rpId.isSome
  else
    match object.material with
    | .external (.pivData _) => type = Cka.pkcs11rsPivObjectTag
    | .external (.pivPrivate _) => type = Cka.yubicoTouchPolicy ∨ type = Cka.yubicoPinPolicy
    | .external (.openPgpPrivate _) => type = Cka.yubicoTouchPolicy
    | .external .hsmAuthCredential =>
      type = Cka.yubicoHsmauthRetries ∨ type = Cka.yubicoHsmauthTouchRequired
    | .previewSignRegistration _ _ => type = Cka.pkcs11rsPreviewSignRegistration
    | .previewSignDerived _ _ =>
      type = Cka.pkcs11rsPreviewSignRegistration ∨ type = Cka.pkcs11rsPreviewSignDerivedKey
    | _ => false

def supportsCompatibilityAttribute : Bool :=
  object.class_ = Cko.secretKey ∧ type = Cka.verifyRecover

/-- The attributes that the class and the key type bring. -/
def standardAttributes : List AttributeType :=
  if object.class_ = Cko.data then [Cka.application, Cka.objectId, Cka.value]
  else if object.class_ = Cko.certificate then x509CertificateAttributes
  else if object.class_ = Cko.profile then [Cka.profileId]
  else if object.class_ = Cko.publicKey then
    commonKeyAttributes ++ commonPublicKeyAttributes ++ publicKeyTypeAttributes object.keyType
  else if object.class_ = Cko.privateKey then
    commonKeyAttributes ++ commonPrivateKeyAttributes ++ privateKeyTypeAttributes object.keyType
  else if object.class_ = Cko.secretKey then
    commonKeyAttributes ++ commonSecretKeyAttributes ++ [Cka.value]
  else []

def supportsAttribute : Bool :=
  if object.isOath then type ∈ oathAttributes
  else if type ∈ commonStorageAttributes then true
  else
    type ∈ object.standardAttributes || object.supportsVendorAttribute type ||
      object.supportsCompatibilityAttribute type

def sensitiveKeyTypeAttributes (keyType : KeyType) : List AttributeType :=
  if keyType = Ckk.rsa then rsaSecretAttributes
  else if keyType ∈ [Ckk.ec, Ckk.ecEdwards, Ckk.ecMontgomery] then [Cka.value]
  else if keyType = Ckk.mlDsa then [Cka.seed, Cka.value]
  else if keyType = Ckk.mlKem then [Cka.seed, Cka.value]
  else if isHybridKemKeyType keyType then [Cka.seed, Cka.value]
  else []

/-- The materials of a secret key whose value `CKA_EXTRACTABLE` protects. -/
def hasExtractableValue : Bool :=
  match object.material with
  | .softwareSecret _ => true
  | .external (.yubiHsmSessionObject _ _) => true
  | _ => false

def attributeIsSensitive : Bool :=
  if object.isOath ∧ type = Cka.value then true
  else if object.supportsAttribute type = false then false
  else if object.class_ = Cko.secretKey ∧ type = Cka.value then
    object.sensitive || (object.hasExtractableValue && !object.extractable)
  else if object.class_ ≠ Cko.privateKey ∨ object.sensitive = false then false
  else type ∈ sensitiveKeyTypeAttributes object.keyType

def hasSensitiveAttributes : Bool :=
  object.class_ = Cko.privateKey ∨ object.class_ = Cko.otpKey ∨ object.class_ = Cko.secretKey

def isKeyObject : Bool :=
  object.class_ = Cko.publicKey ∨ object.class_ = Cko.otpKey ∨ object.class_ = Cko.privateKey ∨
    object.class_ = Cko.secretKey

end TokenObject

/-! ## Values -/

/-- `yubihsm_capability`: a bit of the eight capability bytes, most significant byte first. -/
def yubihsmCapability (capabilities : Bytes) (bit : ℕ) : Bool :=
  (capabilities.getD (7 - bit / 8) 0).toNat.testBit (bit % 8)

def isYubihsmRsa (algorithm : UInt8) : Bool := algorithm ∈ [9, 10, 11]

def isYubihsmCcmWrap (algorithm : UInt8) : Bool := algorithm ∈ [29, 41, 42]

/-- `yubihsm_capabilities_to_attributes(..).wrap`. -/
def yubihsmWrap (objectType algorithm : UInt8) (capabilities : Bytes) : Bool :=
  if objectType = 0x04 ∧ (isYubihsmRsa algorithm ∨ isYubihsmCcmWrap algorithm) then
    yubihsmCapability capabilities 0x0c
  else if objectType = 0x09 ∧ isYubihsmRsa algorithm then yubihsmCapability capabilities 0x0c
  else false

/-- `yubihsm_capabilities_to_attributes(..).unwrap`. -/
def yubihsmUnwrap (objectType algorithm : UInt8) (capabilities : Bytes) : Bool :=
  if objectType = 0x04 ∧ (isYubihsmRsa algorithm ∨ isYubihsmCcmWrap algorithm) then
    yubihsmCapability capabilities 0x0d
  else false

def pivCertificateAttribute (value : Bytes) (type : AttributeType) : Option Bytes :=
  if type = Cka.value then some value
  else if type = Cka.certificateType then some (ulongAttribute 0)
  else if type = Cka.trusted then some (boolAttribute false)
  else if type = Cka.certificateCategory then some (ulongAttribute 0)
  else if type = Cka.checkValue then some ((env.sha1 value).take 3)
  else if type ∈ [Cka.startDate, Cka.endDate, Cka.url, Cka.hashOfSubjectPublicKey,
      Cka.hashOfIssuerPublicKey] then some []
  else if type = Cka.subject then (env.certificateSubject value).toOption
  else if type = Cka.issuer then (env.certificateIssuer value).toOption
  else if type = Cka.serialNumber then (env.certificateSerialNumber value).toOption.map derInteger
  else if type = Cka.publicKeyInfo then (env.certificatePublicKeyInfo value).toOption
  else if type = Cka.javaMidpSecurityDomain then some (ulongAttribute 0)
  else if type = Cka.nameHashAlgorithm then some (ulongAttribute ckmSha1)
  else none

def RsaPrivateComponents.component (components : RsaPrivateComponents) (type : AttributeType) :
    Bytes :=
  if type = Cka.privateExponent then components.privateExponent
  else if type = Cka.prime1 then components.prime1
  else if type = Cka.prime2 then components.prime2
  else if type = Cka.exponent1 then components.exponent1
  else if type = Cka.exponent2 then components.exponent2
  else components.coefficient

/-- `ml_dsa_seed`, else `ml_kem_seed`, else `hybrid_kem_seed`. -/
def SoftwarePrivateKey.anySeed (key : SoftwarePrivateKey) : Option Bytes :=
  match key.kind with
  | .mlDsa => key.seed
  | .mlKem => key.seed
  | .hybridKem _ => key.seed
  | _ => none

namespace TokenObject

def canWrap : Bool :=
  object.wrap ||
    match object.material with
    | .external (.yubiHsm _ objectType algorithm capabilities) =>
      yubihsmWrap objectType algorithm capabilities
    | _ => false

def canUnwrap : Bool :=
  object.unwrap ||
    match object.material with
    | .external (.yubiHsm _ objectType algorithm capabilities) =>
      yubihsmUnwrap objectType algorithm capabilities
    | _ => false

/-- The operations that the usage attributes of a key enable, from which `key_mechanisms::operations` computes
`CKA_ALLOWED_MECHANISMS` (`key_mechanisms.rs:44-64`). -/
def usage : List Bool :=
  let private_ := decide (object.class_ = Cko.privateKey)
  let public_ := decide (object.class_ = Cko.publicKey)
  let secret := decide (object.class_ = Cko.secretKey)
  [object.sign && (private_ || secret), object.verify && (public_ || secret),
    object.encrypt && (public_ || secret), object.decrypt && (private_ || secret),
    object.canWrap && (public_ || secret || private_), object.canUnwrap && (private_ || secret),
    object.derive && (private_ || secret), object.encapsulate && public_,
    object.decapsulate && private_]

def isNonextractableKeyObject : Bool :=
  (object.class_ = Cko.privateKey ∨ object.class_ = Cko.secretKey) &&
    match object.material with
    | .softwarePrivate _ => false
    | .softwareSecret _ => false
    | .external (.yubiHsmSessionObject _ _) => false
    | .external (.yubiHsm _ _ _ capabilities) => !yubihsmCapability capabilities 0x10
    | _ => true

def isImmutableObject : Bool :=
  match object.material with
  | .external (.yubiHsm _ _ _ _) => false
  | .external (.yubiHsmSessionObject _ _) => false
  | .external _ => true
  | _ => false

/-- The materials whose objects `CKA_COPYABLE` always denies. -/
def isYubihsmHeld : Bool :=
  match object.material with
  | .external (.yubiHsm _ _ _ _) => true
  | .external (.yubiHsmSessionObject _ _) => true
  | _ => false

/-- The immutable materials that can be destroyed, and opaque YubiHSM objects. -/
def isDestroyableMaterial : Bool :=
  match object.material with
  | .external (.yubiHsm _ objectType _ _) => objectType = 0x01
  | .external (.pivPrivate _) => true
  | .external .pivCertificate => true
  | .external (.pivData _) => true
  | _ => false

/-- What the material contributes: the last branch of `attribute_value`. -/
def materialValue : Option Bytes :=
  match object.material with
  | .softwarePrivate key => if type = Cka.value then key.privateValue else none
  | .pub (.mlDsa _ publicKey) => if type = Cka.value then some publicKey else none
  | .pub (.mlKem _ publicKey) => if type = Cka.value then some publicKey else none
  | .pub (.hybridKem _ publicKey) => if type = Cka.value then some publicKey else none
  | .data _ _ _ value => if type = Cka.value then some value else none
  | .softwareSecret value => if type = Cka.value then some value else none
  | .secret value => if type = Cka.value then some value else none
  | .certificate _ value => pivCertificateAttribute env value type
  | .external material => env.externalValue material object.class_ object.keyType type
  | _ => none

/-- A value that only material outside the module can have. -/
def externalOnly : Option Bytes :=
  match object.material with
  | .external material => env.externalValue material object.class_ object.keyType type
  | _ => none

end TokenObject

namespace TokenObject

/-- The `match` of `attribute_value` on a supported attribute.  Attribute numbers are
distinct, so only a guard that fails lets a later branch be reached. -/
def supportedValue : Option Bytes :=
  if type = Cka.class_ then some (ulongAttribute object.class_)
  else if type = Cka.uniqueId then some (utf8 object.uniqueId)
  else if type = Cka.profileId then object.externalOnly env type
  else if type = Cka.keyType ∧ object.isKeyObject then some (ulongAttribute object.keyType)
  else if type = Cka.label then some (utf8 object.label)
  else if type = Cka.id then some object.id
  else if type = Cka.token then some (boolAttribute object.token)
  else if type = Cka.private_ then some (boolAttribute object.isPrivate)
  else if type = Cka.alwaysAuthenticate ∧ object.class_ = Cko.privateKey then
    match object.material with
    | .external material => env.externalValue material object.class_ object.keyType type
    | .previewSignDerived _ _ => some (boolAttribute true)
    | _ => some (boolAttribute false)
  else if type = Cka.encrypt ∧ object.isKeyObject then some (boolAttribute object.encrypt)
  else if type = Cka.decrypt ∧ object.isKeyObject then some (boolAttribute object.decrypt)
  else if type = Cka.sign ∧ object.isKeyObject then some (boolAttribute object.sign)
  else if type = Cka.verify ∧ object.isKeyObject then some (boolAttribute object.verify)
  else if type = Cka.derive ∧ object.isKeyObject then
    some (boolAttribute (object.allowsDerive env))
  else if type = Cka.wrap ∧ object.isKeyObject then some (boolAttribute object.canWrap)
  else if type = Cka.unwrap ∧ object.isKeyObject then some (boolAttribute object.canUnwrap)
  else if type = Cka.encapsulate ∧ object.isKeyObject then
    some (boolAttribute object.encapsulate)
  else if type = Cka.decapsulate ∧ object.isKeyObject then
    some (boolAttribute object.decapsulate)
  else if type = Cka.wrapWithTrusted ∧
      (object.class_ = Cko.privateKey ∨ object.class_ = Cko.secretKey) then
    some (boolAttribute object.wrapWithTrusted)
  else if type = Cka.signRecover ∨ type = Cka.verifyRecover then some (boolAttribute false)
  else if type = Cka.modifiable then some (boolAttribute (!object.isImmutableObject))
  else if type = Cka.copyable then
    some (boolAttribute (!(object.isYubihsmHeld || object.isImmutableObject)))
  else if type = Cka.destroyable then
    some (boolAttribute (object.isDestroyableMaterial || !object.isImmutableObject))
  else if type = Cka.trusted then some (boolAttribute false)
  else if type = Cka.application then
    match object.material with
    | .data _ application _ _ => some application
    | _ => object.externalOnly env type
  else if type = Cka.objectId then
    match object.material with
    | .data _ _ objectId _ => some objectId
    | _ => object.externalOnly env type
  else if type = Cka.pkcs11rsPivObjectTag then object.externalOnly env type
  else if type = Cka.pkcs11rsPreviewSignRegistration then
    match object.material with
    | .previewSignRegistration registration _ => some registration.cbor
    | .previewSignDerived registration _ => some registration.cbor
    | _ => none
  else if type = Cka.pkcs11rsPreviewSignDerivedKey then
    match object.material with
    | .previewSignDerived _ derived => some derived.cbor
    | _ => none
  else if type = Cka.pkcs11rsFidoRpId then object.rpId.map utf8
  else if type = Cka.certificateType ∧ object.class_ = Cko.certificate then
    some (ulongAttribute 0)
  else if type = Cka.valueLen then
    match object.material with
    | .softwareSecret value => some (ulongAttribute (UInt64.ofNat value.length))
    | .secret value => some (ulongAttribute (UInt64.ofNat value.length))
    | _ => object.externalOnly env type
  else if type = Cka.sensitive ∧ object.hasSensitiveAttributes then
    some (boolAttribute object.sensitive)
  else if type = Cka.extractable ∧ object.hasSensitiveAttributes then
    some (boolAttribute (object.extractable && !object.isNonextractableKeyObject))
  else if type = Cka.alwaysSensitive ∧ object.hasSensitiveAttributes then
    some (boolAttribute object.alwaysSensitive)
  else if type = Cka.neverExtractable ∧ object.hasSensitiveAttributes then
    some (boolAttribute (object.neverExtractable || object.isNonextractableKeyObject))
  else if type = Cka.local_ ∧ object.isKeyObject then some (boolAttribute object.isLocal)
  else if type = Cka.keyGenMechanism ∧ object.isKeyObject then
    some (ulongAttribute (object.keyGenMechanism.getD ckUnavailableInformation))
  else if type = Cka.allowedMechanisms ∧ object.isKeyObject then
    object.allowedMechanisms.map (List.flatMap ulongAttribute)
  else if type ∈ [Cka.startDate, Cka.endDate, Cka.wrapTemplate, Cka.unwrapTemplate,
      Cka.deriveTemplate, Cka.publicCrc64Value, Cka.url, Cka.hashOfSubjectPublicKey,
      Cka.hashOfIssuerPublicKey] then some []
  else if type = Cka.objectValidationFlags then some (ulongAttribute 0)
  else if type = Cka.javaMidpSecurityDomain then some (ulongAttribute 0)
  else if type = Cka.nameHashAlgorithm then some (ulongAttribute ckmSha1)
  else if type = Cka.subject ∧ object.isKeyObject then some []
  else if type = Cka.modulus then
    match object.projectedPublicKey env with
    | .ok (.rsa key) => some (beMinimal key.n)
    | _ => object.externalOnly env type
  else if type = Cka.publicExponent then
    match object.projectedPublicKey env with
    | .ok (.rsa key) => some (beMinimal key.e)
    | _ => object.externalOnly env type
  else if type ∈ rsaSecretAttributes then
    match object.material with
    | .softwarePrivate key => key.rsaPrivateComponents.map (·.component type)
    | _ => none
  else if type = Cka.modulusBits then
    match object.projectedPublicKey env with
    | .ok (.rsa key) => some (ulongAttribute (UInt64.ofNat ((beMinimal key.n).length * 8)))
    | _ => object.externalOnly env type
  else if type = Cka.ecParams then
    match object.projectedPublicKey env with
    | .ok (.ec parameters _) => some parameters
    | _ => object.externalOnly env type
  else if type = Cka.ecPoint ∧ object.class_ = Cko.publicKey then
    match object.projectedPublicKey env with
    | .ok (.ec _ publicKey) =>
      if publicKey ≠ [] then
        derOctetString (if object.keyType = Ckk.ec then 0x04 :: publicKey else publicKey)
      else object.externalOnly env type
    | _ => object.externalOnly env type
  else if type = Cka.parameterSet then
    match object.projectedPublicKey env with
    | .ok (.mlDsa parameterSet _) => some (ulongAttribute parameterSet)
    | .ok (.mlKem parameterSet _) => some (ulongAttribute parameterSet)
    | _ => none
  else if type = Cka.seed then
    match object.material with
    | .softwarePrivate key => key.anySeed
    | _ => none
  else if type ∈ [Cka.yubicoHsmauthRetries, Cka.yubicoHsmauthTouchRequired,
      Cka.yubicoTouchPolicy, Cka.yubicoPinPolicy] then object.externalOnly env type
  else if type = Cka.publicKeyInfo ∧ object.isKeyObject then
    some ((object.publicKeyInfo env).getD [])
  else if type = Cka.checkValue ∧ object.class_ = Cko.secretKey then some []
  else if type ∈ [Cka.value, Cka.certificateCategory, Cka.checkValue, Cka.subject, Cka.issuer,
      Cka.serialNumber, Cka.publicKeyInfo] then object.materialValue env type
  else none

def attributeValue : Option Bytes :=
  match if object.isOath then object.externalOnly env type else none with
  | some value => some value
  | none => if object.supportsAttribute type = false then none else object.supportedValue env type

end TokenObject

end Pkcs11rs.Model
