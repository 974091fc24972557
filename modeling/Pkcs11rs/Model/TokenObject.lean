import Pkcs11rs.Model.KeyMetadata

/-!
# Token objects

`TokenObject` and its material (`object.rs:38-100`, `object.rs:262-378`).

A private key of the external crate is known by what its accessors return: its kind, its
public key and its secret components.  Material that is held outside the module (on a
YubiKey, a YubiHSM, a platform key store) is `ExternalMaterial`, with the identifying data
that the object and handle code reads.
-/

set_option autoImplicit false

namespace Pkcs11rs.Model

open Pkcs11rs.Library

inductive HybridKemConstruction where
  | mlKem768P256
  | mlKem768X25519
  | mlKem1024P384
  deriving DecidableEq, Repr

def hybridKemKeyType : HybridKemConstruction → KeyType
  | .mlKem768P256 => Ckk.pkcs11rsMlkem768P256
  | .mlKem768X25519 => Ckk.pkcs11rsMlkem768X25519
  | .mlKem1024P384 => Ckk.pkcs11rsMlkem1024P384

structure RsaPublicKey where
  n : ℕ
  e : ℕ
  deriving DecidableEq, Repr

inductive PublicKeyMaterial where
  | rsa (key : RsaPublicKey)
  | ec (parameters publicKey : Bytes)
  | mlDsa (parameterSet : Ulong) (publicKey : Bytes)
  | mlKem (parameterSet : Ulong) (publicKey : Bytes)
  | hybridKem (construction : HybridKemConstruction) (publicKey : Bytes)
  deriving DecidableEq, Repr

/-- The variants of `SoftwarePrivateKey`, those of `Signing` by their `KeyKind`. -/
inductive PrivateKeyKind where
  | ec
  | edwards
  | rsa
  | mlDsa
  | montgomery
  | mlKem
  | hybridKem (construction : HybridKemConstruction)
  deriving DecidableEq, Repr

/-- The result of `rsa_private_components`: exponent, primes, CRT exponents, coefficient. -/
structure RsaPrivateComponents where
  privateExponent : Bytes
  prime1 : Bytes
  prime2 : Bytes
  exponent1 : Bytes
  exponent2 : Bytes
  coefficient : Bytes
  deriving DecidableEq, Repr

/-- `SoftwarePrivateKey` of `software-key-core`, by its accessors. -/
structure SoftwarePrivateKey where
  kind : PrivateKeyKind
  publicKey : Except Rv PublicKeyMaterial
  privateValue : Option Bytes
  seed : Option Bytes
  rsaPrivateComponents : Option RsaPrivateComponents
  deriving DecidableEq

def SoftwarePrivateKey.keyType (key : SoftwarePrivateKey) : KeyType :=
  match key.kind with
  | .ec => Ckk.ec
  | .edwards => Ckk.ecEdwards
  | .rsa => Ckk.rsa
  | .mlDsa => Ckk.mlDsa
  | .montgomery => Ckk.ecMontgomery
  | .mlKem => Ckk.mlKem
  | .hybridKem construction => hybridKemKeyType construction

/-- `ContentReference`: the digest that names a stored object. -/
abbrev ContentReference := Bytes

/-- The hexadecimal digit of a number below 16. -/
def hexDigit (n : ℕ) : Char := "0123456789abcdef".toList.getD n '0'

/-- Bytes as lower-case hexadecimal digits. -/
def lowerHex (bytes : Bytes) : String :=
  String.ofList (bytes.flatMap fun byte => [hexDigit (byte.toNat / 16), hexDigit (byte.toNat % 16)])

/-- `PreviewSignRegistration`, by its canonical encoding (`to_cbor`). -/
structure PreviewSignRegistration where
  cbor : Bytes
  deriving DecidableEq, Repr

/-- `PreviewSignDerivedKeyRecord`, by its canonical encoding and the parts that are read. -/
structure PreviewSignDerivedKeyRecord where
  cbor : Bytes
  registration : ContentReference
  verificationKeyCose : Bytes
  deriving DecidableEq, Repr

/-- The materials that are held outside the module. -/
inductive ExternalMaterial where
  | profile (profileId : Ulong)
  | platformPrivate
  | pivPrivate (slot : UInt8)
  | openPgpPrivate (keyRef : UInt8)
  | pivCertificate
  | pivData (objectId : UInt32)
  | pivAttestation (slot : UInt8)
  | openPgpCertificate
  | openPgpData (tag : UInt16)
  | issuerSecurityDomainData
  | issuerSecurityDomainCertificate
  | fidoCredential
  | fidoResidentPrivate
  | oathCredential (name : Bytes)
  | hsmAuthCredential
  | yubiHsm (id : UInt16) (objectType algorithm : UInt8) (capabilities : Bytes)
  | yubiHsmSessionObject (handle : UInt64) (length : ℕ)
  | yubiHsmAttestation (id : UInt16)
  deriving DecidableEq, Repr

/-- The `instance` of a data object or a certificate, `[u8; 16]`. -/
abbrev ObjectInstance := { bytes : Bytes // bytes.length = 16 }

inductive KeyMaterial where
  | none
  | data (inst : ObjectInstance) (application objectId value : Bytes)
  | certificate (inst : ObjectInstance) (value : Bytes)
  | pub (key : PublicKeyMaterial)
  | softwarePrivate (key : SoftwarePrivateKey)
  | softwareSecret (value : Bytes)
  | secret (value : Bytes)
  | previewSignRegistration (registration : PreviewSignRegistration) (ownsCredential : Bool)
  | previewSignDerived (registration : PreviewSignRegistration)
      (derived : PreviewSignDerivedKeyRecord)
  | external (material : ExternalMaterial)
  deriving DecidableEq

structure KeyPolicyTemplates where
  wrap : Option KeyAttributes := none
  unwrap : Option KeyAttributes := none
  derive : Option KeyAttributes := none
  deriving DecidableEq

structure TokenObject where
  slotId : Option Ulong := none
  uniqueId : String := ""
  class_ : ObjectClass
  keyType : KeyType
  label : String := ""
  id : Bytes := []
  token : Bool := false
  isPrivate : Bool := false
  encrypt : Bool := false
  decrypt : Bool := false
  sign : Bool := false
  verify : Bool := false
  derive : Bool := false
  wrap : Bool := false
  unwrap : Bool := false
  encapsulate : Bool := false
  decapsulate : Bool := false
  sensitive : Bool := false
  extractable : Bool := false
  alwaysSensitive : Bool := false
  neverExtractable : Bool := false
  isLocal : Bool := false
  keyGenMechanism : Option MechanismType := none
  allowedMechanisms : Option (List MechanismType) := none
  wrapWithTrusted : Bool := false
  policyTemplates : KeyPolicyTemplates := {}
  creatorSession : Option Ulong := none
  publicKey : Option PublicKeyMaterial := none
  rpId : Option String := none
  material : KeyMaterial := .none
  deriving DecidableEq

variable (object : TokenObject)

namespace TokenObject

def isVisibleTo (loggedIn : Bool) : Bool := !object.isPrivate || loggedIn

def setCreator (session slot : Ulong) : TokenObject :=
  { object with
    slotId := some slot
    creatorSession := if object.token then none else some session }

/-- `is_yubihsm_public_projection`: the object types `YUBIHSM_PUBLIC_KEY` and
`YUBIHSM_WRAP_KEY_PUBLIC`. -/
def isYubihsmPublicProjection : Bool :=
  match object.material with
  | .external (.yubiHsm _ objectType _ _) => objectType = 0x83 ∨ objectType = 0x84
  | _ => false

def policyTemplate (type : AttributeType) : Option KeyAttributes :=
  if type = Cka.wrapTemplate then object.policyTemplates.wrap
  else if type = Cka.unwrapTemplate then object.policyTemplates.unwrap
  else if type = Cka.deriveTemplate then object.policyTemplates.derive
  else none

end TokenObject

end Pkcs11rs.Model
