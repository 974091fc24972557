import Pkcs11rs.Model.StoredAttributes

/-!
# Private keys in PKCS #8

`material_to_pkcs8` and `material_from_pkcs8` (`software_storage.rs:1850-2090`), and the
attributed `PrivateKeyInfo` in which a software token keeps a private key
(`software_storage.rs:306-332`, `software_storage.rs:1654-1728`, `software_storage.rs:1780-1839`).

DER is written and parsed by other crates: `DerCodec` holds their functions on the structures
that this code builds.  `KeyCore` holds the constructors of the key core.  An object identifier
is a constructor here where the source compares with it.
-/

set_option autoImplicit false

namespace Pkcs11rs.Model

open Pkcs11rs.Library

variable [CborCodec]

/-! ## Algorithms -/

inductive EcCurve where
  | p224
  | p256
  | p384
  | p521
  | secp256k1
  | brainpoolP256
  | brainpoolP384
  | brainpoolP512
  deriving DecidableEq, Repr

def ecCurveParameters : EcCurve → Bytes
  | .p224 => [0x06, 0x05, 0x2b, 0x81, 0x04, 0x00, 0x21]
  | .p256 => [0x06, 0x08, 0x2a, 0x86, 0x48, 0xce, 0x3d, 0x03, 0x01, 0x07]
  | .p384 => [0x06, 0x05, 0x2b, 0x81, 0x04, 0x00, 0x22]
  | .p521 => [0x06, 0x05, 0x2b, 0x81, 0x04, 0x00, 0x23]
  | .secp256k1 => [0x06, 0x05, 0x2b, 0x81, 0x04, 0x00, 0x0a]
  | .brainpoolP256 => [0x06, 0x09, 0x2b, 0x24, 0x03, 0x03, 0x02, 0x08, 0x01, 0x01, 0x07]
  | .brainpoolP384 => [0x06, 0x09, 0x2b, 0x24, 0x03, 0x03, 0x02, 0x08, 0x01, 0x01, 0x0b]
  | .brainpoolP512 => [0x06, 0x09, 0x2b, 0x24, 0x03, 0x03, 0x02, 0x08, 0x01, 0x01, 0x0d]

/-- The curves in the order of `ec_curve_from_parameters`. -/
def ecCurves : List EcCurve :=
  [.p224, .p256, .p384, .p521, .secp256k1, .brainpoolP256, .brainpoolP384, .brainpoolP512]

def ecCurveFromParameters (parameters : Bytes) : Except Rv EcCurve :=
  match ecCurves.find? fun curve => parameters = ecCurveParameters curve with
  | some curve => .ok curve
  | none => .error .keyTypeInconsistent

inductive EdwardsCurve where
  | ed25519
  | ed448
  deriving DecidableEq, Repr

inductive MontgomeryCurve where
  | x25519
  | x448
  deriving DecidableEq, Repr

inductive MlDsaParameterSet where
  | mlDsa44
  | mlDsa65
  | mlDsa87
  deriving DecidableEq, Repr

inductive MlKemParameterSet where
  | mlKem512
  | mlKem768
  | mlKem1024
  deriving DecidableEq, Repr

/-- The object identifiers of private key algorithms. -/
inductive AlgorithmOid where
  | rsaEncryption
  | ecPublicKey
  | edwards (curve : EdwardsCurve)
  | montgomery (curve : MontgomeryCurve)
  | mlDsa (set : MlDsaParameterSet)
  | mlKem (set : MlKemParameterSet)
  | hybridKem (construction : HybridKemConstruction)
  | other (der : Bytes)
  deriving DecidableEq, Repr

inductive AlgorithmParameters where
  | null
  | oid (der : Bytes)
  | other (der : Bytes)
  deriving DecidableEq, Repr

structure AlgorithmIdentifier where
  oid : AlgorithmOid
  parameters : Option AlgorithmParameters
  deriving DecidableEq, Repr

/-! ## Structures in DER -/

/-- `PrivateKeyInfoRef`, as far as it is read. -/
structure PrivateKeyInfo where
  algorithm : AlgorithmIdentifier
  privateKey : Bytes
  deriving DecidableEq, Repr

/-- `sec1::EcPrivateKey`, as far as it is read: the scalar and the named curve. -/
structure EcPrivateKey where
  privateKey : Bytes
  namedCurve : Option Bytes
  deriving DecidableEq, Repr

/-- The object identifiers of PKCS #8 attributes. -/
inductive AttributeOid where
  | friendlyName
  | localKeyId
  | pkcs11rsAttributes
  | other (der : Bytes)
  deriving DecidableEq, Repr

inductive DerAny where
  | bmpString (text : String)
  | octetString (bytes : Bytes)
  | other (der : Bytes)
  deriving DecidableEq, Repr

structure StoredPkcs8Attribute where
  oid : AttributeOid
  values : List DerAny
  deriving DecidableEq, Repr

structure StoredPrivateKeyInfo where
  version : UInt8
  privateKeyAlgorithm : AlgorithmIdentifier
  privateKey : Bytes
  attributes : Option (List StoredPkcs8Attribute)
  deriving DecidableEq, Repr

/-- The DER functions of other crates. -/
structure DerCodec where
  /-- `der::Length::MAX`, the longest octet string. -/
  lengthMax : ℕ
  /-- `SetOfVec::try_from`: the attributes in their canonical order. -/
  setOfAttributes : List StoredPkcs8Attribute → Option (List StoredPkcs8Attribute)
  octetStringToDer : Bytes → Option Bytes
  octetStringFromDer : Bytes → Option Bytes
  ecPrivateKeyToDer : EcPrivateKey → Option Bytes
  ecPrivateKeyFromDer : Bytes → Option EcPrivateKey
  privateKeyInfoToDer : PrivateKeyInfo → Option Bytes
  privateKeyInfoFromDer : Bytes → Option PrivateKeyInfo
  storedPrivateKeyInfoToDer : StoredPrivateKeyInfo → Option Bytes
  storedPrivateKeyInfoFromDer : Bytes → Option StoredPrivateKeyInfo

/-- The serializations of private keys in the key core. -/
structure KeyCore where
  weierstrassCurve : SoftwarePrivateKey → Option EcCurve
  montgomeryCurve : SoftwarePrivateKey → MontgomeryCurve
  serialized : SoftwarePrivateKey → Bytes
  toPkcs1Der : SoftwarePrivateKey → Option Bytes
  toPkcs8Der : SoftwarePrivateKey → Option Bytes
  restoreRsaPkcs1 : Bytes → Option SoftwarePrivateKey
  /-- `from_pkcs8_der` of ML-DSA and ML-KEM keys and `from_pkcs8_der_for_kind` of Edwards keys. -/
  fromPkcs8Der : AlgorithmOid → Bytes → Option SoftwarePrivateKey
  fromSeedSlice : HybridKemConstruction → Bytes → Option SoftwarePrivateKey
  /-- `from_serialized_for_kind` of an elliptic curve key. -/
  ecFromSerialized : EcCurve → Bytes → Option SoftwarePrivateKey
  montgomeryFromSerialized : MontgomeryCurve → Bytes → Option SoftwarePrivateKey

/-- `map_err(|_| CKR_DATA_INVALID)` and `ok_or(CKR_DATA_INVALID)`. -/
def orDataInvalid {α : Type} : Option α → Except Rv α
  | some a => .ok a
  | none => .error .dataInvalid

/-- `OctetString::new`. -/
def DerCodec.octetString (der : DerCodec) (bytes : Bytes) : Except Rv Bytes :=
  if der.lengthMax < bytes.length then .error .dataInvalid else .ok bytes

/-! ## Key material -/

/-- `PrivateKeyInfoRef::new` and `SecretDocument::encode_msg`. -/
def encodePrivateKeyInfo (der : DerCodec) (oid : AlgorithmOid)
    (parameters : Option AlgorithmParameters) (privateKey : Bytes) : Except Rv Bytes :=
  der.octetString privateKey >>= fun privateKey =>
    orDataInvalid (der.privateKeyInfoToDer ⟨⟨oid, parameters⟩, privateKey⟩)

def ecPkcs8 (der : DerCodec) (curve : EcCurve) (scalar : Bytes) : Except Rv Bytes :=
  orDataInvalid (der.ecPrivateKeyToDer ⟨scalar, none⟩) >>= fun sec1 =>
    encodePrivateKeyInfo der .ecPublicKey (some (.oid (ecCurveParameters curve))) sec1

variable (core : KeyCore) (der : DerCodec)

def materialToPkcs8 (key : SoftwarePrivateKey) : Except Rv Bytes :=
  match key.kind with
  | .hybridKem construction =>
    orDataInvalid key.seed >>= fun seed =>
      encodePrivateKeyInfo der (.hybridKem construction) none seed
  | .mlDsa => orDataInvalid (core.toPkcs8Der key)
  | .mlKem => orDataInvalid (core.toPkcs8Der key)
  | .rsa =>
    orDataInvalid (core.toPkcs1Der key) >>= fun pkcs1 =>
      encodePrivateKeyInfo der .rsaEncryption (some .null) pkcs1
  | .ec =>
    orDataInvalid (core.weierstrassCurve key) >>= fun curve =>
      orDataInvalid key.privateValue >>= fun scalar => ecPkcs8 der curve scalar
  | .edwards => orDataInvalid (core.toPkcs8Der key)
  | .montgomery =>
    der.octetString (core.serialized key) >>= fun value =>
      orDataInvalid (der.octetStringToDer value) >>= fun inner =>
        encodePrivateKeyInfo der (.montgomery (core.montgomeryCurve key)) none inner

/-- The elliptic curve branch of `material_from_pkcs8`. -/
def ecFromPkcs8 (info : PrivateKeyInfo) : Except Rv SoftwarePrivateKey :=
  match info.algorithm.parameters with
  | some (.oid curveOid) =>
    ecCurveFromParameters curveOid >>= fun curve =>
      orDataInvalid (der.ecPrivateKeyFromDer info.privateKey) >>= fun sec1 =>
        if sec1.namedCurve.any (· ≠ curveOid) then .error .dataInvalid
        else orDataInvalid (core.ecFromSerialized curve sec1.privateKey)
  | _ => .error .dataInvalid

def materialFromPkcs8 (encoded : Bytes) : Except Rv SoftwarePrivateKey :=
  orDataInvalid (der.privateKeyInfoFromDer encoded) >>= fun info =>
    match info.algorithm.oid with
    | .hybridKem construction =>
      if info.algorithm.parameters.isSome then .error .dataInvalid
      else orDataInvalid (core.fromSeedSlice construction info.privateKey)
    | .mlDsa set =>
      if info.algorithm.parameters.isSome then .error .dataInvalid
      else orDataInvalid (core.fromPkcs8Der (.mlDsa set) encoded)
    | .mlKem set =>
      if info.algorithm.parameters.isSome then .error .dataInvalid
      else orDataInvalid (core.fromPkcs8Der (.mlKem set) encoded)
    | .rsaEncryption =>
      if info.algorithm.parameters ≠ some .null then .error .dataInvalid
      else orDataInvalid (core.restoreRsaPkcs1 info.privateKey)
    | .ecPublicKey => ecFromPkcs8 core der info
    | .edwards curve =>
      orDataInvalid (der.octetStringFromDer info.privateKey) >>= fun _ =>
        if info.algorithm.parameters.isSome then .error .dataInvalid
        else orDataInvalid (core.fromPkcs8Der (.edwards curve) encoded)
    | .montgomery curve =>
      orDataInvalid (der.octetStringFromDer info.privateKey) >>= fun value =>
        if info.algorithm.parameters.isSome then .error .dataInvalid
        else orDataInvalid (core.montgomeryFromSerialized curve value)
    | .other _ => .error .dataInvalid

/-! ## Attributed private keys -/

/-- The friendly name: a label that fits in a `BMPString` of at most 255 characters. -/
def friendlyNameAttribute (label : String) : List StoredPkcs8Attribute :=
  if label ≠ "" ∧ label.toList.length ≤ 255 ∧ label.toList.all (fun c => c.toNat ≤ 0xffff) then
    [⟨.friendlyName, [.bmpString label]⟩]
  else []

/-- The attributes of `encode_stored_private_key_info`, in the order in which they are made. -/
def pkcs8Attributes (label : String) (id metadata : Bytes) : List StoredPkcs8Attribute :=
  friendlyNameAttribute label ++
    [⟨.localKeyId, [.octetString id]⟩, ⟨.pkcs11rsAttributes, [.octetString metadata]⟩]

def encodeStoredPrivateKeyInfo (object : TokenObject) : Except Rv Bytes :=
  match object.material with
  | .softwarePrivate key =>
    materialToPkcs8 core der key >>= fun bare =>
      orDataInvalid (der.privateKeyInfoFromDer bare) >>= fun bareInfo =>
        storedAttributes object >>= fun attributes =>
          encodeStoredAttributes attributes >>= fun encodedAttributes =>
            der.octetString attributes.id >>= fun id =>
              der.octetString encodedAttributes >>= fun metadata =>
                der.octetString bareInfo.privateKey >>= fun privateKey =>
                  orDataInvalid
                      (der.setOfAttributes (pkcs8Attributes attributes.label id metadata))
                    >>= fun set =>
                      orDataInvalid (der.storedPrivateKeyInfoToDer
                        { version := 0
                          privateKeyAlgorithm := bareInfo.algorithm
                          privateKey := privateKey
                          attributes := some set })
  | _ => .error .dataInvalid

/-- What the loop of `decode_stored_private_key_info` has found. -/
structure Pkcs8Found where
  friendlyName : Option String := none
  localKeyId : Option Bytes := none
  storedAttributes : Option StoredAttributes := none
  deriving DecidableEq

/-- One attribute in the loop of `decode_stored_private_key_info`. -/
def readPkcs8Attribute (found : Pkcs8Found) (entry : StoredPkcs8Attribute) :
    Except Rv Pkcs8Found :=
  match entry.values with
  | [value] =>
    match entry.oid, value with
    | .friendlyName, .bmpString label =>
      if found.friendlyName.isSome then .error .dataInvalid
      else .ok { found with friendlyName := some label }
    | .localKeyId, .octetString id =>
      if found.localKeyId.isSome then .error .dataInvalid
      else .ok { found with localKeyId := some id }
    | .pkcs11rsAttributes, .octetString metadata =>
      if found.storedAttributes.isSome then .error .dataInvalid
      else
        decodeStoredAttributes metadata >>= fun attributes =>
          .ok { found with storedAttributes := some attributes }
    | _, _ => .error .dataInvalid
  | _ => .error .dataInvalid

/-- The loop of `decode_stored_private_key_info`. -/
def readPkcs8Attributes : Pkcs8Found → List StoredPkcs8Attribute → Except Rv Pkcs8Found
  | found, [] => .ok found
  | found, entry :: rest =>
    readPkcs8Attribute found entry >>= fun found => readPkcs8Attributes found rest

def decodeStoredPrivateKeyInfo (encoded : Bytes) :
    Except Rv (StoredAttributes × SoftwarePrivateKey) :=
  orDataInvalid (der.storedPrivateKeyInfoFromDer encoded) >>= fun info =>
    if info.version ≠ 0 ∨ der.storedPrivateKeyInfoToDer info ≠ some encoded then
      .error .dataInvalid
    else
      orDataInvalid info.attributes >>= fun attributes =>
        readPkcs8Attributes {} attributes >>= fun found =>
          orDataInvalid found.storedAttributes >>= fun attributes =>
            if found.localKeyId ≠ some attributes.id ∨
                found.friendlyName.any (· ≠ attributes.label) then .error .dataInvalid
            else materialFromPkcs8 core der encoded >>= fun key => .ok (attributes, key)

end Pkcs11rs.Model
