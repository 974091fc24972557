import Pkcs11rs.Model.DataObjects
import Pkcs11rs.Model.PrivateKeyInfo

/-!
# Records of a software token

`encode_record` and `decode_record` with the record of a secret key
(`software_storage.rs:833-890`, `software_storage.rs:1039-1366`).

The nonce of a record is what `getrandom` answers.  AES-GCM is a function of another crate.
-/

set_option autoImplicit false

namespace Pkcs11rs.Model

open Pkcs11rs.Library

variable [CborCodec]

/-- `[u8; NONCE_LENGTH]`. -/
abbrev Nonce := { bytes : Bytes // bytes.length = 12 }

def tagLength : ℕ := 16

/-- The functions of other crates that records are made with. -/
structure RecordEnv where
  objects : ObjectEnv
  core : KeyCore
  der : DerCodec
  /-- `encrypt`: the key, the nonce, the associated data and the plaintext. -/
  encrypt : Bytes → Nonce → Bytes → Bytes → Except Rv Bytes
  decrypt : Bytes → Nonce → Bytes → Bytes → Except Rv Bytes

/-! ## Secret keys -/

def validateStoredSecretKey (keyType : KeyType) (length : ℕ) : Except Rv Unit :=
  let valid : Bool :=
    if keyType = Ckk.aes then length = 16 ∨ length = 24 ∨ length = 32
    else if keyType = Ckk.genericSecret ∨ isHmacKeyType keyType then 1 ≤ length ∧ length ≤ 1024
    else false
  if valid then .ok () else .error .dataInvalid

def storedSecretKeyInfo (encoded : Bytes) : Bool :=
  match readArray Rv.dataInvalid encoded with
  | .ok (some 25, rest) =>
    match readString Rv.dataInvalid rest with
    | .ok (schema, _) => schema = secretRecordSchema
    | .error _ => false
  | _ => false

/-- The fields that `encode_stored_secret_key_info` writes. -/
def secretKeyFields (object : TokenObject) (wrapTemplate unwrapTemplate deriveTemplate : Option Bytes)
    (value : Bytes) : List Bytes :=
  [cborArray 25, cborText secretRecordSchema, cborUint formatVersion, cborUint object.keyType,
    cborText object.label, cborBytes object.id, cborBool object.isPrivate,
    cborBool object.encrypt, cborBool object.decrypt, cborBool object.sign,
    cborBool object.verify, cborBool object.derive, cborBool object.wrap, cborBool object.unwrap,
    cborBool object.sensitive, cborBool object.extractable, cborBool object.alwaysSensitive,
    cborBool object.neverExtractable, cborBool object.isLocal,
    cborOption cborUint object.keyGenMechanism, cborMechanisms object.allowedMechanisms,
    cborBool object.wrapWithTrusted, encodeOptionalBytes wrapTemplate,
    encodeOptionalBytes unwrapTemplate, encodeOptionalBytes deriveTemplate, cborBytes value]

def encodeStoredSecretKeyInfo (object : TokenObject) : Except Rv Bytes :=
  match object.material with
  | .softwareSecret value =>
    if object.class_ ≠ Cko.secretKey ∨ object.isPrivate = false then .error .dataInvalid
    else
      validateStoredSecretKey object.keyType value.length >>= fun _ =>
        encodeAllowedMechanisms object.allowedMechanisms >>= fun _ =>
          encodePolicyTemplate object.policyTemplates.wrap >>= fun wrapTemplate =>
            encodePolicyTemplate object.policyTemplates.unwrap >>= fun unwrapTemplate =>
              encodePolicyTemplate object.policyTemplates.derive >>= fun deriveTemplate =>
                .ok (secretKeyFields object wrapTemplate unwrapTemplate deriveTemplate
                  value).flatten
  | _ => .error .dataInvalid

/-- A policy template in the record of a secret key. -/
def readPolicyTemplateField : Reader Rv (Option KeyAttributes) :=
  decodeOptionalBytes >>= fun encoded => Reader.lift (decodePolicyTemplate encoded)

/-- The fields of `decode_stored_secret_key_info` and the object they make. -/
def readStoredSecretKeyInfo (slotId : Ulong) (uniqueId : String) : Reader Rv TokenObject := do
  let count ← readArray .dataInvalid
  Reader.require (decide (count = some 25)) .dataInvalid
  let schema ← readString .dataInvalid
  Reader.require (decide (schema = secretRecordSchema)) .dataInvalid
  let version ← readUint .dataInvalid
  Reader.require (decide (version = formatVersion)) .dataInvalid
  let keyType ← readUint .dataInvalid
  let label ← readString .dataInvalid
  let id ← readBytes .dataInvalid
  let isPrivate ← readBool .dataInvalid
  let encrypt ← readBool .dataInvalid
  let decrypt ← readBool .dataInvalid
  let sign ← readBool .dataInvalid
  let verify ← readBool .dataInvalid
  let derive ← readBool .dataInvalid
  let wrap ← readBool .dataInvalid
  let unwrap ← readBool .dataInvalid
  let sensitive ← readBool .dataInvalid
  let extractable ← readBool .dataInvalid
  let alwaysSensitive ← readBool .dataInvalid
  let neverExtractable ← readBool .dataInvalid
  let isLocal ← readBool .dataInvalid
  let keyGenMechanism ← decodeKeyGenMechanism
  let allowedMechanisms ← decodeAllowedMechanisms
  let wrapWithTrusted ← readBool .dataInvalid
  let wrapTemplate ← readPolicyTemplateField
  let unwrapTemplate ← readPolicyTemplateField
  let deriveTemplate ← readPolicyTemplateField
  let value ← readBytes .dataInvalid
  Reader.lift (validateStoredSecretKey keyType value.length)
  Reader.require isPrivate .dataInvalid
  pure
    { slotId := some slotId
      uniqueId := uniqueId
      class_ := Cko.secretKey
      keyType := keyType
      label := label
      id := id
      token := true
      isPrivate := isPrivate
      encrypt := encrypt
      decrypt := decrypt
      sign := sign
      verify := verify
      derive := derive
      wrap := wrap
      unwrap := unwrap
      encapsulate := false
      decapsulate := false
      sensitive := sensitive
      extractable := extractable
      alwaysSensitive := alwaysSensitive
      neverExtractable := neverExtractable
      isLocal := isLocal
      keyGenMechanism := keyGenMechanism
      allowedMechanisms := allowedMechanisms
      wrapWithTrusted := wrapWithTrusted
      policyTemplates := ⟨wrapTemplate, unwrapTemplate, deriveTemplate⟩
      creatorSession := none
      publicKey := none
      rpId := none
      material := .softwareSecret value }

def decodeStoredSecretKeyInfo (slotId : Ulong) (uniqueId : String) :
    Bytes → Except Rv TokenObject :=
  readCanonical .dataInvalid (readStoredSecretKeyInfo slotId uniqueId) encodeStoredSecretKeyInfo

/-! ## The envelope -/

def recordAad (name : Bytes) (schema : String) : Bytes :=
  utf8 schema ++ [0] ++ name ++
    if schema = secretRecordSchema then 0 :: beBytes 8 formatVersion.toNat else []

def encodeRecordEnvelope (schema : String) (nonce : Nonce) (ciphertext : Bytes) : Bytes :=
  [cborArray 4, cborText schema, cborUint formatVersion, cborBytes nonce.1,
    cborBytes ciphertext].flatten

variable (env : RecordEnv) (object : TokenObject) (slotId : Ulong) (uniqueId : String)

/-- The schema and the plaintext of `encode_record`. -/
def recordPlaintext : Except Rv (String × Bytes) :=
  match object.material with
  | .softwarePrivate _ =>
    (encodeStoredPrivateKeyInfo env.core env.der object).map fun plaintext =>
      (recordSchema, plaintext)
  | .softwareSecret _ =>
    if object.isPrivate then
      (encodeStoredSecretKeyInfo object).map fun plaintext => (secretRecordSchema, plaintext)
    else .error .dataInvalid
  | .data _ _ _ _ =>
    if object.isPrivate then
      (encodeDataObject object).map fun plaintext => (dataRecordSchema, plaintext)
    else .error .dataInvalid
  | .certificate _ _ =>
    if object.isPrivate then
      (encodeDataObject object).map fun plaintext => (dataRecordSchema, plaintext)
    else .error .dataInvalid
  | _ => .error .dataInvalid

/-- `encode_record`; `random` is the answer of `getrandom`. -/
def encodeRecord (name : Bytes) (masterKey : Bytes) (random : Option Nonce) (object : TokenObject) :
    Except Rv Bytes :=
  if object.token = false then .error .dataInvalid
  else
    recordPlaintext env object >>= fun record =>
      match random with
      | none => .error .deviceError
      | some nonce =>
        env.encrypt masterKey nonce (recordAad name record.1) record.2 >>= fun ciphertext =>
          .ok (encodeRecordEnvelope record.1 nonce ciphertext)

/-- The fields of the envelope that `decode_record` reads. -/
def readRecordEnvelope : Reader Rv (String × Nonce × Bytes) := do
  let count ← readArray .dataInvalid
  Reader.require (decide (count = some 4)) .dataInvalid
  let schema ← readString .dataInvalid
  Reader.require
    (decide (schema ∈ [recordSchema, secretRecordSchema, dataRecordSchema])) .dataInvalid
  let version ← readUint .dataInvalid
  Reader.require (decide (version = formatVersion)) .dataInvalid
  let nonce ← readBytes .dataInvalid
  let ciphertext ← readBytes .dataInvalid
  if h : nonce.length = 12 then pure (schema, ⟨nonce, h⟩, ciphertext)
  else Reader.fail .dataInvalid

/-- The private key that `decode_record` makes of its stored attributes. -/
def privateKeyObject (attributes : StoredAttributes) (key : SoftwarePrivateKey) :
    Except Rv TokenObject :=
  decodePolicyTemplate attributes.wrapTemplate >>= fun wrap =>
    decodePolicyTemplate attributes.unwrapTemplate >>= fun unwrap =>
      decodePolicyTemplate attributes.deriveTemplate >>= fun derive =>
        if attributes.class_ ≠ Cko.privateKey ∨ attributes.keyType ≠ key.keyType then
          .error .dataInvalid
        else
          key.publicKey >>= fun publicKey =>
            .ok
              { slotId := some slotId
                uniqueId := uniqueId
                class_ := attributes.class_
                keyType := attributes.keyType
                label := attributes.label
                id := attributes.id
                token := true
                isPrivate := attributes.isPrivate
                encrypt := attributes.encrypt
                decrypt := attributes.decrypt
                sign := attributes.sign
                verify := attributes.verify
                derive := attributes.derive
                wrap := false
                unwrap := false
                encapsulate := attributes.encapsulate
                decapsulate := attributes.decapsulate
                sensitive := attributes.sensitive
                extractable := attributes.extractable
                alwaysSensitive := attributes.alwaysSensitive
                neverExtractable := attributes.neverExtractable
                isLocal := attributes.isLocal
                keyGenMechanism := attributes.keyGenMechanism
                allowedMechanisms := attributes.allowedMechanisms
                wrapWithTrusted := attributes.wrapWithTrusted
                policyTemplates := ⟨wrap, unwrap, derive⟩
                creatorSession := none
                publicKey := some publicKey
                rpId := none
                material := .softwarePrivate key }

def decodePlaintext (schema : String) (plaintext : Bytes) : Except Rv TokenObject :=
  if schema = dataRecordSchema then
    decodeDataObject env.objects slotId true uniqueId plaintext >>= fun object =>
      if object.isPrivate = false then .error .dataInvalid else .ok object
  else if schema = secretRecordSchema then
    if storedSecretKeyInfo plaintext = false then .error .dataInvalid
    else decodeStoredSecretKeyInfo slotId uniqueId plaintext
  else if storedSecretKeyInfo plaintext then .error .dataInvalid
  else
    decodeStoredPrivateKeyInfo env.core env.der plaintext >>= fun result =>
      privateKeyObject slotId uniqueId result.1 result.2

def decodeRecord (name : Bytes) (slotId : Ulong) (uniqueId : String) (masterKey encoded : Bytes) :
    Except Rv TokenObject :=
  readRecordEnvelope encoded >>= fun result =>
    let schema := result.1.1
    let nonce := result.1.2.1
    let ciphertext := result.1.2.2
    if ciphertext.length < tagLength ∨ result.2 ≠ [] then .error .dataInvalid
    else if encodeRecordEnvelope schema nonce ciphertext ≠ encoded then .error .dataInvalid
    else
      (env.decrypt masterKey nonce (recordAad name schema) ciphertext).mapError
          (fun _ => Rv.dataInvalid) >>= fun plaintext =>
        decodePlaintext env slotId uniqueId schema plaintext

end Pkcs11rs.Model
