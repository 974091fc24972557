import Pkcs11rs.Model.KeyMetadataCodec
import Pkcs11rs.Model.TokenObject

/-!
# The attributes that a software token stores

The optional fields that every record of a software token shares (`software_storage.rs:1417-1520`)
and the attribute record of a private key (`software_storage.rs:333-360`,
`software_storage.rs:1522-1652`).

A record is a CBOR array; here it is the list of its fields, flattened, as a `CborCodec` writes them.
The records are written
on a platform whose `CK_ULONG` has 64 bits, so `stored_u64_to_cryptoki_ulong` always succeeds.
-/

set_option autoImplicit false

namespace Pkcs11rs.Model

open Pkcs11rs.Library

variable [CborCodec]

def recordSchema : String := "pkcs11rs-software-private-key"

def dataRecordSchema : String := "pkcs11rs-software-private-data"

def secretRecordSchema : String := "pkcs11rs-software-secret-key"

def formatVersion : UInt64 := 4

/-! ## Optional fields -/

def validateAllowedMechanisms (mechanisms : List UInt64) : Except Rv Unit :=
  if 256 < mechanisms.length ∨ strictlyAscending mechanisms = false then .error .dataInvalid
  else .ok ()

/-- The bytes that `encode_allowed_mechanisms` writes. -/
def cborMechanisms : Option (List UInt64) → Bytes :=
  cborOption fun mechanisms => cborArray mechanisms.length ++ mechanisms.flatMap cborUint

def encodeAllowedMechanisms (mechanisms : Option (List UInt64)) : Except Rv Bytes :=
  match mechanisms with
  | none => .ok (cborMechanisms none)
  | some mechanisms =>
    validateAllowedMechanisms mechanisms >>= fun _ => .ok (cborMechanisms (some mechanisms))

def decodeAllowedMechanisms : Reader Rv (Option (List UInt64)) :=
  readNullOr .dataInvalid <|
    readArray .dataInvalid >>= fun count =>
      match count with
      | none => Reader.fail .dataInvalid
      | some count =>
        Reader.require (decide (count ≤ 256)) .dataInvalid >>= fun _ =>
          (readUint .dataInvalid).times count >>= fun mechanisms =>
            Reader.lift (validateAllowedMechanisms mechanisms) >>= fun _ => pure mechanisms

def encodePolicyTemplate (template : Option KeyAttributes) : Except Rv (Option Bytes) :=
  match template with
  | none => .ok none
  | some template => (template.templateToCbor.mapError fun _ => Rv.dataInvalid).map some

def decodePolicyTemplate (encoded : Option Bytes) : Except Rv (Option KeyAttributes) :=
  match encoded with
  | none => .ok none
  | some encoded =>
    ((KeyAttributes.templateFromCbor encoded).mapError fun _ => Rv.dataInvalid).map some

def encodeOptionalBytes : Option Bytes → Bytes := cborOption cborBytes

def decodeOptionalBytes : Reader Rv (Option Bytes) :=
  readNullOr .dataInvalid (readBytes .dataInvalid)

/-- The optional number of a key generation mechanism. -/
def decodeKeyGenMechanism : Reader Rv (Option UInt64) :=
  readNullOr .dataInvalid (readUint .dataInvalid)

/-! ## The attribute record of a private key -/

structure StoredAttributes where
  class_ : UInt64
  keyType : UInt64
  label : String
  id : Bytes
  isPrivate : Bool
  encrypt : Bool
  decrypt : Bool
  sign : Bool
  verify : Bool
  derive : Bool
  encapsulate : Bool
  decapsulate : Bool
  sensitive : Bool
  extractable : Bool
  alwaysSensitive : Bool
  neverExtractable : Bool
  isLocal : Bool
  keyGenMechanism : Option UInt64
  allowedMechanisms : Option (List UInt64)
  wrapWithTrusted : Bool
  wrapTemplate : Option Bytes
  unwrapTemplate : Option Bytes
  deriveTemplate : Option Bytes
  deriving DecidableEq

def storedAttributes (object : TokenObject) : Except Rv StoredAttributes :=
  encodePolicyTemplate object.policyTemplates.wrap >>= fun wrapTemplate =>
    encodePolicyTemplate object.policyTemplates.unwrap >>= fun unwrapTemplate =>
      encodePolicyTemplate object.policyTemplates.derive >>= fun deriveTemplate =>
        .ok
          { class_ := object.class_
            keyType := object.keyType
            label := object.label
            id := object.id
            isPrivate := object.isPrivate
            encrypt := object.encrypt
            decrypt := object.decrypt
            sign := object.sign
            verify := object.verify
            derive := object.derive
            encapsulate := object.encapsulate
            decapsulate := object.decapsulate
            sensitive := object.sensitive
            extractable := object.extractable
            alwaysSensitive := object.alwaysSensitive
            neverExtractable := object.neverExtractable
            isLocal := object.isLocal
            keyGenMechanism := object.keyGenMechanism
            allowedMechanisms := object.allowedMechanisms
            wrapWithTrusted := object.wrapWithTrusted
            wrapTemplate := wrapTemplate
            unwrapTemplate := unwrapTemplate
            deriveTemplate := deriveTemplate }

/-- The fields that `encode_stored_attributes` writes. -/
def storedAttributeFields (attributes : StoredAttributes) : List Bytes :=
  [cborArray 25, cborText recordSchema, cborUint formatVersion, cborUint attributes.class_,
    cborUint attributes.keyType, cborText attributes.label, cborBytes attributes.id,
    cborBool attributes.isPrivate, cborBool attributes.encrypt, cborBool attributes.decrypt,
    cborBool attributes.sign, cborBool attributes.verify, cborBool attributes.derive,
    cborBool attributes.encapsulate, cborBool attributes.decapsulate,
    cborBool attributes.sensitive, cborBool attributes.extractable,
    cborBool attributes.alwaysSensitive, cborBool attributes.neverExtractable,
    cborBool attributes.isLocal, cborOption cborUint attributes.keyGenMechanism,
    cborMechanisms attributes.allowedMechanisms, cborBool attributes.wrapWithTrusted,
    encodeOptionalBytes attributes.wrapTemplate, encodeOptionalBytes attributes.unwrapTemplate,
    encodeOptionalBytes attributes.deriveTemplate]

def encodeStoredAttributes (attributes : StoredAttributes) : Except Rv Bytes :=
  encodeAllowedMechanisms attributes.allowedMechanisms >>= fun _ =>
    .ok (storedAttributeFields attributes).flatten

/-- The fields of `decode_stored_attributes` after the count. -/
def readStoredAttributes (current : Bool) : Reader Rv StoredAttributes := do
  let schema ← readString .dataInvalid
  Reader.require (decide (schema = recordSchema)) .dataInvalid
  let version ← readUint .dataInvalid
  Reader.require (decide (version = formatVersion)) .dataInvalid
  let class_ ← readUint .dataInvalid
  let keyType ← readUint .dataInvalid
  let label ← readString .dataInvalid
  let id ← readBytes .dataInvalid
  let isPrivate ← readBool .dataInvalid
  let encrypt ← readBool .dataInvalid
  let decrypt ← readBool .dataInvalid
  let sign ← readBool .dataInvalid
  let verify ← readBool .dataInvalid
  let derive ← readBool .dataInvalid
  -- records of 23 fields do not have the two encapsulation flags
  let encapsulate ← if current then readBool .dataInvalid else pure false
  let decapsulate ← if current then readBool .dataInvalid else pure false
  let sensitive ← readBool .dataInvalid
  let extractable ← readBool .dataInvalid
  let alwaysSensitive ← readBool .dataInvalid
  let neverExtractable ← readBool .dataInvalid
  let isLocal ← readBool .dataInvalid
  let keyGenMechanism ← decodeKeyGenMechanism
  let allowedMechanisms ← decodeAllowedMechanisms
  let wrapWithTrusted ← readBool .dataInvalid
  let wrapTemplate ← decodeOptionalBytes
  let unwrapTemplate ← decodeOptionalBytes
  let deriveTemplate ← decodeOptionalBytes
  pure
    { class_, keyType, label, id, isPrivate, encrypt, decrypt, sign, verify, derive,
      encapsulate, decapsulate, sensitive, extractable, alwaysSensitive, neverExtractable,
      isLocal, keyGenMechanism, allowedMechanisms, wrapWithTrusted, wrapTemplate,
      unwrapTemplate, deriveTemplate }

def decodeStoredAttributes (encoded : Bytes) : Except Rv StoredAttributes :=
  readArray .dataInvalid encoded >>= fun count =>
    if count.1 ≠ some 23 ∧ count.1 ≠ some 25 then .error .dataInvalid
    else
      readStoredAttributes (count.1 = some 25) count.2 >>= fun attributes =>
        if attributes.2 ≠ [] then .error .dataInvalid
        else if count.1 = some 25 then
          encodeStoredAttributes attributes.1 >>= fun canonical =>
            if canonical ≠ encoded then .error .dataInvalid else .ok attributes.1
        else .ok attributes.1

end Pkcs11rs.Model
