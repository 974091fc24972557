import Pkcs11rs.Library.AssocMap
import Pkcs11rs.Model.KeyMetadataCodec

/-!
# Metadata of backed keys

`KeyBacking` and `BackedKeyMetadata` with their encoding (`key_metadata.rs:92-141`,
`key_metadata.rs:236-407`, `key_metadata.rs:599-619`, `key_metadata.rs:687-712`).

How `minicbor` skips one data item is a parameter: `skip` gives the bytes after the item, or
nothing for bytes that are not CBOR.
-/

set_option autoImplicit false

namespace Pkcs11rs.Model

open Pkcs11rs.Library

variable [CborCodec]

/-- `Decoder::skip`. -/
abbrev CborSkip := Bytes → Option Bytes

/-! ## The backing -/

def maxProviderLength : ℕ := 128

def maxProviderDataLength : ℕ := 16 * 1024 * 1024

/-- A lower-case ASCII letter, a digit, `.`, `-` or `_`. -/
def isProviderByte (byte : UInt8) : Bool :=
  (0x61 ≤ byte ∧ byte ≤ 0x7a) ∨ (0x30 ≤ byte ∧ byte ≤ 0x39) ∨ byte ∈ [0x2e, 0x2d, 0x5f]
variable (skip : CborSkip)

def validateSingleCborItem (encoded : Bytes) : Except KeyMetadataError Unit :=
  if encoded = [] then .error (.malformed "empty backing provider data")
  else
    match skip encoded with
    | none => .error (.malformed "invalid backing provider CBOR")
    | some rest =>
      if rest ≠ [] then .error (.malformed "trailing backing provider data") else .ok ()

structure KeyBacking where
  provider : String
  dataCbor : Bytes
  deriving DecidableEq

def KeyBacking.new (provider : String) (dataCbor : Bytes) : Except KeyMetadataError KeyBacking :=
  if utf8 provider = [] ∨ maxProviderLength < (utf8 provider).length ∨
      (utf8 provider).all isProviderByte = false then
    .error (.malformed "invalid backing provider identifier")
  else if maxProviderDataLength < dataCbor.length then
    .error (.malformed "backing provider data is too large")
  else validateSingleCborItem skip dataCbor >>= fun _ => .ok ⟨provider, dataCbor⟩

/-! ## Aspects -/

def maxAspects : ℕ := 3

def validateObjectClass (cls : ObjectClass) : Except KeyMetadataError Unit :=
  if cls ∈ [Cko.data, Cko.certificate, Cko.publicKey, Cko.privateKey, Cko.secretKey] then .ok ()
  else .error (.unsupportedClass cls)

/-- The entries of a `BTreeMap<u64, KeyAttributes>`, in ascending order. -/
abbrev Aspects := List (ObjectClass × KeyAttributes)

/-- The map part of `BTreeMap::insert`. -/
def Aspects.put (cls : ObjectClass) (attributes : KeyAttributes) : Aspects → Aspects
  | [] => [(cls, attributes)]
  | entry :: rest =>
    if cls < entry.1 then (cls, attributes) :: entry :: rest
    else if cls = entry.1 then (cls, attributes) :: rest
    else entry :: Aspects.put cls attributes rest

structure BackedKeyMetadata where
  backing : KeyBacking
  aspects : Aspects
  deriving DecidableEq

variable (metadata : BackedKeyMetadata) (cls : ObjectClass)

namespace BackedKeyMetadata

def new (backing : KeyBacking) : BackedKeyMetadata := ⟨backing, []⟩

def aspect : Option KeyAttributes :=
  mapGet metadata.aspects cls

/-- `insert_aspect`: the aspect that was replaced and the new record. -/
def insertAspect (attributes : KeyAttributes) :
    Except KeyMetadataError (Option KeyAttributes × BackedKeyMetadata) :=
  validateObjectClass cls >>= fun _ =>
    if maxAspects ≤ metadata.aspects.length ∧ metadata.aspect cls = none then
      .error (.malformed "too many key aspects")
    else
      validateAttributes attributes.attributes >>= fun _ =>
        .ok (metadata.aspect cls,
          { metadata with aspects := Aspects.put cls attributes metadata.aspects })

end BackedKeyMetadata

/-! ## Encoding -/

def backedKeySchema : String := "pkcs11rs.backed-key"

def backedKeySchemaVersion : UInt64 := 1

/-- The loop of `to_cbor`. -/
def encodeAspects : Aspects → Except KeyMetadataError Bytes
  | [] => .ok []
  | entry :: rest =>
    encodeAttributes entry.2 false >>= fun attributes =>
      encodeAspects rest >>= fun entries => .ok (cborUint entry.1 ++ (attributes ++ entries))

/-- The fields that `to_cbor` writes before the aspects. -/
def BackedKeyMetadata.headFields : List Bytes :=
  [cborMap 5, cborUint 1, cborText backedKeySchema, cborUint 2, cborUint backedKeySchemaVersion,
    cborUint 3, cborText metadata.backing.provider, cborUint 4,
    cborBytes metadata.backing.dataCbor, cborUint 5, cborMap metadata.aspects.length]

def BackedKeyMetadata.toCbor : Except KeyMetadataError Bytes :=
  if metadata.aspects = [] then .error (.malformed "backed key has no PKCS #11 aspects")
  else
    encodeAspects metadata.aspects >>= fun entries =>
      .ok (metadata.headFields ++ [entries]).flatten

/-! ## Decoding -/

/-- The loop of `decode_aspects`. -/
def decodeAspectEntries : ℕ → Aspects → Reader KeyMetadataError Aspects
  | 0, aspects => pure aspects
  | n + 1, aspects =>
    readUint invalidCbor >>= fun cls =>
      Reader.lift (validateObjectClass cls) >>= fun _ =>
        decodeAspectAttributes >>= fun attributes =>
          Reader.require (mapGet aspects cls).isNone (.malformed "duplicate key aspect")
            >>= fun _ => decodeAspectEntries n (Aspects.put cls attributes aspects)

def decodeAspects : Reader KeyMetadataError Aspects :=
  definiteMap "key aspects are not a definite map" >>= fun count =>
    Reader.require (decide (count ≤ maxAspects)) (.malformed "too many key aspects") >>= fun _ =>
      decodeAspectEntries count []

/-- The variables that `from_cbor` fills in. -/
structure BackedKeyFields where
  schema : Option String := none
  version : Option UInt64 := none
  provider : Option String := none
  providerData : Option Bytes := none
  aspects : Option Aspects := none

/-- One field in the loop of `from_cbor`. -/
def decodeBackedField (fields : BackedKeyFields) : Reader KeyMetadataError BackedKeyFields :=
  readUint invalidCbor >>= fun key =>
    if key = 1 then
      Reader.require fields.schema.isNone (.malformed "duplicate schema identifier") >>= fun _ =>
        readString invalidCbor >>= fun schema => pure { fields with schema := some schema }
    else if key = 2 then
      Reader.require fields.version.isNone (.malformed "duplicate schema version") >>= fun _ =>
        readUint invalidCbor >>= fun version => pure { fields with version := some version }
    else if key = 3 then
      Reader.require fields.provider.isNone (.malformed "duplicate backing provider") >>= fun _ =>
        readString invalidCbor >>= fun provider => pure { fields with provider := some provider }
    else if key = 4 then
      Reader.require fields.providerData.isNone (.malformed "duplicate backing data") >>= fun _ =>
        readBytes invalidCbor >>= fun data =>
          Reader.require (decide (data.length ≤ maxProviderDataLength))
              (.malformed "backing provider data is too large")
            >>= fun _ => pure { fields with providerData := some data }
    else if key = 5 then
      Reader.require fields.aspects.isNone (.malformed "duplicate key aspects") >>= fun _ =>
        decodeAspects >>= fun aspects => pure { fields with aspects := some aspects }
    else Reader.fail (.malformed "unknown backed-key field")

/-- The loop of `from_cbor`. -/
def decodeBackedFields : ℕ → BackedKeyFields → Reader KeyMetadataError BackedKeyFields
  | 0, fields => pure fields
  | n + 1, fields => decodeBackedField fields >>= fun fields => decodeBackedFields n fields

/-- `ok_or(KeyMetadataError::Malformed(reason))`. -/
def orMalformed {α : Type} (reason : String) : Option α → Except KeyMetadataError α
  | some a => .ok a
  | none => .error (.malformed reason)

def BackedKeyFields.record (fields : BackedKeyFields) : Except KeyMetadataError BackedKeyMetadata :=
  if fields.schema ≠ some backedKeySchema then .error (.malformed "invalid schema identifier")
  else
    orMalformed "missing schema version" fields.version >>= fun version =>
      if version ≠ backedKeySchemaVersion then .error (.unsupportedSchemaVersion version)
      else
        orMalformed "missing backing provider" fields.provider >>= fun provider =>
          orMalformed "missing backing data" fields.providerData >>= fun data =>
            KeyBacking.new skip provider data >>= fun backing =>
              orMalformed "missing key aspects" fields.aspects >>= fun aspects =>
                if aspects = [] then .error (.malformed "backed key has no PKCS #11 aspects")
                else .ok ⟨backing, aspects⟩

def BackedKeyMetadata.fromCbor (encoded : Bytes) : Except KeyMetadataError BackedKeyMetadata :=
  (definiteMap "backed key is not a definite map" >>= fun count =>
    decodeBackedFields count {}) encoded >>= fun result =>
      if result.2 ≠ [] then .error (.malformed "trailing backed-key data")
      else
        result.1.record skip >>= fun record =>
          record.toCbor >>= fun canonical =>
            if canonical ≠ encoded then .error (.malformed "backed key is not canonically encoded")
            else .ok record

end Pkcs11rs.Model
