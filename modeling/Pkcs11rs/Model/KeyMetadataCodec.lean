import Pkcs11rs.Model.KeyMetadata

/-!
# The encoding of key attributes

`encode_attributes` and `decode_attributes` with the templates nested in them
(`key_metadata.rs:203-222`, `key_metadata.rs:409-420`, `key_metadata.rs:549-712`).

A decoder of the source is a `Reader`.  The items are written and read by `minicbor`, which is any
`CborCodec` here.  The nesting depth is counted down: a reader of templates with `levels` levels left
stands for the depth `MAX_TEMPLATE_DEPTH + 1 - levels`.
-/

set_option autoImplicit false

namespace Pkcs11rs.Model

open Pkcs11rs.Library

variable [CborCodec]

/-! ## Encoding -/

/-- The loop of `validate_attributes`. -/
def validateEntries : AttributeMap → Except KeyMetadataError Unit
  | .nil => .ok ()
  | .cons a v rest => validateAttribute a v >>= fun _ => validateEntries rest

def validateAttributes (attributes : AttributeMap) : Except KeyMetadataError Unit :=
  if maxAttributes < attributes.len then .error (.malformed "too many key attributes")
  else validateEntries attributes

mutual

def encodeAttributeValue : KeyAttributeValue → Except KeyMetadataError Bytes
  | .boolean value => .ok (cborBool value)
  | .unsigned value => .ok (cborUint value)
  | .bytes value => .ok (cborBytes value)
  | .text value => .ok (cborText value)
  | .mechanisms mechanisms =>
    .ok (cborArray mechanisms.length ++ mechanisms.flatMap cborUint)
  | .template attributes =>
    validateTemplateAttributes attributes >>= fun _ =>
      encodeEntries attributes >>= fun entries => .ok (cborMap attributes.len ++ entries)

/-- The loop of `encode_attributes`. -/
def encodeEntries : AttributeMap → Except KeyMetadataError Bytes
  | .nil => .ok []
  | .cons a v rest =>
    encodeAttributeValue v >>= fun value =>
      encodeEntries rest >>= fun entries => .ok (cborUint a ++ (value ++ entries))

end

def encodeAttributes (attributes : KeyAttributes) (template : Bool) :
    Except KeyMetadataError Bytes :=
  (if template then validateTemplateAttributes attributes.attributes
    else validateAttributes attributes.attributes) >>= fun _ =>
    encodeEntries attributes.attributes >>= fun entries =>
      .ok (cborMap attributes.attributes.len ++ entries)

def KeyAttributes.templateToCbor (attributes : KeyAttributes) : Except KeyMetadataError Bytes :=
  encodeAttributes attributes true

/-! ## Decoding -/

/-- `impl From<minicbor::decode::Error> for KeyMetadataError`. -/
def invalidCbor : KeyMetadataError := .malformed "invalid CBOR"

def definiteMap (reason : String) : Reader KeyMetadataError ℕ :=
  readMap invalidCbor >>= fun count =>
    match count with
    | none => Reader.fail (.malformed reason)
    | some count => pure count

/-- The mechanism list of `decode_attribute_value`. -/
def decodeMechanisms : Reader KeyMetadataError (List UInt64) :=
  readArray invalidCbor >>= fun count =>
    match count with
    | none => Reader.fail (.malformed "mechanism list is not a definite array")
    | some count =>
      Reader.require (decide (count ≤ maxAttributes)) (.malformed "too many mechanisms")
        >>= fun _ => (readUint invalidCbor).times count

/-- `decode_attribute_value`; `nested` is `decode_attributes` one level deeper. -/
def decodeAttributeValue (nested : Reader KeyMetadataError KeyAttributes) :
    Reader KeyMetadataError SemanticValue :=
  peekType invalidCbor >>= fun type =>
    match type with
    | .boolean => readBool invalidCbor >>= fun value => pure ⟨.boolean value, rfl⟩
    | .unsigned => readUint invalidCbor >>= fun value => pure ⟨.unsigned value, rfl⟩
    | .bytes => readBytes invalidCbor >>= fun value => pure ⟨.bytes value, rfl⟩
    | .text => readString invalidCbor >>= fun value => pure ⟨.text value, rfl⟩
    | .array => decodeMechanisms >>= fun mechanisms => pure ⟨.mechanisms mechanisms, rfl⟩
    | .map =>
      nested >>= fun attributes => pure ⟨.template attributes.attributes, attributes.sorted⟩
    | _ => Reader.fail (.malformed "unsupported key attribute CBOR value")

/-- The loop of `decode_attributes`; `insert` is `insert` or `insert_template`. -/
def decodeEntries
    (insert : KeyAttributes → AttributeType → SemanticValue →
      Except KeyMetadataError (Option KeyAttributeValue × KeyAttributes))
    (readValue : Reader KeyMetadataError SemanticValue) :
    ℕ → KeyAttributes → Reader KeyMetadataError KeyAttributes
  | 0, attributes => pure attributes
  | n + 1, attributes =>
    readUint invalidCbor >>= fun type =>
      readValue >>= fun value =>
        Reader.lift (insert attributes type value) >>= fun inserted =>
          Reader.require inserted.1.isNone (.malformed "duplicate key attribute") >>= fun _ =>
            decodeEntries insert readValue n inserted.2

/-- `decode_attributes` within the depth limit. -/
def decodeAttributesWith
    (insert : KeyAttributes → AttributeType → SemanticValue →
      Except KeyMetadataError (Option KeyAttributeValue × KeyAttributes))
    (readValue : Reader KeyMetadataError SemanticValue) : Reader KeyMetadataError KeyAttributes :=
  definiteMap "key attributes are not a definite map" >>= fun count =>
    Reader.require (decide (count ≤ maxAttributes)) (.malformed "too many key attributes")
      >>= fun _ => decodeEntries insert readValue count KeyAttributes.new

/-- `decode_attributes` of a template, with the levels of nesting that are left. -/
def decodeTemplate : ℕ → Reader KeyMetadataError KeyAttributes
  | 0 => Reader.fail (.malformed "attribute template nesting is too deep")
  | levels + 1 =>
    decodeAttributesWith KeyAttributes.insertTemplate
      (decodeAttributeValue (decodeTemplate levels))

/-- `decode_attributes` of an aspect, at depth 0. -/
def decodeAspectAttributes : Reader KeyMetadataError KeyAttributes :=
  decodeAttributesWith KeyAttributes.insert
    (decodeAttributeValue (decodeTemplate maxTemplateDepth))

def KeyAttributes.templateFromCbor : Bytes → Except KeyMetadataError KeyAttributes :=
  readCanonical (.malformed "attribute template is not canonically encoded")
    (decodeTemplate maxTemplateDepth) KeyAttributes.templateToCbor

end Pkcs11rs.Model
