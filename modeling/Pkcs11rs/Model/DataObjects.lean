import Pkcs11rs.Model.ObjectTemplates

/-!
# Records of data objects and certificates

`encode_data_object` and `decode_data_object` (`backed_object.rs:278-375`).
-/

set_option autoImplicit false

namespace Pkcs11rs.Model

open Pkcs11rs.Library

variable [CborCodec]

def dataObjectSchema : String := "pkcs11rs.data-object"

/-- The fields that a data object or a certificate is stored with. -/
structure DataContents where
  inst : ObjectInstance
  application : Bytes
  objectId : Bytes
  value : Bytes
  deriving DecidableEq

/-- The `match` of `encode_data_object`. -/
def dataContents (object : TokenObject) : Except Rv DataContents :=
  match object.material with
  | .data inst application objectId value =>
    if object.class_ = Cko.data then .ok ⟨inst, application, objectId, value⟩
    else .error .dataInvalid
  | .certificate inst value =>
    if object.class_ = Cko.certificate then .ok ⟨inst, [], [], value⟩ else .error .dataInvalid
  | _ => .error .dataInvalid

/-- The fields that `encode_data_object` writes. -/
def dataObjectFields (object : TokenObject) (contents : DataContents) : List Bytes :=
  [cborArray 10, cborText dataObjectSchema, cborUint 1, cborUint object.class_,
    cborText object.label, cborBytes object.id, cborBool object.isPrivate,
    cborBytes contents.application, cborBytes contents.objectId, cborBytes contents.value,
    cborBytes contents.inst.1]

def encodeDataObject (object : TokenObject) : Except Rv Bytes :=
  dataContents object >>= fun contents => .ok (dataObjectFields object contents).flatten

/-- The object that `decode_data_object` makes of the fields. -/
def dataObjectOf (env : ObjectEnv) (slotId : Ulong) (token : Bool) (uniqueId : String)
    (cls : ObjectClass) (label : String) (id : Bytes) (isPrivate : Bool)
    (contents : DataContents) : Except Rv TokenObject :=
  let common : TokenObjectTemplate :=
    { class_ := some cls
      keyType := some Ckk.genericSecret
      label := label
      id := id
      isPrivate := isPrivate
      token := token }
  (common.intoObject.mapError fun _ => Rv.dataInvalid) >>= fun object =>
    if cls = Cko.certificate then
      if contents.application ≠ [] ∨ contents.objectId ≠ [] ∨
          (env.certificateSubject contents.value).toOption = none then .error .dataInvalid
      else
        .ok { object with
              material := .certificate contents.inst contents.value
              slotId := some slotId
              uniqueId := uniqueId }
    else
      .ok { object with
            material :=
              .data contents.inst contents.application contents.objectId contents.value
            slotId := some slotId
            uniqueId := uniqueId }

/-- The closure of `decode_data_object`. -/
def readDataObject (env : ObjectEnv) (slotId : Ulong) (token : Bool) (uniqueId : String) :
    Reader Rv TokenObject := do
  let count ← readArray .dataInvalid
  Reader.require (decide (count = some 10)) .dataInvalid
  let schema ← readString .dataInvalid
  Reader.require (decide (schema = dataObjectSchema)) .dataInvalid
  let version ← readUint .dataInvalid
  Reader.require (decide (version = 1)) .dataInvalid
  let cls ← readUint .dataInvalid
  Reader.require (decide (cls = Cko.data ∨ cls = Cko.certificate)) .dataInvalid
  let label ← readString .dataInvalid
  let id ← readBytes .dataInvalid
  let isPrivate ← readBool .dataInvalid
  let application ← readBytes .dataInvalid
  let objectId ← readBytes .dataInvalid
  let value ← readBytes .dataInvalid
  let inst ← readBytes .dataInvalid
  if h : inst.length = 16 then
    Reader.lift (dataObjectOf env slotId token uniqueId cls label id isPrivate
      ⟨⟨inst, h⟩, application, objectId, value⟩)
  else Reader.fail .dataInvalid

def decodeDataObject (env : ObjectEnv) (slotId : Ulong) (token : Bool) (uniqueId : String) :
    Bytes → Except Rv TokenObject :=
  readCanonical .dataInvalid (readDataObject env slotId token uniqueId) encodeDataObject

end Pkcs11rs.Model
