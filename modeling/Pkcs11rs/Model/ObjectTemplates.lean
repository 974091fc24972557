import Pkcs11rs.Model.ObjectAttributes

/-!
# Attribute templates of the caller

How a caller's `CK_ATTRIBUTE` list is read, applied to an object (`set_attribute_value`,
`set_copy_attribute_value`), turned into a new object (`TokenObjectTemplate`), and merged with
a policy template (`object.rs:2226-2310`, `object.rs:2458-2856`).
-/

set_option autoImplicit false

namespace Pkcs11rs.Model

open Pkcs11rs.Library

/-- `CK_ATTRIBUTE` in the memory of a caller: `memory` is what `pValue` points to (`none` for
the null pointer), `items` what it points to when the value is an attribute array. -/
inductive CkAttribute where
  | mk (type : AttributeType) (length : Ulong) (memory : Option Bytes) (items : List CkAttribute)

namespace CkAttribute

def type : CkAttribute → AttributeType
  | mk type _ _ _ => type

def length : CkAttribute → Ulong
  | mk _ length _ _ => length

def memory : CkAttribute → Option Bytes
  | mk _ _ memory _ => memory

def items : CkAttribute → List CkAttribute
  | mk _ _ _ items => items

/-- An attribute whose value is a byte string. -/
def plain (type : AttributeType) (value : Bytes) : CkAttribute :=
  mk type (UInt64.ofNat value.length) (some value) []

end CkAttribute

def ckAttributeSize : ℕ := 24

def readAttributeValue (attr : CkAttribute) : Except Rv Bytes :=
  if attr.length = ckUnavailableInformation ∨ 2 ^ 63 ≤ attr.length.toNat then
    .error .attributeValueInvalid
  else if 0 < attr.length ∧ attr.memory = none then .error .argumentsBad
  else .ok ((attr.memory.getD []).take attr.length.toNat)

def readUlongTemplateAttribute (attr : CkAttribute) : Except Rv Ulong :=
  if attr.length ≠ 8 then .error .attributeValueInvalid
  else readAttributeValue attr >>= fun value => .ok (ulongFromNeBytes value)

/-- The `match` on `CK_FALSE` and `CK_TRUE`. -/
def boolOfByte (byte : UInt8) : Except Rv Bool :=
  if byte = 0 then .ok false else if byte = 1 then .ok true else .error .attributeValueInvalid

def readBoolTemplateAttribute (attr : CkAttribute) : Except Rv Bool :=
  if attr.length ≠ 1 then .error .attributeValueInvalid
  else readAttributeValue attr >>= fun value => boolOfByte (value.headD 0)

/-- `String::from_utf8`, with the error of an attribute value. -/
def readText (bytes : Bytes) : Except Rv String :=
  match fromUtf8 bytes with
  | some s => .ok s
  | none => .error .attributeValueInvalid

/-! ## Changing an object -/

variable (object : TokenObject)

namespace TokenObject

/-- The attributes of `set_attribute_value` that data objects treat on their own. -/
def setDataAttribute (type : AttributeType) (value : Bytes) : Option (Except Rv TokenObject) :=
  match object.material with
  | .data inst application objectId data =>
    if type = Cka.application then
      some (.ok { object with material := .data inst value objectId data })
    else if type = Cka.objectId then
      some (.ok { object with material := .data inst application value data })
    else if type = Cka.value then
      some (.ok { object with material := .data inst application objectId value })
    else if type = Cka.id then some (.error .attributeTypeInvalid)
    else none
  | _ => none

/-- The `CKA_SENSITIVE` branch of `set_attribute_value`. -/
def setSensitive (attr : CkAttribute) : Except Rv TokenObject :=
  if object.hasSensitiveAttributes = false then .error .attributeTypeInvalid
  else
    readBoolTemplateAttribute attr >>= fun requested =>
      if object.sensitive ∧ requested = false then .error .attributeReadOnly
      else .ok { object with sensitive := requested }

/-- The `CKA_EXTRACTABLE` branch of `set_attribute_value`. -/
def setExtractable (attr : CkAttribute) : Except Rv TokenObject :=
  if object.hasSensitiveAttributes = false then .error .attributeTypeInvalid
  else
    readBoolTemplateAttribute attr >>= fun requested =>
      if object.isNonextractableKeyObject ∧ requested then .error .attributeReadOnly
      else if object.extractable = false ∧ requested then .error .attributeReadOnly
      else .ok { object with extractable := requested }

def setAttributeValue (attr : CkAttribute) : Except Rv TokenObject :=
  readAttributeValue attr >>= fun value =>
    match object.setDataAttribute attr.type value with
    | some result => result
    | none =>
      if attr.type = Cka.label then
        readText value >>= fun label => .ok { object with label := label }
      else if attr.type = Cka.id then .ok { object with id := value }
      else if attr.type = Cka.sensitive then object.setSensitive attr
      else if attr.type = Cka.extractable then object.setExtractable attr
      else if object.supportsAttribute attr.type then .error .attributeReadOnly
      else .error .attributeTypeInvalid

def setCopyAttributeValue (attr : CkAttribute) : Except Rv TokenObject :=
  if attr.type = Cka.token then
    readBoolTemplateAttribute attr >>= fun value => .ok { object with token := value }
  else if attr.type = Cka.private_ then
    readBoolTemplateAttribute attr >>= fun value => .ok { object with isPrivate := value }
  else object.setAttributeValue attr

end TokenObject

/-- The return values in the order in which `combine_attribute_rv` prefers them. -/
def attributeRvOrder : List Rv :=
  [.argumentsBad, .attributeSensitive, .attributeTypeInvalid, .attributeReadOnly, .bufferTooSmall]

def combineAttributeRv (current next : Rv) : Rv :=
  match attributeRvOrder.find? fun rv => rv = current ∨ rv = next with
  | some rv => rv
  | none => next

/-- The loops of `C_SetAttributeValue` and `C_CopyObject`: every attribute is tried on the
object so far, and the errors are combined. -/
def applyAttributes (set : TokenObject → CkAttribute → Except Rv TokenObject) :
    List CkAttribute → TokenObject → Rv → TokenObject × Rv
  | [], object, rv => (object, rv)
  | attr :: templ, object, rv =>
    match set object attr with
    | .ok object => applyAttributes set templ object rv
    | .error error => applyAttributes set templ object (combineAttributeRv rv error)

/-- The outcome of such a loop. -/
def attributesApplied (set : TokenObject → CkAttribute → Except Rv TokenObject)
    (templ : List CkAttribute) (object : TokenObject) : Except Rv TokenObject :=
  let (updated, rv) := applyAttributes set templ object .ok
  if rv = .ok then .ok updated else .error rv

def validateUniqueTemplate (templ : List CkAttribute) : Except Rv Unit :=
  if (templ.map CkAttribute.type).Nodup then .ok () else .error .templateInconsistent

/-! ## Policy values -/

/-- `from_raw_parts` on bytes, as in `read_policy_value`. -/
def readPolicyValue (attr : CkAttribute) : Except Rv Bytes :=
  if attr.length = 0 then .ok []
  else if attr.memory = none ∨ 2 ^ 63 ≤ attr.length.toNat then .error .argumentsBad
  else .ok ((attr.memory.getD []).take attr.length.toNat)

def readPolicyBool (attr : CkAttribute) : Except Rv Bool :=
  if attr.length ≠ 1 then .error .attributeValueInvalid
  else readPolicyValue attr >>= fun value => boolOfByte (value.headD 0)

def readPolicyUlong (attr : CkAttribute) : Except Rv Ulong :=
  if attr.length ≠ 8 then .error .attributeValueInvalid
  else readPolicyValue attr >>= fun value => .ok (ulongFromNeBytes value)

/-- `chunks_exact` by the width of a mechanism, each read as an unsigned long. -/
def ulongChunks : ℕ → Bytes → List Ulong
  | 0, _ => []
  | n + 1, bytes => ulongFromNeBytes (bytes.take 8) :: ulongChunks n (bytes.drop 8)

/-- The mechanism list of an attribute, sorted, without duplicates. -/
def readMechanismList (bytes : Bytes) : Except Rv (List MechanismType) :=
  if bytes.length % 8 ≠ 0 then .error .attributeValueInvalid
  else
    let mechanisms := (ulongChunks (bytes.length / 8) bytes).mergeSort
    if mechanisms.Nodup then .ok mechanisms else .error .templateInconsistent

def keyMetadataError : KeyMetadataError → Rv
  | .unsupportedAttribute _ => .attributeTypeInvalid
  | _ => .attributeValueInvalid

/-- A value other than a template. -/
def SemanticValue.plain (value : KeyAttributeValue) (h : (value.kind == .template) = false) :
    SemanticValue :=
  ⟨value, by cases value <;> first | rfl | cases h⟩

/-- The value of one item in `read_semantic_template_at_depth`; `nested` reads a template one
level deeper. -/
def readSemanticValue (nested : CkAttribute → Except Rv KeyAttributes) (item : CkAttribute) :
    AttributeKind → Except Rv SemanticValue
  | .boolean => readPolicyBool item >>= fun value => .ok (.plain (.boolean value) rfl)
  | .unsigned => readPolicyUlong item >>= fun value => .ok (.plain (.unsigned value) rfl)
  | .bytes => readPolicyValue item >>= fun value => .ok (.plain (.bytes value) rfl)
  | .text =>
    readPolicyValue item >>= fun value => readText value >>= fun text =>
      .ok (.plain (.text text) rfl)
  | .mechanisms =>
    readPolicyValue item >>= fun value =>
      readMechanismList value >>= fun mechanisms =>
        .ok (.plain (.mechanisms mechanisms) rfl)
  | .template =>
    nested item >>= fun template => .ok ⟨.template template.attributes, template.sorted⟩

/-- The loop of `read_semantic_template_at_depth`. -/
def readSemanticEntries (nested : CkAttribute → Except Rv KeyAttributes) :
    List CkAttribute → KeyAttributes → Except Rv KeyAttributes
  | [], result => .ok result
  | item :: rest, result =>
    (attributeKind item.type).mapError keyMetadataError >>= fun kind =>
      readSemanticValue nested item kind >>= fun value =>
        (result.insertTemplate item.type value).mapError keyMetadataError >>= fun inserted =>
          if inserted.1.isSome then .error .templateInconsistent
          else readSemanticEntries nested rest inserted.2

/-- `read_policy_template`; the first argument is `4 - depth`. -/
def readPolicyTemplate : ℕ → CkAttribute → Except Rv KeyAttributes
  | 0, _ => .error .attributeValueInvalid
  | levels + 1, attr =>
    if attr.length.toNat % ckAttributeSize ≠ 0 ∨ 256 < attr.length.toNat / ckAttributeSize then
      .error .attributeValueInvalid
    else if attr.length ≠ 0 ∧ attr.memory = none then .error .argumentsBad
    else
      readSemanticEntries (readPolicyTemplate levels)
        (attr.items.take (attr.length.toNat / ckAttributeSize)) KeyAttributes.new

def readSemanticTemplate (items : List CkAttribute) : Except Rv KeyAttributes :=
  readSemanticEntries (readPolicyTemplate 3) items KeyAttributes.new

/-! ## New objects -/

structure TokenObjectTemplate where
  class_ : Option ObjectClass := none
  keyType : Option KeyType := none
  label : String := ""
  id : Bytes := []
  token : Bool := false
  isPrivate : Bool := false
  encrypt : Bool := false
  decrypt : Bool := false
  sign : Bool := false
  verify : Bool := false
  derive : Bool := false
  wrap : Bool := false
  unwrap : Bool := false
  encapsulate : Bool := false
  decapsulate : Bool := false
  sensitive : Option Bool := none
  extractable : Option Bool := none
  allowedMechanisms : Option (List MechanismType) := none
  wrapWithTrusted : Bool := false
  policyTemplates : KeyPolicyTemplates := {}
  deriving DecidableEq

variable (templ : TokenObjectTemplate)

namespace TokenObjectTemplate

/-- The class checks of `into_object_with_software_secret_policy`. -/
def classPermits (cls : ObjectClass) : Bool :=
  (!templ.wrapWithTrusted || cls = Cko.privateKey || cls = Cko.secretKey) &&
    (templ.policyTemplates.wrap.isNone || cls = Cko.publicKey || cls = Cko.secretKey) &&
    (templ.policyTemplates.unwrap.isNone || cls = Cko.privateKey || cls = Cko.secretKey) &&
    (templ.policyTemplates.derive.isNone || cls = Cko.privateKey || cls = Cko.secretKey)

def intoObjectWithSoftwareSecretPolicy (softwareSecret : Bool) : Except Rv TokenObject :=
  match templ.class_ with
  | none => .error .templateIncomplete
  | some cls =>
    let nonextractableKey : Bool := cls = Cko.secretKey
    let privateKey : Bool := cls = Cko.privateKey
    if templ.classPermits cls = false then .error .templateInconsistent
    else
      let extractable :=
        templ.extractable.getD (!(privateKey || (nonextractableKey && !softwareSecret)))
      if nonextractableKey ∧ softwareSecret = false ∧ extractable then
        .error .attributeValueInvalid
      else
        match templ.keyType with
        | none => .error .templateIncomplete
        | some keyType =>
          .ok
            { class_ := cls
              keyType := keyType
              label := templ.label
              id := templ.id
              token := templ.token
              isPrivate := templ.isPrivate
              encrypt := templ.encrypt
              decrypt := templ.decrypt
              sign := templ.sign
              verify := templ.verify
              derive := templ.derive
              wrap := templ.wrap
              unwrap := templ.unwrap
              encapsulate := templ.encapsulate
              decapsulate := templ.decapsulate
              sensitive := templ.sensitive.getD false
              extractable := extractable
              alwaysSensitive := templ.sensitive.getD false
              neverExtractable := !extractable || (nonextractableKey && !softwareSecret)
              allowedMechanisms := templ.allowedMechanisms
              wrapWithTrusted := templ.wrapWithTrusted
              policyTemplates := templ.policyTemplates }

def intoObject : Except Rv TokenObject :=
  templ.intoObjectWithSoftwareSecretPolicy false

end TokenObjectTemplate

/-! ## Policy templates -/

mutual

/-- One attribute of `OwnedPolicyTemplate`, as `refresh` lays it out for a reader, with the bytes of
`key_attribute_native_value`. -/
def ownedAttribute (type : AttributeType) : KeyAttributeValue → CkAttribute
  | .template nested =>
    .mk type (UInt64.ofNat (nested.len * ckAttributeSize)) (some []) (ownedAttributes nested)
  | .boolean value => .plain type (boolAttribute value)
  | .unsigned value => .plain type (ulongAttribute value)
  | .bytes value => .plain type value
  | .text value => .plain type (utf8 value)
  | .mechanisms values => .plain type (values.flatMap ulongAttribute)

/-- `OwnedPolicyTemplate::from_semantic` and `as_slice`. -/
def ownedAttributes : AttributeMap → List CkAttribute
  | .nil => []
  | .cons type value rest => ownedAttribute type value :: ownedAttributes rest

end

/-- The loop of `merge_policy_template` over the entries of the policy. -/
def mergeEntries : List (AttributeType × SemanticValue) → KeyAttributes → Except Rv KeyAttributes
  | [], merged => .ok merged
  | (type, value) :: rest, merged =>
    match merged.get type with
    | some supplied =>
      if supplied ≠ value.1 then .error .templateInconsistent else mergeEntries rest merged
    | none =>
      (merged.insertTemplate type value).mapError (fun _ => Rv.templateInconsistent) >>=
        fun inserted => mergeEntries rest inserted.2

/-- The entries of a map with the proof that their templates are in order. -/
def AttributeMap.entries : (m : AttributeMap) → m.isSorted = true →
    List (AttributeType × SemanticValue)
  | .nil, _ => []
  | .cons type value rest, h =>
    have hand : value.isSorted = true ∧ rest.startsAbove type = true ∧ rest.isSorted = true := by
      simpa [AttributeMap.isSorted, and_assoc] using h
    (type, ⟨value, hand.1⟩) :: rest.entries hand.2.2

def mergePolicyTemplate (caller : List CkAttribute) (policy : Option KeyAttributes) :
    Except Rv (List CkAttribute) :=
  readSemanticTemplate caller >>= fun merged =>
    (match policy with
      | none => .ok merged
      | some policy => mergeEntries (policy.attributes.entries policy.sorted) merged) >>=
      fun merged => .ok (ownedAttributes merged.attributes)

end Pkcs11rs.Model
