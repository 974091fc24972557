import Pkcs11rs.Model.Attributes

/-!
# Key attributes

The semantic attribute values and attribute maps of `key_metadata.rs:146-240` and the checks
that guard an insertion (`key_metadata.rs:402-550`).

The source keeps the attributes of an aspect or of a policy template in a `BTreeMap`.  Here
such a map is its list of entries in ascending order of the attribute number; `KeyAttributes`
carries the proof that the list, and every template nested in it, is in that order.
-/

set_option autoImplicit false

namespace Pkcs11rs.Model

open Pkcs11rs.Library

mutual

inductive KeyAttributeValue where
  | boolean (value : Bool)
  | unsigned (value : UInt64)
  | bytes (value : Bytes)
  | text (value : String)
  | mechanisms (values : List UInt64)
  | template (attributes : AttributeMap)
  deriving DecidableEq, Repr

/-- The entries of a `BTreeMap<u64, KeyAttributeValue>`. -/
inductive AttributeMap where
  | nil
  | cons (type : AttributeType) (value : KeyAttributeValue) (rest : AttributeMap)
  deriving DecidableEq, Repr

end

namespace AttributeMap

def get : AttributeMap → AttributeType → Option KeyAttributeValue
  | nil, _ => none
  | cons b v rest, a => if a = b then some v else rest.get a

def len : AttributeMap → ℕ
  | nil => 0
  | cons _ _ rest => rest.len + 1

/-- The map part of `BTreeMap::insert`. -/
def put (a : AttributeType) (v : KeyAttributeValue) : AttributeMap → AttributeMap
  | nil => cons a v nil
  | cons b w rest =>
    if a < b then cons a v (cons b w rest)
    else if a = b then cons a v rest
    else cons b w (rest.put a v)

/-- The map part of `BTreeMap::remove`. -/
def remove (a : AttributeType) : AttributeMap → AttributeMap
  | nil => nil
  | cons b w rest => if a = b then rest else cons b w (rest.remove a)

/-- The first attribute number, if any, is above the given one. -/
def startsAbove (a : AttributeType) : AttributeMap → Bool
  | nil => true
  | cons b _ _ => decide (a < b)

end AttributeMap

mutual

/-- Every template nested in the value is in ascending order. -/
def KeyAttributeValue.isSorted : KeyAttributeValue → Bool
  | .boolean _ => true
  | .unsigned _ => true
  | .bytes _ => true
  | .text _ => true
  | .mechanisms _ => true
  | .template attributes => attributes.isSorted

/-- The map and every template nested in it are in ascending order. -/
def AttributeMap.isSorted : AttributeMap → Bool
  | .nil => true
  | .cons a v rest => v.isSorted && rest.startsAbove a && rest.isSorted

end

/-- A `KeyAttributeValue` of the source: what a map inside it can be. -/
abbrev SemanticValue := { value : KeyAttributeValue // value.isSorted = true }

structure KeyAttributes where
  attributes : AttributeMap
  sorted : attributes.isSorted = true
  deriving DecidableEq

instance : Inhabited KeyAttributes := ⟨⟨.nil, rfl⟩⟩

namespace AttributeMap

/-- The empty map. -/
@[simp] theorem startsAbove_nil (a : AttributeType) : nil.startsAbove a = true := rfl

/-- The first entry counts. -/
@[simp] theorem startsAbove_cons (a b : AttributeType) (v : KeyAttributeValue)
    (rest : AttributeMap) : (cons b v rest).startsAbove a = decide (a < b) := rfl

/-- A larger number is put. -/
theorem startsAbove_put {a b : AttributeType} {v : KeyAttributeValue} {m : AttributeMap}
    (hab : a < b) (hm : m.startsAbove a = true) : (m.put b v).startsAbove a = true := by
  cases m with
  | nil => simpa [put] using hab
  | cons c w rest =>
    unfold put
    split
    · simpa using hab
    · split
      · simpa using hab
      · exact hm

/-- A put keeps the order. -/
theorem isSorted_put {a : AttributeType} {v : KeyAttributeValue} (hv : v.isSorted = true) :
    ∀ {m : AttributeMap}, m.isSorted = true → (m.put a v).isSorted = true
  | nil, _ => by simp [put, isSorted, hv]
  | cons b w rest, hm => by
      simp only [isSorted, Bool.and_eq_true] at hm
      obtain ⟨⟨hw, habove⟩, hrest⟩ := hm
      unfold put
      split
      · rename_i hab
        simp [isSorted, hv, hab, hw, habove, hrest]
      · rename_i hab
        split
        · rename_i heq
          simp [isSorted, hv, heq, habove, hrest]
        · rename_i hne
          have hba : b < a := by
            rw [UInt64.lt_iff_toNat_lt] at hab ⊢
            have hne' : a.toNat ≠ b.toNat := fun h => hne (UInt64.toNat_inj.mp h)
            omega
          simp [isSorted, hw, startsAbove_put hba habove, isSorted_put hv hrest]

/-- A smaller bound. -/
theorem startsAbove_of_lt {a b : AttributeType} {m : AttributeMap} (hab : a < b)
    (hm : m.startsAbove b = true) : m.startsAbove a = true := by
  cases m with
  | nil => rfl
  | cons c w rest =>
    simp only [startsAbove_cons, decide_eq_true_eq] at hm ⊢
    exact UInt64.lt_trans hab hm

/-- A removal keeps the bound. -/
theorem startsAbove_remove {a b : AttributeType} :
    ∀ {m : AttributeMap}, m.isSorted = true → m.startsAbove a = true →
      (m.remove b).startsAbove a = true
  | nil, _, _ => rfl
  | cons c w rest, hsorted, habove => by
      simp only [isSorted, Bool.and_eq_true] at hsorted
      unfold remove
      split
      · exact startsAbove_of_lt (by simpa using habove) hsorted.1.2
      · exact habove

/-- A removal keeps the order. -/
theorem isSorted_remove {a : AttributeType} :
    ∀ {m : AttributeMap}, m.isSorted = true → (m.remove a).isSorted = true
  | nil, _ => rfl
  | cons b w rest, hm => by
      simp only [isSorted, Bool.and_eq_true] at hm
      obtain ⟨⟨hw, habove⟩, hrest⟩ := hm
      unfold remove
      split
      · exact hrest
      · simp [isSorted, hw, startsAbove_remove hrest habove, isSorted_remove hrest]

end AttributeMap

/-! ## The kinds of attributes -/

inductive KeyMetadataError where
  | malformed (reason : String)
  | unsupportedSchemaVersion (version : UInt64)
  | unsupportedClass (cls : UInt64)
  | unsupportedAttribute (type : UInt64)
  | invalidAttributeType (type : UInt64)
  deriving DecidableEq, Repr

inductive AttributeKind where
  | boolean
  | unsigned
  | bytes
  | text
  | mechanisms
  | template
  deriving DecidableEq, Repr

/-- The attributes of `AttributeKind::Boolean`. -/
def booleanAttributes : List AttributeType :=
  [Cka.token, Cka.private_, Cka.modifiable, Cka.copyable, Cka.destroyable, Cka.derive,
    Cka.local_, Cka.encrypt, Cka.verify, Cka.verifyRecover, Cka.wrap, Cka.encapsulate,
    Cka.trusted, Cka.sensitive, Cka.decrypt, Cka.sign, Cka.signRecover, Cka.unwrap,
    Cka.decapsulate, Cka.extractable, Cka.alwaysSensitive, Cka.neverExtractable,
    Cka.wrapWithTrusted, Cka.alwaysAuthenticate]

/-- The attributes of `AttributeKind::Unsigned`. -/
def unsignedAttributes : List AttributeType :=
  [Cka.class_, Cka.keyType, Cka.keyGenMechanism, Cka.objectValidationFlags, Cka.modulusBits,
    Cka.valueLen]

/-- The attributes of `AttributeKind::Bytes` below the vendor range. -/
def bytesAttributes : List AttributeType :=
  [Cka.id, Cka.startDate, Cka.endDate, Cka.subject, Cka.publicKeyInfo, Cka.publicCrc64Value,
    Cka.checkValue, Cka.modulus, Cka.publicExponent, Cka.privateExponent, Cka.prime1,
    Cka.prime2, Cka.exponent1, Cka.exponent2, Cka.coefficient, Cka.ecParams, Cka.ecPoint,
    Cka.value]

variable (type : AttributeType)

def attributeKind : Except KeyMetadataError AttributeKind :=
  if type ∈ booleanAttributes then .ok .boolean
  else if type ∈ unsignedAttributes then .ok .unsigned
  else if type = Cka.label ∨ type = Cka.uniqueId then .ok .text
  else if type = Cka.allowedMechanisms then .ok .mechanisms
  else if type ∈ [Cka.wrapTemplate, Cka.unwrapTemplate, Cka.deriveTemplate] then
    .ok .template
  else if type ∈ bytesAttributes then .ok .bytes
  else if Cka.vendorDefined ≤ type then .ok .bytes
  else .error (.unsupportedAttribute type)

def KeyAttributeValue.kind : KeyAttributeValue → AttributeKind
  | .boolean _ => .boolean
  | .unsigned _ => .unsigned
  | .bytes _ => .bytes
  | .text _ => .text
  | .mechanisms _ => .mechanisms
  | .template _ => .template

def maxAttributes : ℕ := 256

def maxTemplateDepth : ℕ := 4

/-- No two neighbours `pair[0] >= pair[1]`. -/
def strictlyAscending : List UInt64 → Bool
  | a :: b :: rest => decide (a < b) && strictlyAscending (b :: rest)
  | _ => true

def validateAttributeType (value : KeyAttributeValue) : Except KeyMetadataError Unit :=
  attributeKind type >>= fun expected =>
    if expected ≠ value.kind then .error (.invalidAttributeType type)
    else
      match value with
      | .mechanisms mechanisms =>
        if maxAttributes < mechanisms.length ∨ strictlyAscending mechanisms = false then
          .error (.malformed "mechanism list is not sorted and unique")
        else .ok ()
      | _ => .ok ()

mutual

/-- The templates inside a value. -/
def validateNested : KeyAttributeValue → Except KeyMetadataError Unit
  | .template attributes =>
    if maxAttributes < attributes.len then .error (.malformed "too many key attributes")
    else validateTemplateEntries attributes
  | .boolean _ => .ok ()
  | .unsigned _ => .ok ()
  | .bytes _ => .ok ()
  | .text _ => .ok ()
  | .mechanisms _ => .ok ()

def validateTemplateEntries : AttributeMap → Except KeyMetadataError Unit
  | .nil => .ok ()
  | .cons a v rest =>
    validateAttributeType a v >>= fun _ =>
      validateNested v >>= fun _ => validateTemplateEntries rest

end

def validateTemplateAttributes (attributes : AttributeMap) : Except KeyMetadataError Unit :=
  if maxAttributes < attributes.len then .error (.malformed "too many key attributes")
  else validateTemplateEntries attributes

def validateTemplateAttribute (value : KeyAttributeValue) : Except KeyMetadataError Unit :=
  validateAttributeType type value >>= fun _ => validateNested value

def validateAttribute (value : KeyAttributeValue) : Except KeyMetadataError Unit :=
  if type = Cka.class_ ∨ type = Cka.token then
    .error (.malformed "structural attribute present in key aspect")
  else validateAttributeType type value >>= fun _ => validateNested value

/-! ## Insertion -/

namespace KeyAttributes

def new : KeyAttributes := ⟨.nil, rfl⟩

def get (attributes : KeyAttributes) (type : AttributeType) : Option KeyAttributeValue :=
  attributes.attributes.get type

/-- `KeyAttributes::insert` and `insert_template`, which differ in the check they make; the
result is the value replaced and the new map. -/
def insertChecked
    (validate : AttributeType → KeyAttributeValue → Except KeyMetadataError Unit)
    (attributes : KeyAttributes) (type : AttributeType) (value : SemanticValue) :
    Except KeyMetadataError (Option KeyAttributeValue × KeyAttributes) :=
  if maxAttributes ≤ attributes.attributes.len ∧ attributes.get type = none then
    .error (.malformed "too many key attributes")
  else
    validate type value >>= fun _ =>
      .ok (attributes.get type,
        ⟨attributes.attributes.put type value, AttributeMap.isSorted_put value.2 attributes.sorted⟩)

def insert := insertChecked validateAttribute

def insertTemplate := insertChecked validateTemplateAttribute

/-- `KeyAttributes::remove`: the map that is left. -/
def remove (attributes : KeyAttributes) (type : AttributeType) : KeyAttributes :=
  ⟨attributes.attributes.remove type, AttributeMap.isSorted_remove attributes.sorted⟩

end KeyAttributes

end Pkcs11rs.Model
