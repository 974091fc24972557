import Mathlib.Tactic.SplitIfs
import Pkcs11rs.Model.KeyMetadataCodec

/-!
# Key attributes survive their encoding

`reads_decodeTemplate`: a template that is nested no deeper than the decoder allows is read back
from its encoding.  As the bound on the nesting can be any number there, the encoding of a
template determines it (`templateToCbor_injective`).  `template_from_cbor` gives the template back
exactly if it is within the depth limit (`templateFromCbor_eq_ok_iff`).
-/

set_option autoImplicit false

namespace Pkcs11rs.Analysis

open Pkcs11rs.Library Pkcs11rs.Model AttributeMap KeyAttributes Reads Reader

variable {v : KeyAttributeValue} {m : AttributeMap}
  {readValue : Reader KeyMetadataError SemanticValue} {attributes : KeyAttributes} {encoded : Bytes}
  {levels : ℕ} {a : AttributeType} {rest : AttributeMap}
  {validate : AttributeType → KeyAttributeValue → Except KeyMetadataError Unit}
  {acc : KeyAttributes}

/-! ## Inserting in ascending order -/

/-- Every attribute number of the map is below the given one. -/
def EndsBelow (a : AttributeType) : AttributeMap → Prop
  | .nil => True
  | .cons b _ rest => b < a ∧ EndsBelow a rest

/-- The entries of one map after those of another. -/
def appendMap : AttributeMap → AttributeMap → AttributeMap
  | .nil, m => m
  | .cons a v rest, m => .cons a v (appendMap rest m)

/-- The first map ends below the second. -/
def Joins (m : AttributeMap) : AttributeMap → Prop
  | .nil => True
  | .cons a _ _ => EndsBelow a m

/-- The order of attribute numbers. -/
theorem not_lt_of_lt {a b : UInt64} (h : a < b) : ¬ b < a := by
  rw [UInt64.lt_iff_toNat_lt] at h ⊢
  omega

/-- Different attribute numbers. -/
theorem ne_of_lt_uint64 {a b : UInt64} (h : a < b) : b ≠ a := by
  rintro rfl
  exact not_lt_of_lt h h

/-- A larger number is put at the end. -/
theorem put_of_endsBelow :
    ∀ {m : AttributeMap}, EndsBelow a m → m.put a v = appendMap m (.cons a v .nil)
  | .nil, _ => rfl
  | .cons b w rest, h => by
      simp only [put, if_neg (not_lt_of_lt h.1), if_neg (ne_of_lt_uint64 h.1),
        appendMap, put_of_endsBelow h.2]

/-- A larger number has no value. -/
theorem get_of_endsBelow : ∀ {m : AttributeMap}, EndsBelow a m → m.get a = none
  | .nil, _ => rfl
  | .cons b w rest, h => by
      simp only [AttributeMap.get, if_neg (ne_of_lt_uint64 h.1), get_of_endsBelow h.2]

/-- The end after an entry is added. -/
theorem endsBelow_append {b : AttributeType} (hab : a < b) :
    ∀ {m : AttributeMap}, EndsBelow a m → EndsBelow b (appendMap m (.cons a v .nil))
  | .nil, _ => ⟨hab, trivial⟩
  | .cons _ _ _, h => ⟨UInt64.lt_trans h.1 hab, endsBelow_append hab h.2⟩

variable {a : AttributeType}

/-- An entry is moved to the first part. -/
theorem joins_append (h : EndsBelow a m) (hrest : rest.startsAbove a = true) :
    Joins (appendMap m (.cons a v .nil)) rest := by
  cases rest with
  | nil => trivial
  | cons b w rest =>
    rw [startsAbove_cons, decide_eq_true_eq] at hrest
    exact endsBelow_append hrest h

/-- Entries are added one by one. -/
theorem appendMap_assoc (a : AttributeType) (v : KeyAttributeValue) (rest : AttributeMap) :
    ∀ m : AttributeMap,
      appendMap (appendMap m (.cons a v .nil)) rest = appendMap m (.cons a v rest)
  | .nil => rfl
  | .cons _ _ m => by simp only [appendMap, appendMap_assoc a v rest m]

/-- One entry more. -/
theorem len_appendMap (a : AttributeType) (v : KeyAttributeValue) :
    ∀ m : AttributeMap, (appendMap m (.cons a v .nil)).len = m.len + 1
  | .nil => rfl
  | .cons _ _ m => by simp only [appendMap, len, len_appendMap a v m]

/-- Nothing is added. -/
theorem appendMap_nil : ∀ m : AttributeMap, appendMap m .nil = m
  | .nil => rfl
  | .cons _ _ m => by simp only [appendMap, appendMap_nil m]

/-- The first part is empty. -/
theorem joins_nil (m : AttributeMap) : Joins .nil m := by
  cases m with
  | nil | cons => trivial

/-! ## What the checks say -/

/-- A mechanism list is not longer than the decoder reads. -/
def MechanismsBounded : KeyAttributeValue → Prop
  | .mechanisms mechanisms => mechanisms.length ≤ maxAttributes
  | _ => True

/-- Valid types have few mechanisms. -/
theorem validateAttributeType_bounded (h : validateAttributeType a v = .ok ()) :
    MechanismsBounded v := by
  obtain ⟨expected, -, h⟩ := bind_eq_ok.mp h
  grind [MechanismsBounded]

/-- The same in templates. -/
theorem validateTemplateAttribute_bounded (h : validateTemplateAttribute a v = .ok ()) :
    MechanismsBounded v := by
  obtain ⟨_, htype, _⟩ := bind_eq_ok.mp h
  exact validateAttributeType_bounded htype

/-- The same of attributes. -/
theorem validateAttribute_bounded (h : validateAttribute a v = .ok ()) : MechanismsBounded v := by
  unfold validateAttribute at h
  split_ifs at h
  obtain ⟨_, htype, _⟩ := bind_eq_ok.mp h
  exact validateAttributeType_bounded htype

/-- Every entry of the map passes the check. -/
def AllValid (validate : AttributeType → KeyAttributeValue → Except KeyMetadataError Unit) :
    AttributeMap → Prop
  | .nil => True
  | .cons a v rest => validate a v = .ok () ∧ AllValid validate rest

/-- The check of a template looks at every entry. -/
theorem allValid_template : ∀ {m : AttributeMap}, validateTemplateEntries m = .ok () →
    AllValid validateTemplateAttribute m
  | .nil, _ => trivial
  | .cons a v rest, h => by
      obtain ⟨_, htype, h⟩ := bind_eq_ok.mp h
      obtain ⟨_, hnested, h⟩ := bind_eq_ok.mp h
      exact ⟨bind_eq_ok.mpr ⟨(), htype, hnested⟩, allValid_template h⟩

/-- The check of an aspect looks at every entry. -/
theorem allValid_aspect : ∀ {m : AttributeMap}, validateEntries m = .ok () →
    AllValid validateAttribute m
  | .nil, _ => trivial
  | .cons a v rest, h => by
      obtain ⟨_, hvalid, h⟩ := bind_eq_ok.mp h
      exact ⟨hvalid, allValid_aspect h⟩

/-- What the check of a template says. -/
theorem validateTemplateAttributes_ok (h : validateTemplateAttributes m = .ok ()) :
    m.len ≤ maxAttributes ∧ AllValid validateTemplateAttribute m := by
  grind [validateTemplateAttributes, allValid_template]

/-- What the check of an aspect says. -/
theorem validateAttributes_ok (h : validateAttributes m = .ok ()) :
    m.len ≤ maxAttributes ∧ AllValid validateAttribute m := by
  grind [validateAttributes, allValid_aspect]

/-! ## Reading back -/

mutual

/-- The depth of the templates in a value. -/
def valueDepth : KeyAttributeValue → ℕ
  | .template attributes => mapDepth attributes + 1
  | .boolean _ => 0
  | .unsigned _ => 0
  | .bytes _ => 0
  | .text _ => 0
  | .mechanisms _ => 0

/-- The depth of the templates in the values of a map. -/
def mapDepth : AttributeMap → ℕ
  | .nil => 0
  | .cons _ v rest => max (valueDepth v) (mapDepth rest)

end

/-- A put keeps the depth. -/
theorem mapDepth_put_le (hv : valueDepth v ≤ levels) :
    ∀ {m : AttributeMap}, mapDepth m ≤ levels → mapDepth (m.put a v) ≤ levels
  | .nil, _ => by simpa [put, mapDepth] using hv
  | .cons b w rest, hm => by
      simp only [mapDepth, Nat.max_le] at hm
      unfold put
      split
      · simp only [mapDepth, Nat.max_le]
        exact ⟨hv, hm⟩
      · split
        · simp only [mapDepth, Nat.max_le]
          exact ⟨hv, hm.2⟩
        · simp only [mapDepth, Nat.max_le]
          exact ⟨hm.1, mapDepth_put_le hv hm.2⟩

section

variable (hbelow : EndsBelow a acc.attributes) (hlen : acc.attributes.len < maxAttributes)

include hbelow hlen

/-- One entry is inserted after those below it. -/
theorem insertChecked_of_endsBelow {v : SemanticValue} (hvalid : validate a v = .ok ()) :
    ∃ inserted, insertChecked validate acc a v = .ok (none, inserted) ∧
      inserted.attributes = appendMap acc.attributes (.cons a v .nil) := by
  have hget : acc.get a = none := get_of_endsBelow hbelow
  have hroom : ¬ (maxAttributes ≤ acc.attributes.len ∧ acc.get a = none) := by omega
  refine ⟨⟨acc.attributes.put a v, isSorted_put v.2 acc.sorted⟩, ?_, put_of_endsBelow hbelow⟩
  rw [insertChecked, if_neg hroom, hvalid, hget]
  rfl

variable [CborCodec]

/-- The loop of `decode_attributes` reads the entries of a map behind those it has. -/
theorem reads_decodeEntries_cons {v : SemanticValue} {value entries : Bytes}
    (hvalid : validate a v = .ok ()) (hvalue : Reads readValue value v)
    (hrest : ∀ inserted : KeyAttributes,
      inserted.attributes = appendMap acc.attributes (.cons a v .nil) →
      ∃ result, Reads (decodeEntries (insertChecked validate) readValue rest.len
        inserted) entries result ∧ result.attributes = appendMap inserted.attributes rest) :
    ∃ result, Reads (decodeEntries (insertChecked validate) readValue
        (rest.len + 1) acc) (cborUint a ++ (value ++ entries)) result ∧
      result.attributes = appendMap acc.attributes (.cons a v rest) := by
  obtain ⟨inserted, hinsert, happend⟩ := insertChecked_of_endsBelow hbelow hlen hvalid
  obtain ⟨result, hread, hresult⟩ := hrest inserted happend
  refine ⟨result, ?_, ?_⟩
  · refine (reads_readUint invalidCbor a).bind (hvalue.bind (lift hinsert ?_))
    exact check rfl hread
  · rw [hresult, happend, appendMap_assoc]

end

variable [CborCodec]

/-- `decode_attributes` reads a map from the encoding of its entries. -/
theorem reads_decodeAttributesWith (attributes : KeyAttributes) {entries : Bytes}
    (hlen : attributes.attributes.len ≤ maxAttributes)
    (hentries : ∃ result, Reads (decodeEntries (insertChecked validate) readValue
      attributes.attributes.len new) entries result ∧
      result.attributes = attributes.attributes) :
    Reads (decodeAttributesWith (insertChecked validate) readValue)
      (cborMap attributes.attributes.len ++ entries) attributes := by
  obtain ⟨result, hread, hresult⟩ := hentries
  have hsame : result = attributes := by
    cases result
    cases attributes
    cases hresult
    rfl
  rw [hsame] at hread
  have hcount : attributes.attributes.len < 2 ^ 64 := by
    unfold maxAttributes at hlen
    omega
  have hmap : Reads (definiteMap "key attributes are not a definite map")
      (cborMap attributes.attributes.len) attributes.attributes.len :=
    (reads_readMap invalidCbor hcount).last (pure attributes.attributes.len)
  exact hmap.bind (check (decide_eq_true hlen) hread)

/-- A mechanism list. -/
theorem reads_decodeMechanisms {mechanisms : List UInt64} (h : mechanisms.length ≤ maxAttributes) :
    Reads decodeMechanisms (cborArray mechanisms.length ++ mechanisms.flatMap cborUint)
      mechanisms := by
  have hcount : mechanisms.length < 2 ^ 64 := by
    unfold maxAttributes at h
    omega
  refine (reads_readArray invalidCbor hcount).bind ?_
  exact check (decide_eq_true h) (times fun value _ => reads_readUint invalidCbor value)

mutual

/-- `decode_attribute_value` reads a value back. -/
theorem reads_decodeAttributeValue : ∀ (v : KeyAttributeValue) (hv : v.isSorted = true)
    (levels : ℕ) {bytes : Bytes}, encodeAttributeValue v = .ok bytes → bytes.length < 2 ^ 64 →
    valueDepth v ≤ levels → MechanismsBounded v →
    Reads (decodeAttributeValue (decodeTemplate levels)) bytes ⟨v, hv⟩
  | .boolean value, _, _, _, hencode, _, _, _ => by
      cases hencode
      exact peek (startsWith_cborBool invalidCbor value) ((reads_readBool invalidCbor value).map _)
  | .unsigned value, _, _, _, hencode, _, _, _ => by
      cases hencode
      exact peek (startsWith_cborUint invalidCbor value) ((reads_readUint invalidCbor value).map _)
  | .bytes value, _, _, _, hencode, hlen, _, _ => by
      cases hencode
      have hvalue : value.length < 2 ^ 64 := (length_le_cborBytes value).trans_lt hlen
      exact peek (startsWith_cborBytes invalidCbor value) ((reads_readBytes invalidCbor hvalue).map _)
  | .text value, _, _, _, hencode, hlen, _, _ => by
      cases hencode
      have hvalue : (utf8 value).length < 2 ^ 64 := (length_le_cborText value).trans_lt hlen
      exact peek (startsWith_cborText invalidCbor value) ((reads_readString invalidCbor hvalue).map _)
  | .mechanisms mechanisms, _, _, _, hencode, _, _, hbounded => by
      cases hencode
      exact peek ((startsWith_cborArray invalidCbor mechanisms.length).append _)
        ((reads_decodeMechanisms hbounded).map _)
  | .template attributes, hsorted, levels, bytes, hencode, hlen, hdepth, _ => by
      obtain ⟨_, hvalid, hencode⟩ := bind_eq_ok.mp hencode
      obtain ⟨entries, hentries, hencode⟩ := bind_eq_ok.mp hencode
      cases hencode
      obtain ⟨hcount, hvalid⟩ := validateTemplateAttributes_ok hvalid
      cases levels with
      | zero => exact absurd hdepth (Nat.not_succ_le_zero _)
      | succ levels =>
        rw [List.length_append] at hlen
        have hread := reads_decodeEntries validateTemplateAttribute_bounded attributes hsorted
          levels new hentries (by omega) (Nat.le_of_succ_le_succ hdepth) hvalid
          (joins_nil attributes) (by simpa [new, len] using hcount)
        have hmap := reads_decodeAttributesWith ⟨attributes, hsorted⟩ hcount hread
        exact peek ((startsWith_cborMap invalidCbor attributes.len).append _) (hmap.map _)

/-- The loop of `decode_attributes` reads the entries of a map back. -/
theorem reads_decodeEntries
    {validate : AttributeType → KeyAttributeValue → Except KeyMetadataError Unit}
    (hbounded : ∀ {a v}, validate a v = .ok () → MechanismsBounded v) :
    ∀ (m : AttributeMap), m.isSorted = true → ∀ (levels : ℕ) (acc : KeyAttributes) {bytes : Bytes},
    encodeEntries m = .ok bytes → bytes.length < 2 ^ 64 → mapDepth m ≤ levels →
    AllValid validate m → Joins acc.attributes m → acc.attributes.len + m.len ≤ maxAttributes →
    ∃ result, Reads (decodeEntries (insertChecked validate)
        (decodeAttributeValue (decodeTemplate levels)) m.len acc) bytes result ∧
      result.attributes = appendMap acc.attributes m
  | .nil, _, _, acc, _, hencode, _, _, _, _, _ => by
      cases hencode
      exact ⟨acc, pure acc, (appendMap_nil acc.attributes).symm⟩
  | .cons a v rest, hsorted, levels, acc, bytes, hencode, hlen, hdepth, hvalid, hjoins, hroom => by
      simp only [isSorted, Bool.and_eq_true] at hsorted
      obtain ⟨⟨hv, habove⟩, hrest⟩ := hsorted
      obtain ⟨value, hvalue, hencode⟩ := bind_eq_ok.mp hencode
      obtain ⟨entries, hentries, hencode⟩ := bind_eq_ok.mp hencode
      cases hencode
      simp only [List.length_append] at hlen
      simp only [mapDepth] at hdepth
      simp only [len] at hroom
      have hread := reads_decodeAttributeValue v hv levels hvalue (by omega) (by omega)
        (hbounded hvalid.1)
      refine reads_decodeEntries_cons (v := ⟨v, hv⟩) hjoins (by omega) hvalid.1 hread ?_
      intro inserted hinserted
      refine reads_decodeEntries hbounded rest hrest levels inserted hentries (by omega) (by omega)
        hvalid.2 ?_ ?_
      · rw [hinserted]
        exact joins_append hjoins habove
      · rw [hinserted, len_appendMap]
        omega

end

/-- `decode_attributes` reads a template back that is nested no deeper than the levels left. -/
theorem reads_decodeTemplate (hencode : attributes.templateToCbor = .ok encoded)
    (hlen : encoded.length < 2 ^ 64) (hdepth : mapDepth attributes.attributes < levels) :
    Reads (decodeTemplate levels) encoded attributes := by
  obtain ⟨_, hvalid, hencode⟩ := bind_eq_ok.mp hencode
  obtain ⟨entries, hentries, hencode⟩ := bind_eq_ok.mp hencode
  cases hencode
  obtain ⟨hcount, hvalid⟩ := validateTemplateAttributes_ok hvalid
  rw [List.length_append] at hlen
  obtain ⟨levels, rfl⟩ := Nat.exists_eq_add_one_of_ne_zero (Nat.ne_zero_of_lt hdepth)
  exact reads_decodeAttributesWith attributes hcount <|
    reads_decodeEntries validateTemplateAttribute_bounded attributes.attributes attributes.sorted
      levels new hentries (by omega) (by omega) hvalid
      (joins_nil attributes.attributes) (by simpa [new, len] using hcount)

/-- `decode_attributes` reads the attributes of an aspect back. -/
theorem reads_decodeAspectAttributes (hencode : encodeAttributes attributes false = .ok encoded)
    (hlen : encoded.length < 2 ^ 64) (hdepth : mapDepth attributes.attributes ≤ maxTemplateDepth) :
    Reads decodeAspectAttributes encoded attributes := by
  obtain ⟨_, hvalid, hencode⟩ := bind_eq_ok.mp hencode
  obtain ⟨entries, hentries, hencode⟩ := bind_eq_ok.mp hencode
  cases hencode
  obtain ⟨hcount, hvalid⟩ := validateAttributes_ok hvalid
  rw [List.length_append] at hlen
  exact reads_decodeAttributesWith attributes hcount <|
    reads_decodeEntries validateAttribute_bounded attributes.attributes attributes.sorted
      maxTemplateDepth new hentries (by omega) hdepth hvalid
      (joins_nil attributes.attributes) (by simpa [new, len] using hcount)

/-- The encoding of a template determines it. -/
theorem templateToCbor_injective {a b : KeyAttributes} (ha : a.templateToCbor = .ok encoded)
    (hb : b.templateToCbor = .ok encoded) (hlen : encoded.length < 2 ^ 64) : a = b := by
  have hreada : Reads (decodeTemplate (mapDepth a.attributes + mapDepth b.attributes + 1)) encoded a :=
    reads_decodeTemplate ha hlen (by omega)
  have hreadb : Reads (decodeTemplate (mapDepth a.attributes + mapDepth b.attributes + 1)) encoded b :=
    reads_decodeTemplate hb hlen (by omega)
  have hsame := hreada.run.symm.trans hreadb.run
  exact (Prod.mk.inj (Except.ok.inj hsame)).1

/-! ## The depth limit -/

/-- The loop of `decode_attributes` keeps to the depth of the values it reads. -/
theorem decodeEntries_depth
    (hvalue : ∀ {bytes result}, readValue bytes = .ok result → valueDepth result.1 ≤ levels) :
    ∀ {n : ℕ} {acc : KeyAttributes} {bytes : Bytes} {result : KeyAttributes × Bytes},
      mapDepth acc.attributes ≤ levels →
      decodeEntries (insertChecked validate) readValue n acc bytes = .ok result →
      mapDepth result.1.attributes ≤ levels
  | 0, _, _, _, hacc, h => by
      cases h
      exact hacc
  | n + 1, acc, bytes, result, hacc, h => by
      obtain ⟨type, -, h⟩ := bind_ok_iff.mp h
      obtain ⟨value, hread, h⟩ := bind_ok_iff.mp h
      obtain ⟨inserted, hinserted, h⟩ := bind_ok_iff.mp h
      obtain ⟨checked, -, h⟩ := bind_ok_iff.mp h
      refine decodeEntries_depth hvalue ?_ h
      obtain ⟨hinserted, -⟩ := lift_ok_iff.mp hinserted
      obtain ⟨-, hinserted⟩ := guard_eq_ok.mp hinserted
      obtain ⟨-, -, hinserted⟩ := bind_eq_ok.mp hinserted
      rw [← Except.ok.inj hinserted]
      exact mapDepth_put_le (hvalue hread) hacc

/-- A value is as deep as the templates that the reader for nested ones returns. -/
theorem decodeAttributeValue_depth {nested : Reader KeyMetadataError KeyAttributes}
    (hnested : ∀ {bytes result}, nested bytes = .ok result →
      mapDepth result.1.attributes < levels) {bytes : Bytes} {result : SemanticValue × Bytes}
    (h : decodeAttributeValue nested bytes = .ok result) : valueDepth result.1 ≤ levels := by
  obtain ⟨⟨type, rest⟩, -, h⟩ := bind_ok_iff.mp h
  cases type with
  | map =>
    obtain ⟨attributes, hattributes, h⟩ := bind_ok_iff.mp h
    rw [pure_ok_iff.mp h]
    exact hnested hattributes
  | null | other => cases h
  | _ =>
    obtain ⟨value, -, h⟩ := bind_ok_iff.mp h
    rw [pure_ok_iff.mp h]
    exact Nat.zero_le _

/-- A template that is read is not too deep. -/
theorem decodeTemplate_depth : ∀ {levels : ℕ} {bytes : Bytes} {result : KeyAttributes × Bytes},
      decodeTemplate levels bytes = .ok result → mapDepth result.1.attributes < levels
  | 0, _, _, h => by cases h
  | levels + 1, bytes, result, h => by
      obtain ⟨count, -, h⟩ := bind_ok_iff.mp h
      obtain ⟨checked, -, h⟩ := bind_ok_iff.mp h
      refine Nat.lt_succ_of_le (decodeEntries_depth ?_ (Nat.zero_le _) h)
      intro bytes result hread
      exact decodeAttributeValue_depth decodeTemplate_depth hread

/-- `template_from_cbor` reads back exactly the templates that are not nested too deep. -/
theorem templateFromCbor_eq_ok_iff {decoded : KeyAttributes}
    (hencode : attributes.templateToCbor = .ok encoded) (hlen : encoded.length < 2 ^ 64) :
    templateFromCbor encoded = .ok decoded ↔
      mapDepth attributes.attributes < maxTemplateDepth ∧ decoded = attributes := by
  constructor
  · intro hdecode
    obtain ⟨hread, hcanonical⟩ := readCanonical_ok hdecode
    obtain rfl := templateToCbor_injective hcanonical hencode hlen
    exact ⟨decodeTemplate_depth hread, rfl⟩
  · rintro ⟨hdepth, rfl⟩
    refine (readCanonical_eq_ok_iff (C := True) ?_ hencode).mpr ⟨trivial, rfl⟩
    exact (reads_decodeTemplate hencode hlen hdepth).readsIf

end Pkcs11rs.Analysis
