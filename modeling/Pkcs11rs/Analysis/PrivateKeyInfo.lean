import Mathlib.Data.List.Perm.Basic
import Pkcs11rs.Model.PrivateKeyInfo

/-!
# Private keys survive PKCS #8

The DER functions of other crates and the serializations of the key core are assumed to be
inverse to each other (`DerLaws`, `KeyCoreLaws`).  What is proved is that the code around them
keeps to it: `material_from_pkcs8` takes the decoder that belongs to the encoder of
`material_to_pkcs8` (`materialFromPkcs8_materialToPkcs8`), and the loop over the PKCS #8
attributes finds what was written, in whatever order the set is (`readPkcs8Attributes_perm`).
-/

set_option autoImplicit false

namespace Pkcs11rs.Analysis

open Pkcs11rs.Library Pkcs11rs.Model StoredPkcs8Attribute

variable {key : SoftwarePrivateKey}

/-- The DER functions are inverse. -/
structure DerLaws (der : DerCodec) : Prop where
  /-- `der::Length` has 32 bits. -/
  lengthMax_lt : der.lengthMax < 2 ^ 32
  /-- A set has its elements in the canonical order. -/
  setOfAttributes_perm : ∀ {entries set}, der.setOfAttributes entries = some set →
    set.Perm entries
  octetString : ∀ {value encoded}, der.octetStringToDer value = some encoded →
    der.octetStringFromDer encoded = some value
  ecPrivateKey : ∀ {key encoded}, der.ecPrivateKeyToDer key = some encoded →
    der.ecPrivateKeyFromDer encoded = some key
  privateKeyInfo : ∀ {info encoded}, der.privateKeyInfoToDer info = some encoded →
    der.privateKeyInfoFromDer encoded = some info
  storedPrivateKeyInfo : ∀ {info encoded}, der.storedPrivateKeyInfoToDer info = some encoded →
    der.storedPrivateKeyInfoFromDer encoded = some info
  /-- The structure is a sequence. -/
  storedPrivateKeyInfo_head : ∀ {info encoded},
    der.storedPrivateKeyInfoToDer info = some encoded → encoded.head? = some 0x30
  /-- The attributes are an optional field of the standard structure. -/
  privateKeyInfo_stored : ∀ {info encoded}, der.storedPrivateKeyInfoToDer info = some encoded →
    info.version = 0 →
    der.privateKeyInfoFromDer encoded = some ⟨info.privateKeyAlgorithm, info.privateKey⟩

/-- The algorithms whose keys the key core writes in PKCS #8 itself. -/
def HasOwnCodec : AlgorithmOid → Prop
  | .edwards _ => True
  | .mlDsa _ => True
  | .mlKem _ => True
  | _ => False

/-- The serializations of the key core are inverse at a key. -/
structure KeyCoreLaws (core : KeyCore) (der : DerCodec) (key : SoftwarePrivateKey) : Prop where
  rsa : ∀ {pkcs1}, key.kind = .rsa → core.toPkcs1Der key = some pkcs1 →
    core.restoreRsaPkcs1 pkcs1 = some key
  hybridKem : ∀ {construction seed}, key.kind = .hybridKem construction →
    key.seed = some seed → core.fromSeedSlice construction seed = some key
  ec : ∀ {curve scalar}, key.kind = .ec → core.weierstrassCurve key = some curve →
    key.privateValue = some scalar → core.ecFromSerialized curve scalar = some key
  montgomery : key.kind = .montgomery →
    core.montgomeryFromSerialized (core.montgomeryCurve key) (core.serialized key) = some key
  /-- The decoders read the algorithm, which has no parameters, and the key, which is an octet
  string, but not the attributes. -/
  pkcs8 : ∀ {bare info}, key.kind = .mlDsa ∨ key.kind = .mlKem ∨ key.kind = .edwards →
    core.toPkcs8Der key = some bare → der.privateKeyInfoFromDer bare = some info →
    HasOwnCodec info.algorithm.oid ∧ info.algorithm.parameters = none ∧
      (∃ value, der.octetStringFromDer info.privateKey = some value) ∧
      ∀ encoded, der.privateKeyInfoFromDer encoded = some info →
        core.fromPkcs8Der info.algorithm.oid encoded = some key

/-- What has to be there. -/
theorem orDataInvalid_eq_ok {α : Type} {x : Option α} {a : α} :
    orDataInvalid x = .ok a ↔ x = some a := by
  cases x <;> simp [orDataInvalid]

/-- An octet string of the codec. -/
theorem octetString_eq_ok {der : DerCodec} {bytes bytes' : Bytes} :
    der.octetString bytes = .ok bytes' ↔ bytes.length ≤ der.lengthMax ∧ bytes = bytes' := by
  unfold DerCodec.octetString
  rw [guard_eq_ok, not_lt, Except.ok.injEq]

/-! ## Key material -/

section Material

variable {core : KeyCore} {der : DerCodec}
variable {encoded : Bytes} {info : PrivateKeyInfo}

/-- What is encoded is the key. -/
theorem encodePrivateKeyInfo_ok {oid : AlgorithmOid} {parameters : Option AlgorithmParameters}
    {privateKey : Bytes} (hder : DerLaws der)
    (h : encodePrivateKeyInfo der oid parameters privateKey = .ok encoded)
    (hinfo : der.privateKeyInfoFromDer encoded = some info) :
    info = ⟨⟨oid, parameters⟩, privateKey⟩ := by
  obtain ⟨_, hkey, h⟩ := bind_eq_ok.mp h
  obtain ⟨-, rfl⟩ := octetString_eq_ok.mp hkey
  rw [hder.privateKeyInfo (orDataInvalid_eq_ok.mp h)] at hinfo
  exact (Option.some.inj hinfo).symm

/-- The table of curves has no two with the same parameters. -/
theorem ecCurveFromParameters_ecCurveParameters (curve : EcCurve) :
    ecCurveFromParameters (ecCurveParameters curve) = .ok curve := by
  cases curve <;> rfl

/-- Keys that the key core writes itself. -/
theorem materialFromPkcs8_own {value : Bytes} (hown : HasOwnCodec info.algorithm.oid)
    (hparameters : info.algorithm.parameters = none)
    (hvalue : der.octetStringFromDer info.privateKey = some value)
    (hkey : core.fromPkcs8Der info.algorithm.oid encoded = some key)
    (hinfo : der.privateKeyInfoFromDer encoded = some info) :
    materialFromPkcs8 core der encoded = .ok key := by
  have hnone : ¬ info.algorithm.parameters.isSome = true := by simp [hparameters]
  refine bind_eq_ok.mpr ⟨info, orDataInvalid_eq_ok.mpr hinfo, ?_⟩
  cases hoid : info.algorithm.oid with
  | mlDsa | mlKem =>
    rw [hoid] at hkey
    exact guard_eq_ok.mpr ⟨hnone, orDataInvalid_eq_ok.mpr hkey⟩
  | edwards curve =>
    rw [hoid] at hkey
    refine bind_eq_ok.mpr ⟨value, orDataInvalid_eq_ok.mpr hvalue, ?_⟩
    exact guard_eq_ok.mpr ⟨hnone, orDataInvalid_eq_ok.mpr hkey⟩
  | _ =>
    rw [hoid] at hown
    exact hown.elim

/-- **A key is read back from its encoding**, also with attributes. -/
theorem materialFromPkcs8_materialToPkcs8 {bare : Bytes} (hder : DerLaws der)
    (hcore : KeyCoreLaws core der key) (hbare : materialToPkcs8 core der key = .ok bare)
    (hbareInfo : der.privateKeyInfoFromDer bare = some info)
    (hinfo : der.privateKeyInfoFromDer encoded = some info) :
    materialFromPkcs8 core der encoded = .ok key := by
  have hown : key.kind = .mlDsa ∨ key.kind = .mlKem ∨ key.kind = .edwards →
      core.toPkcs8Der key = some bare → materialFromPkcs8 core der encoded = .ok key := by
    intro hkind hpkcs8
    obtain ⟨hcodec, hparameters, ⟨value, hvalue⟩, hkey⟩ := hcore.pkcs8 hkind hpkcs8 hbareInfo
    exact materialFromPkcs8_own hcodec hparameters hvalue (hkey encoded hinfo) hinfo
  have hread := orDataInvalid_eq_ok.mpr hinfo
  unfold materialToPkcs8 at hbare
  cases hkind : key.kind with
  | mlDsa =>
    rw [hkind] at hbare
    exact hown (.inl hkind) (orDataInvalid_eq_ok.mp hbare)
  | mlKem =>
    rw [hkind] at hbare
    exact hown (.inr (.inl hkind)) (orDataInvalid_eq_ok.mp hbare)
  | edwards =>
    rw [hkind] at hbare
    exact hown (.inr (.inr hkind)) (orDataInvalid_eq_ok.mp hbare)
  | hybridKem construction =>
    rw [hkind] at hbare
    obtain ⟨seed, hseed, hbare⟩ := bind_eq_ok.mp hbare
    rw [orDataInvalid_eq_ok] at hseed
    cases encodePrivateKeyInfo_ok hder hbare hbareInfo
    refine bind_eq_ok.mpr ⟨_, hread, guard_eq_ok.mpr ⟨by simp, ?_⟩⟩
    exact orDataInvalid_eq_ok.mpr (hcore.hybridKem hkind hseed)
  | rsa =>
    rw [hkind] at hbare
    obtain ⟨pkcs1, hpkcs1, hbare⟩ := bind_eq_ok.mp hbare
    rw [orDataInvalid_eq_ok] at hpkcs1
    cases encodePrivateKeyInfo_ok hder hbare hbareInfo
    refine bind_eq_ok.mpr ⟨_, hread, guard_eq_ok.mpr ⟨by simp, ?_⟩⟩
    exact orDataInvalid_eq_ok.mpr (hcore.rsa hkind hpkcs1)
  | ec =>
    rw [hkind] at hbare
    obtain ⟨curve, hcurve, hbare⟩ := bind_eq_ok.mp hbare
    obtain ⟨scalar, hscalar, hbare⟩ := bind_eq_ok.mp hbare
    obtain ⟨sec1, hsec1, hbare⟩ := bind_eq_ok.mp hbare
    rw [orDataInvalid_eq_ok] at hcurve hscalar hsec1
    cases encodePrivateKeyInfo_ok hder hbare hbareInfo
    refine bind_eq_ok.mpr ⟨_, hread, bind_eq_ok.mpr ⟨curve, ?_, ?_⟩⟩
    · exact ecCurveFromParameters_ecCurveParameters curve
    · refine bind_eq_ok.mpr ⟨_, orDataInvalid_eq_ok.mpr (hder.ecPrivateKey hsec1), ?_⟩
      refine guard_eq_ok.mpr ⟨by simp, ?_⟩
      exact orDataInvalid_eq_ok.mpr (hcore.ec hkind hcurve hscalar)
  | montgomery =>
    rw [hkind] at hbare
    obtain ⟨value, hvalue, hbare⟩ := bind_eq_ok.mp hbare
    obtain ⟨-, rfl⟩ := octetString_eq_ok.mp hvalue
    obtain ⟨inner, hinner, hbare⟩ := bind_eq_ok.mp hbare
    rw [orDataInvalid_eq_ok] at hinner
    cases encodePrivateKeyInfo_ok hder hbare hbareInfo
    refine bind_eq_ok.mpr ⟨_, hread, bind_eq_ok.mpr
      ⟨_, orDataInvalid_eq_ok.mpr (hder.octetString hinner), ?_⟩⟩
    refine guard_eq_ok.mpr ⟨by simp, ?_⟩
    exact orDataInvalid_eq_ok.mpr (hcore.montgomery hkind)

end Material

/-! ## Attributes -/

/-- What the loop has found after an attribute. -/
def addPkcs8Attribute (found : Pkcs8Found) (stored : StoredAttributes)
    (entry : StoredPkcs8Attribute) : Pkcs8Found :=
  match entry.oid, entry.values with
  | .friendlyName, [.bmpString label] => { found with friendlyName := some label }
  | .localKeyId, [.octetString id] => { found with localKeyId := some id }
  | .pkcs11rsAttributes, _ => { found with storedAttributes := some stored }
  | _, _ => found

variable {found : Pkcs8Found} {stored : StoredAttributes} {entry : StoredPkcs8Attribute}

/-- The order of the attributes does not matter. -/
theorem foldl_addPkcs8Attribute_perm {entries entries' : List StoredPkcs8Attribute}
    (h : entries.Perm entries') (hnodup : (entries.map oid).Nodup) : ∀ found : Pkcs8Found,
      entries.foldl (fun found entry => addPkcs8Attribute found stored entry) found =
        entries'.foldl (fun found entry => addPkcs8Attribute found stored entry) found := by
  induction h with
  | nil => exact fun _ => rfl
  | cons entry _ ih =>
    intro found
    rw [List.map_cons, List.nodup_cons] at hnodup
    exact ih hnodup.2 _
  | swap first second rest =>
    intro found
    have hswap : addPkcs8Attribute (addPkcs8Attribute found stored second) stored first =
        addPkcs8Attribute (addPkcs8Attribute found stored first) stored second := by
      unfold addPkcs8Attribute
      split <;> split <;> simp_all
    simp only [List.foldl_cons, hswap]
  | trans hfirst _ ih₁ ih₂ =>
    intro found
    rw [ih₁ hnodup, ih₂ ((hfirst.map _).nodup_iff.mp hnodup)]

/-- No attribute is written twice. -/
theorem nodup_pkcs8Attributes (label : String) (id metadata : Bytes) :
    ((pkcs8Attributes label id metadata).map oid).Nodup := by
  unfold pkcs8Attributes friendlyNameAttribute
  split <;> simp

variable [CborCodec]

/-- An attribute that the loop accepts if it has not found its kind before. -/
def Readable (stored : StoredAttributes) (entry : StoredPkcs8Attribute) : Prop :=
  (∃ label, entry = ⟨.friendlyName, [.bmpString label]⟩) ∨
    (∃ id, entry = ⟨.localKeyId, [.octetString id]⟩) ∨
    ∃ metadata, entry = ⟨.pkcs11rsAttributes, [.octetString metadata]⟩ ∧
      decodeStoredAttributes metadata = .ok stored

/-- The loop has not found an attribute of the kind. -/
def Lacks (found : Pkcs8Found) : AttributeOid → Prop
  | .friendlyName => found.friendlyName = none
  | .localKeyId => found.localKeyId = none
  | .pkcs11rsAttributes => found.storedAttributes = none
  | .other _ => True

/-- An attribute is read. -/
theorem readPkcs8Attribute_readable (hreadable : Readable stored entry)
    (hlacks : Lacks found entry.oid) :
    readPkcs8Attribute found entry = .ok (addPkcs8Attribute found stored entry) := by
  rcases hreadable with ⟨label, rfl⟩ | ⟨id, rfl⟩ | ⟨metadata, rfl, hdecode⟩
  · have hnone : found.friendlyName = none := hlacks
    exact guard_eq_ok.mpr ⟨by simp [hnone], rfl⟩
  · have hnone : found.localKeyId = none := hlacks
    exact guard_eq_ok.mpr ⟨by simp [hnone], rfl⟩
  · have hnone : found.storedAttributes = none := hlacks
    refine guard_eq_ok.mpr ⟨by simp [hnone], ?_⟩
    exact bind_eq_ok.mpr ⟨stored, hdecode, rfl⟩

/-- The other attributes are still to come. -/
theorem lacks_addPkcs8Attribute {oid : AttributeOid} (hreadable : Readable stored entry)
    (hlacks : Lacks found oid) (hne : oid ≠ entry.oid) :
    Lacks (addPkcs8Attribute found stored entry) oid := by
  rcases hreadable with ⟨label, rfl⟩ | ⟨id, rfl⟩ | ⟨metadata, rfl, -⟩
  all_goals
    cases oid with
    | friendlyName | localKeyId | pkcs11rsAttributes => first | exact absurd rfl hne | exact hlacks
    | other der => trivial

/-- The loop accepts attributes of different kinds. -/
theorem readPkcs8Attributes_readable : ∀ {entries : List StoredPkcs8Attribute} {found : Pkcs8Found},
      (∀ entry ∈ entries, Readable stored entry ∧ Lacks found entry.oid) → (entries.map oid).Nodup →
      readPkcs8Attributes found entries =
        .ok (entries.foldl (fun found entry => addPkcs8Attribute found stored entry) found)
  | [], _, _, _ => rfl
  | entry :: entries, found, hentries, hnodup => by
      rw [List.map_cons, List.nodup_cons] at hnodup
      obtain ⟨hreadable, hlacks⟩ := hentries entry List.mem_cons_self
      refine bind_eq_ok.mpr ⟨_, readPkcs8Attribute_readable hreadable hlacks, ?_⟩
      refine readPkcs8Attributes_readable (fun other hother => ?_) hnodup.2
      obtain ⟨hother', hlacks'⟩ := hentries other (List.mem_cons_of_mem _ hother)
      refine ⟨hother', lacks_addPkcs8Attribute hreadable hlacks' fun heq => hnodup.1 ?_⟩
      rw [← heq]
      exact List.mem_map_of_mem hother

/-- The loop finds the attributes that were written, in whatever order they are. -/
theorem readPkcs8Attributes_perm {label : String} {id metadata : Bytes}
    {set : List StoredPkcs8Attribute} (hperm : set.Perm (pkcs8Attributes label id metadata))
    (hdecode : decodeStoredAttributes metadata = .ok stored) :
    ∃ friendlyName, (friendlyName = none ∨ friendlyName = some label) ∧
      readPkcs8Attributes {} set = .ok ⟨friendlyName, some id, some stored⟩ := by
  have hnodup : (set.map oid).Nodup :=
    (hperm.map _).nodup_iff.mpr (nodup_pkcs8Attributes label id metadata)
  have hreadable : ∀ entry ∈ set, Readable stored entry ∧ Lacks {} entry.oid := by
    intro entry hentry
    have hmem := hperm.mem_iff.mp hentry
    unfold pkcs8Attributes friendlyNameAttribute at hmem
    rw [List.mem_append, List.mem_cons, List.mem_singleton] at hmem
    rcases hmem with hfriendly | rfl | rfl
    · split at hfriendly
      · cases List.mem_singleton.mp hfriendly
        exact ⟨.inl ⟨label, rfl⟩, rfl⟩
      · cases hfriendly
    · exact ⟨.inr (.inl ⟨id, rfl⟩), rfl⟩
    · exact ⟨.inr (.inr ⟨metadata, rfl, hdecode⟩), rfl⟩
  rw [readPkcs8Attributes_readable hreadable hnodup, foldl_addPkcs8Attribute_perm hperm hnodup]
  unfold pkcs8Attributes friendlyNameAttribute
  split
  · exact ⟨some label, .inr rfl, rfl⟩
  · exact ⟨none, .inl rfl, rfl⟩

end Pkcs11rs.Analysis
