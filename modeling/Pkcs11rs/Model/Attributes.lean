import Pkcs11rs.Model.ReturnValue

/-!
# Attribute types, object classes and key types

The numbers of `pkcs11.rs` and the vendor numbers of `lib.rs:274-384`, as 64-bit unsigned
longs, and the native encodings of attribute values (`object.rs:671-682`).  The prefixes
`CKA_`, `CKO_`, `CKK_` and `CKM_` are namespaces here.
-/

set_option autoImplicit false

namespace Pkcs11rs.Model

open Pkcs11rs.Library

/-- `CK_ULONG` of the 64-bit builds. -/
abbrev Ulong := UInt64

/-- `CK_ATTRIBUTE_TYPE`. -/
abbrev AttributeType := Ulong

/-- `CK_OBJECT_CLASS`. -/
abbrev ObjectClass := Ulong

/-- `CK_KEY_TYPE`. -/
abbrev KeyType := Ulong

/-- `CK_MECHANISM_TYPE`. -/
abbrev MechanismType := Ulong

namespace Cka

abbrev class_ : AttributeType := 0
abbrev token : AttributeType := 1
abbrev private_ : AttributeType := 2
abbrev label : AttributeType := 3
abbrev uniqueId : AttributeType := 4
abbrev application : AttributeType := 16
abbrev value : AttributeType := 17
abbrev objectId : AttributeType := 18
abbrev certificateType : AttributeType := 128
abbrev issuer : AttributeType := 129
abbrev serialNumber : AttributeType := 130
abbrev attrTypes : AttributeType := 133
abbrev trusted : AttributeType := 134
abbrev certificateCategory : AttributeType := 135
abbrev javaMidpSecurityDomain : AttributeType := 136
abbrev url : AttributeType := 137
abbrev hashOfSubjectPublicKey : AttributeType := 138
abbrev hashOfIssuerPublicKey : AttributeType := 139
abbrev nameHashAlgorithm : AttributeType := 140
abbrev checkValue : AttributeType := 144
abbrev keyType : AttributeType := 256
abbrev subject : AttributeType := 257
abbrev id : AttributeType := 258
abbrev sensitive : AttributeType := 259
abbrev encrypt : AttributeType := 260
abbrev decrypt : AttributeType := 261
abbrev wrap : AttributeType := 262
abbrev unwrap : AttributeType := 263
abbrev sign : AttributeType := 264
abbrev signRecover : AttributeType := 265
abbrev verify : AttributeType := 266
abbrev verifyRecover : AttributeType := 267
abbrev derive : AttributeType := 268
abbrev startDate : AttributeType := 272
abbrev endDate : AttributeType := 273
abbrev modulus : AttributeType := 288
abbrev modulusBits : AttributeType := 289
abbrev publicExponent : AttributeType := 290
abbrev privateExponent : AttributeType := 291
abbrev prime1 : AttributeType := 292
abbrev prime2 : AttributeType := 293
abbrev exponent1 : AttributeType := 294
abbrev exponent2 : AttributeType := 295
abbrev coefficient : AttributeType := 296
abbrev publicKeyInfo : AttributeType := 297
abbrev valueLen : AttributeType := 353
abbrev extractable : AttributeType := 354
abbrev local_ : AttributeType := 355
abbrev neverExtractable : AttributeType := 356
abbrev alwaysSensitive : AttributeType := 357
abbrev keyGenMechanism : AttributeType := 358
abbrev modifiable : AttributeType := 368
abbrev copyable : AttributeType := 369
abbrev destroyable : AttributeType := 370
abbrev ecParams : AttributeType := 384
abbrev ecPoint : AttributeType := 385
abbrev alwaysAuthenticate : AttributeType := 514
abbrev wrapWithTrusted : AttributeType := 528
abbrev otpFormat : AttributeType := 544
abbrev otpLength : AttributeType := 545
abbrev otpTimeInterval : AttributeType := 546
abbrev otpUserFriendlyMode : AttributeType := 547
abbrev otpChallengeRequirement : AttributeType := 548
abbrev otpTimeRequirement : AttributeType := 549
abbrev otpCounterRequirement : AttributeType := 550
abbrev otpPinRequirement : AttributeType := 551
abbrev profileId : AttributeType := 1537
abbrev parameterSet : AttributeType := 1565
abbrev objectValidationFlags : AttributeType := 1566
abbrev encapsulate : AttributeType := 1587
abbrev decapsulate : AttributeType := 1588
abbrev publicCrc64Value : AttributeType := 1590
abbrev seed : AttributeType := 1591
abbrev wrapTemplate : AttributeType := 1073742353
abbrev unwrapTemplate : AttributeType := 1073742354
abbrev deriveTemplate : AttributeType := 1073742355
abbrev allowedMechanisms : AttributeType := 1073743360
abbrev vendorDefined : AttributeType := 0x80000000
abbrev pkcs11rsPivObjectTag : AttributeType := 0x80005056
abbrev yubicoHsmauthRetries : AttributeType := 0x80005902
abbrev yubicoHsmauthTouchRequired : AttributeType := 0x80005903
abbrev yubicoTouchPolicy : AttributeType := 0xd9554201
abbrev yubicoPinPolicy : AttributeType := 0xd9554202
abbrev pkcs11rsPreviewSignRegistration : AttributeType := 0xd0530001
abbrev pkcs11rsPreviewSignDerivedKey : AttributeType := 0xd0530002
abbrev pkcs11rsFidoRpId : AttributeType := 0xd0530003
abbrev pkcs11rsUri : AttributeType := 0xd0530004
abbrev pkcs11rsOathHash : AttributeType := 0xd0530007
abbrev pkcs11rsOathTouchRequired : AttributeType := 0xd0530008

end Cka

namespace Cko

abbrev data : ObjectClass := 0
abbrev certificate : ObjectClass := 1
abbrev publicKey : ObjectClass := 2
abbrev privateKey : ObjectClass := 3
abbrev secretKey : ObjectClass := 4
abbrev otpKey : ObjectClass := 8
abbrev profile : ObjectClass := 9

end Cko

namespace Ckk

abbrev rsa : KeyType := 0
abbrev ec : KeyType := 3
abbrev genericSecret : KeyType := 16
abbrev aes : KeyType := 31
abbrev sha1Hmac : KeyType := 40
abbrev sha256Hmac : KeyType := 43
abbrev sha384Hmac : KeyType := 44
abbrev sha512Hmac : KeyType := 45
abbrev sha224Hmac : KeyType := 46
abbrev ecEdwards : KeyType := 64
abbrev ecMontgomery : KeyType := 65
abbrev mlKem : KeyType := 73
abbrev mlDsa : KeyType := 74
abbrev pkcs11rsMlkem768P256 : KeyType := 0xd0530010
abbrev pkcs11rsMlkem768X25519 : KeyType := 0xd0530011
abbrev pkcs11rsMlkem1024P384 : KeyType := 0xd0530012

end Ckk

def isHmacKeyType (keyType : KeyType) : Bool :=
  keyType ∈ [Ckk.sha1Hmac, Ckk.sha224Hmac, Ckk.sha256Hmac, Ckk.sha384Hmac, Ckk.sha512Hmac]

def isHybridKemKeyType (keyType : KeyType) : Bool :=
  keyType ∈ [Ckk.pkcs11rsMlkem768P256, Ckk.pkcs11rsMlkem768X25519, Ckk.pkcs11rsMlkem1024P384]

/-- `CK_UNAVAILABLE_INFORMATION` as an unsigned long. -/
def ckUnavailableInformation : Ulong := 0xffffffffffffffff

def ckmSha1 : MechanismType := 544

/-! ## Native encodings -/

/-- `ulong_attribute`: the bytes of a `CK_ULONG` in the memory of the caller. -/
def ulongAttribute (value : Ulong) : Bytes := (beBytes 8 value.toNat).reverse

/-- `CK_ULONG::from_ne_bytes`. -/
def ulongFromNeBytes (bytes : Bytes) : Ulong := UInt64.ofNat (beValue bytes.reverse)

def boolAttribute (value : Bool) : Bytes := [if value then 1 else 0]

/-- The length of a number. -/
@[simp] theorem length_ulongAttribute (value : Ulong) : (ulongAttribute value).length = 8 := by
  simp [ulongAttribute]

/-- The length of a truth value. -/
@[simp] theorem length_boolAttribute (value : Bool) : (boolAttribute value).length = 1 := rfl

/-- A number is read back. -/
@[simp] theorem ulongFromNeBytes_ulongAttribute (value : Ulong) :
    ulongFromNeBytes (ulongAttribute value) = value := by
  have hlt : value.toNat < 256 ^ 8 := value.toNat_lt
  simp [ulongFromNeBytes, ulongAttribute, beValue_beBytes hlt]

end Pkcs11rs.Model
