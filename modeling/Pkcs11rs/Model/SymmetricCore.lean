import Pkcs11rs.Library.Blocks
import Pkcs11rs.Library.Padding
import Pkcs11rs.Model.ReturnValue

/-!
# The symmetric primitives of `software-key-core`, and the software operations over them

`SymmetricCore` collects the functions of the external crate's `software_symmetric`
module that the encryption paths call.  They are parameters of the model.
`SymmetricCore.Implements` states their documented behaviour over a pair of block
ciphers: ECB maps the cipher over the blocks, the triple-DES CBC functions are cipher
block chaining, and the padding functions are PKCS #7.

The functions below them (`software_key_ops.rs:8-67`, `api/crypt/encrypt.rs:461-544`)
are the module's own.
-/

set_option autoImplicit false

namespace Pkcs11rs.Model

open Pkcs11rs.Library

inductive SoftwareSymmetricError where
  | invalidKeyLength
  | invalidIvLength
  | invalidDataLength
  | authenticationFailed
  deriving DecidableEq, Repr

/-- The functions of `software_key_core::software_symmetric` that the module calls. -/
structure SymmetricCore where
  encryptAesEcb : Bytes → Bytes → Except SoftwareSymmetricError Bytes
  decryptAesEcb : Bytes → Bytes → Except SoftwareSymmetricError Bytes
  encryptTdesEcb : Bytes → Bytes → Except SoftwareSymmetricError Bytes
  decryptTdesEcb : Bytes → Bytes → Except SoftwareSymmetricError Bytes
  encryptTdesCbc : Bytes → Bytes → Bytes → Except SoftwareSymmetricError Bytes
  decryptTdesCbc : Bytes → Bytes → Bytes → Except SoftwareSymmetricError Bytes
  applyPkcs7Padding : Bytes → ℕ → Except SoftwareSymmetricError Bytes
  removePkcs7Padding : Bytes → ℕ → Except SoftwareSymmetricError Bytes

def aesBlockLength : ℕ := 16

def tdesBlockLength : ℕ := 8

/-- Bytewise exclusive or, as long as the shorter operand. -/
def xorBytes (a b : Bytes) : Bytes := a.zipWith (· ^^^ ·) b

/-- The length of a sum. -/
@[simp] theorem length_xorBytes (a b : Bytes) :
    (xorBytes a b).length = min a.length b.length := by
  simp [xorBytes]

/-- The error mapping shared by the ECB functions. -/
def ecbError : SoftwareSymmetricError → Rv
  | .invalidKeyLength => .keySizeRange
  | .invalidDataLength => .dataLenRange
  | _ => .functionFailed

variable (core : SymmetricCore) (key : Bytes)

def softwareCryptEcbBlocks (blocks : Bytes) (encrypting : Bool) : Except Rv Bytes :=
  (if encrypting then core.encryptAesEcb key blocks else core.decryptAesEcb key blocks).mapError
    ecbError

/-- The loop of `software_aes_cbc`: `previous` is the chaining block. -/
def softwareAesCbcLoop (core : SymmetricCore) (key : Bytes) (encrypting : Bool) :
    Bytes → List Bytes → Except Rv Bytes
  | _, [] => .ok []
  | previous, inputBlock :: rest =>
    if encrypting then do
      let encrypted ← softwareCryptEcbBlocks core key (xorBytes inputBlock previous) true
      let output ← softwareAesCbcLoop core key encrypting encrypted rest
      return encrypted ++ output
    else do
      let decrypted ← softwareCryptEcbBlocks core key inputBlock false
      let output ← softwareAesCbcLoop core key encrypting inputBlock rest
      return xorBytes decrypted previous ++ output

/-- `CKR_DATA_LEN_RANGE` when encrypting, `CKR_ENCRYPTED_DATA_LEN_RANGE` when decrypting. -/
def lenRangeError (encrypting : Bool) : Rv :=
  if encrypting then .dataLenRange else .encryptedDataLenRange

def softwareAesCbc (iv input : Bytes) (encrypting : Bool) : Except Rv Bytes :=
  if input.length % aesBlockLength ≠ 0 then .error (lenRangeError encrypting)
  else softwareAesCbcLoop core key encrypting iv (blocks aesBlockLength input)

def softwareTdesEcbBlocks (blocks : Bytes) (encrypting : Bool) : Except Rv Bytes :=
  (if encrypting then core.encryptTdesEcb key blocks else core.decryptTdesEcb key blocks).mapError
    ecbError

def softwareTdesCbc (iv input : Bytes) (encrypting : Bool) : Except Rv Bytes :=
  (if encrypting then core.encryptTdesCbc key iv input
    else core.decryptTdesCbc key iv input).mapError fun
    | .invalidKeyLength => .keySizeRange
    | .invalidDataLength => lenRangeError encrypting
    | _ => .functionFailed

/-- The shape shared by `software_tdes_cbc_pad` and `software_aes_cbc_pad`: pad and chain, or
chain and unpad. -/
def softwareCbcPad (blockLength : ℕ) (cbc : Bytes → Bool → Except Rv Bytes) (input : Bytes)
    (encrypting : Bool) : Except Rv Bytes :=
  if encrypting then do
    let padded ← (core.applyPkcs7Padding input blockLength).mapError fun _ => Rv.dataLenRange
    cbc padded true
  else if input.isEmpty ∨ input.length % blockLength ≠ 0 then .error .encryptedDataLenRange
  else do
    let output ← cbc input false
    (core.removePkcs7Padding output blockLength).mapError fun _ => Rv.encryptedDataInvalid

def softwareTdesCbcPad (iv input : Bytes) (encrypting : Bool) : Except Rv Bytes :=
  softwareCbcPad core tdesBlockLength (softwareTdesCbc core key iv) input encrypting

def softwareAesCbcPad (iv input : Bytes) (encrypting : Bool) : Except Rv Bytes :=
  softwareCbcPad core aesBlockLength (softwareAesCbc core key iv) input encrypting

/-! ## Documented behaviour of the external primitives -/

/-- One step of cipher block chaining with the block function `f`. -/
def cbcStep (f : Bytes → Bytes) (encrypting : Bool) (previous block : Bytes) : Bytes × Bytes :=
  if encrypting then
    let c := f (xorBytes block previous)
    (c, c)
  else (block, xorBytes (f block) previous)

/-- One step of ECB; the chaining state is left alone. -/
def ecbStep (f : Bytes → Bytes) (previous block : Bytes) : Bytes × Bytes := (previous, f block)

/-- The keyed block functions behind the two ciphers: key, then block. -/
structure BlockCiphers where
  aesEncrypt : Bytes → Bytes → Bytes
  aesDecrypt : Bytes → Bytes → Bytes
  tdesEncrypt : Bytes → Bytes → Bytes
  tdesDecrypt : Bytes → Bytes → Bytes

def IsAesKey : Prop := key.length = 16 ∨ key.length = 24 ∨ key.length = 32

/-- The length of triple-DES keys. -/
def IsTdesKey : Prop := key.length = 24

/-- The external primitives do what their names say over the block ciphers `c`. -/
structure SymmetricCore.Implements (core : SymmetricCore) (c : BlockCiphers) : Prop where
  aesEncrypt_length : ∀ key block, IsAesKey key → block.length = 16 →
    (c.aesEncrypt key block).length = 16
  aesDecrypt_length : ∀ key block, IsAesKey key → block.length = 16 →
    (c.aesDecrypt key block).length = 16
  tdesEncrypt_length : ∀ key block, IsTdesKey key → block.length = 8 →
    (c.tdesEncrypt key block).length = 8
  tdesDecrypt_length : ∀ key block, IsTdesKey key → block.length = 8 →
    (c.tdesDecrypt key block).length = 8
  encryptAesEcb : ∀ key data, IsAesKey key → data.length % 16 = 0 →
    core.encryptAesEcb key data = .ok ((blocks 16 data).map (c.aesEncrypt key)).flatten
  decryptAesEcb : ∀ key data, IsAesKey key → data.length % 16 = 0 →
    core.decryptAesEcb key data = .ok ((blocks 16 data).map (c.aesDecrypt key)).flatten
  encryptTdesEcb : ∀ key data, IsTdesKey key → data.length % 8 = 0 →
    core.encryptTdesEcb key data = .ok ((blocks 8 data).map (c.tdesEncrypt key)).flatten
  decryptTdesEcb : ∀ key data, IsTdesKey key → data.length % 8 = 0 →
    core.decryptTdesEcb key data = .ok ((blocks 8 data).map (c.tdesDecrypt key)).flatten
  encryptTdesCbc : ∀ key iv data, IsTdesKey key → iv.length = 8 →
    core.encryptTdesCbc key iv data =
      if data.length % 8 = 0 then
        .ok (transduce (cbcStep (c.tdesEncrypt key) true) iv (blocks 8 data)).2.flatten
      else .error .invalidDataLength
  decryptTdesCbc : ∀ key iv data, IsTdesKey key → iv.length = 8 →
    core.decryptTdesCbc key iv data =
      if data.length % 8 = 0 then
        .ok (transduce (cbcStep (c.tdesDecrypt key) false) iv (blocks 8 data)).2.flatten
      else .error .invalidDataLength
  applyPkcs7Padding : ∀ data n, n = 8 ∨ n = 16 →
    core.applyPkcs7Padding data n = .ok (pkcs7Pad n data)
  removePkcs7Padding : ∀ data n, n = 8 ∨ n = 16 →
    (core.removePkcs7Padding data n).toOption = pkcs7Unpad n data

/-- The ciphers map blocks to blocks. -/
structure BlockCiphers.PreservesLength (c : BlockCiphers) : Prop where
  aesEncrypt : ∀ key block, (c.aesEncrypt key block).length = block.length
  aesDecrypt : ∀ key block, (c.aesDecrypt key block).length = block.length
  tdesEncrypt : ∀ key block, (c.tdesEncrypt key block).length = block.length
  tdesDecrypt : ∀ key block, (c.tdesDecrypt key block).length = block.length

/-- The ciphers that leave every block as it is. -/
def BlockCiphers.identity : BlockCiphers :=
  ⟨fun _ block => block, fun _ block => block, fun _ block => block, fun _ block => block⟩

/-- The identity keeps the length. -/
theorem BlockCiphers.identity_preservesLength : BlockCiphers.identity.PreservesLength :=
  ⟨fun _ _ => rfl, fun _ _ => rfl, fun _ _ => rfl, fun _ _ => rfl⟩

/-- The primitives read off their documentation, over given block ciphers. -/
def SymmetricCore.ofCiphers (c : BlockCiphers) : SymmetricCore where
  encryptAesEcb key data := .ok ((blocks 16 data).map (c.aesEncrypt key)).flatten
  decryptAesEcb key data := .ok ((blocks 16 data).map (c.aesDecrypt key)).flatten
  encryptTdesEcb key data := .ok ((blocks 8 data).map (c.tdesEncrypt key)).flatten
  decryptTdesEcb key data := .ok ((blocks 8 data).map (c.tdesDecrypt key)).flatten
  encryptTdesCbc key iv data :=
    if data.length % 8 = 0 then
      .ok (transduce (cbcStep (c.tdesEncrypt key) true) iv (blocks 8 data)).2.flatten
    else .error .invalidDataLength
  decryptTdesCbc key iv data :=
    if data.length % 8 = 0 then
      .ok (transduce (cbcStep (c.tdesDecrypt key) false) iv (blocks 8 data)).2.flatten
    else .error .invalidDataLength
  applyPkcs7Padding data n := .ok (pkcs7Pad n data)
  removePkcs7Padding data n :=
    match pkcs7Unpad n data with
    | some bytes => .ok bytes
    | none => .error .invalidDataLength

/-- The documented behaviour is consistent: the primitives read off it have it. -/
theorem SymmetricCore.ofCiphers_implements (c : BlockCiphers) (h : c.PreservesLength) :
    (SymmetricCore.ofCiphers c).Implements c where
  aesEncrypt_length key block _ hb := (h.aesEncrypt key block).trans hb
  aesDecrypt_length key block _ hb := (h.aesDecrypt key block).trans hb
  tdesEncrypt_length key block _ hb := (h.tdesEncrypt key block).trans hb
  tdesDecrypt_length key block _ hb := (h.tdesDecrypt key block).trans hb
  encryptAesEcb _ _ _ _ := rfl
  decryptAesEcb _ _ _ _ := rfl
  encryptTdesEcb _ _ _ _ := rfl
  decryptTdesEcb _ _ _ _ := rfl
  encryptTdesCbc _ _ _ _ _ := rfl
  decryptTdesCbc _ _ _ _ _ := rfl
  applyPkcs7Padding _ _ _ := rfl
  removePkcs7Padding data n _ := by
    simp only [SymmetricCore.ofCiphers]
    cases pkcs7Unpad n data <;> rfl

end Pkcs11rs.Model
