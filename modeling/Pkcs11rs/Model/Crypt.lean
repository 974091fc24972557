import Pkcs11rs.Model.SymmetricCore

/-!
# Encryption and decryption operations of a session

`C_EncryptInit`/`C_DecryptInit`, the single-part call, the update call and the final call
for software AES and triple-DES keys in ECB, CBC and padded CBC mode
(`api/crypt/encrypt.rs:203-450, 822-1372, 1433-1652`).

The active operation of one direction is an `Option CryptOperation`
(`SessionContext::encrypt_operation`, `decrypt_operation`).  Every function takes it and
returns what it leaves behind together with the result the caller sees.  The caller's
output buffer is an `OutputBuffer`: whether the pointer is null and the value of
`*output_len` on entry.
-/

set_option autoImplicit false

namespace Pkcs11rs.Model

open Pkcs11rs.Library

/-- The block mechanisms of software secret keys. -/
inductive CipherMechanism where
  | aesEcb
  | aesCbc
  | aesCbcPad
  | des3Ecb
  | des3Cbc
  | des3CbcPad
  deriving DecidableEq, Repr

namespace CipherMechanism

def des3 : CipherMechanism → Bool
  | des3Ecb | des3Cbc | des3CbcPad => true
  | _ => false

def padded : CipherMechanism → Bool
  | aesCbcPad | des3CbcPad => true
  | _ => false

def cbc : CipherMechanism → Bool
  | aesEcb | des3Ecb => false
  | _ => true

def blockLength (m : CipherMechanism) : ℕ := if m.des3 then tdesBlockLength else aesBlockLength

end CipherMechanism

/-- `CryptOperation`, with the fields the block mechanisms of a software key use. -/
structure CryptOperation where
  key : Bytes
  requiresLogin : Bool
  mechanism : CipherMechanism
  iv : Option Bytes
  des3Iv : Option Bytes
  buffer : Bytes
  multipart : Bool
  result : Option Bytes
  deriving DecidableEq, Repr

/-- The key types the block mechanisms distinguish. -/
inductive CipherKeyType where
  | aes
  | des3
  deriving DecidableEq, Repr

/-- The value lengths with which a software key of this type can be created. -/
def CipherKeyType.ValidValue : CipherKeyType → Bytes → Prop
  | aes, value => IsAesKey value
  | des3, value => IsTdesKey value

/-- The key object an operation is started with: its type, its bytes and the attributes that
`crypt_init` reads. -/
structure CipherKey where
  keyType : CipherKeyType
  value : Bytes
  valid : keyType.ValidValue value
  allowedMechanisms : Option (List CipherMechanism)
  priv : Bool
  encrypt : Bool
  decrypt : Bool

/-- The initialization vector of a chaining mechanism: a parameter of exactly `length` bytes. -/
def ivParameter (length : ℕ) : Option Bytes → Except Rv (Option Bytes)
  | some bytes =>
    if bytes.length = length then .ok (some bytes) else .error .mechanismParamInvalid
  | none => .error .mechanismParamInvalid

def cryptInitDes3Iv (mechanism : CipherMechanism) (parameter : Option Bytes) :
    Except Rv (Option Bytes) :=
  if mechanism.des3 && mechanism.cbc then ivParameter tdesBlockLength parameter else .ok none

def cryptInitIv (mechanism : CipherMechanism) (parameter : Option Bytes) :
    Except Rv (Option Bytes) :=
  if mechanism.cbc then
    if mechanism.des3 then .ok none else ivParameter aesBlockLength parameter
  else if parameter.isSome then .error .mechanismParamInvalid
  else .ok none

def cryptInit (mechanism : CipherMechanism) (parameter : Option Bytes) (object : CipherKey)
    (loggedIn encrypting : Bool) : Except Rv CryptOperation := do
  let des3Iv ← cryptInitDes3Iv mechanism parameter
  let iv ← cryptInitIv mechanism parameter
  if object.priv && !loggedIn then .error .keyHandleInvalid
  else if object.allowedMechanisms.any (fun allowed => mechanism ∉ allowed) then
    .error .mechanismInvalid
  else if (encrypting && !object.encrypt) || (!encrypting && !object.decrypt) then
    .error .keyFunctionNotPermitted
  else if object.keyType ≠ (if mechanism.des3 then .des3 else .aes) then
    .error .keyTypeInconsistent
  else
    .ok { key := object.value, requiresLogin := object.priv, mechanism, iv, des3Iv
          buffer := [], multipart := false, result := none }

/-- The caller's output pointer and the value of `*output_len` on entry. -/
structure OutputBuffer where
  null : Bool
  capacity : ℕ

/-- What the caller of an encryption function sees: the return value, `*output_len` afterwards and
the bytes written. -/
structure CallResult where
  rv : Rv
  outputLen : ℕ
  output : Bytes
  deriving DecidableEq, Repr

/-- A call that fails before it touches the caller's buffer. -/
def CallResult.fail (rv : Rv) (out : OutputBuffer) : CallResult := ⟨rv, out.capacity, []⟩

/-- `crypt_output_length` for the block mechanisms. -/
def cryptOutputLength (operation : CryptOperation) (inputLen : ℕ) (encrypting : Bool) :
    Except Rv ℕ :=
  if operation.mechanism.padded then
    let blockLength := operation.mechanism.blockLength
    if encrypting then .ok (inputLen + (blockLength - inputLen % blockLength))
    else if inputLen = 0 ∨ inputLen % blockLength ≠ 0 then .error .encryptedDataLenRange
    else .ok inputLen
  else .ok inputLen

variable (core : SymmetricCore) (operation : CryptOperation) (encrypting : Bool)

/-- The transformation `crypt` applies to the whole buffered input. -/
def cryptTransform (finalizing : Bool) (input : Bytes) : Except Rv Bytes :=
  if finalizing && input.isEmpty &&
      (operation.mechanism = .aesEcb || operation.mechanism = .aesCbc) then .ok []
  else
    match operation.mechanism with
    | .des3Ecb =>
      if input.length % tdesBlockLength ≠ 0 then .error (lenRangeError encrypting)
      else softwareTdesEcbBlocks core operation.key input encrypting
    | .des3Cbc =>
      match operation.des3Iv with
      | none => .error .mechanismParamInvalid
      | some iv => softwareTdesCbc core operation.key iv input encrypting
    | .des3CbcPad =>
      match operation.des3Iv with
      | none => .error .mechanismParamInvalid
      | some iv => softwareTdesCbcPad core operation.key iv input encrypting
    | .aesEcb =>
      if input.length % aesBlockLength ≠ 0 then .error (lenRangeError encrypting)
      else softwareCryptEcbBlocks core operation.key input encrypting
    | .aesCbc =>
      match operation.iv with
      | none => .error .mechanismParamInvalid
      | some iv => softwareAesCbc core operation.key iv input encrypting
    | .aesCbcPad =>
      match operation.iv with
      | none => .error .mechanismParamInvalid
      | some iv => softwareAesCbcPad core operation.key iv input encrypting

/-- `crypt`: `C_Encrypt`/`C_Decrypt` (`finalizing = false`) and `C_EncryptFinal`/`C_DecryptFinal`
(`finalizing = true`, empty input). -/
def crypt (userLoggedIn encrypting finalizing : Bool) (input : Bytes) (out : OutputBuffer)
    (active : Option CryptOperation) : Option CryptOperation × CallResult :=
  match active with
  | none => (none, .fail .operationNotInitialized out)
  | some operation =>
    if operation.multipart && !finalizing then (none, .fail .operationActive out)
    else if operation.requiresLogin && !userLoggedIn then (none, .fail .userNotLoggedIn out)
    else
      let required : Except Rv ℕ :=
        match operation.result with
        | some result => .ok result.length
        | none => cryptOutputLength operation (operation.buffer.length + input.length) encrypting
      match required with
      | .error error => (none, .fail error out)
      | .ok required =>
        if out.null then (some operation, ⟨.ok, required, []⟩)
        else
          -- `operation.result.take()`, or the buffered input is consumed and transformed
          let taken : Except Rv (CryptOperation × Bytes) :=
            match operation.result with
            | some result => .ok ({ operation with result := none }, result)
            | none =>
              (cryptTransform core operation encrypting finalizing
                (operation.buffer ++ input)).map
                fun result => ({ operation with buffer := [] }, result)
          match taken with
          | .error error => (none, .fail error out)
          | .ok (operation, result) =>
            if out.capacity < result.length then
              (some { operation with result := some result },
                ⟨.bufferTooSmall, result.length, []⟩)
            else (none, ⟨.ok, result.length, result⟩)

/-- The blockwise transformation of `crypt_update_blocks`, without padding. -/
def cryptBlocks (blocks : Bytes) : Except Rv Bytes :=
  if operation.mechanism.des3 then
    if operation.mechanism.cbc then
      match operation.des3Iv with
      | none => .error .mechanismParamInvalid
      | some iv => softwareTdesCbc core operation.key iv blocks encrypting
    else softwareTdesEcbBlocks core operation.key blocks encrypting
  else if operation.mechanism.cbc then
    match operation.iv with
    | none => .error .mechanismParamInvalid
    | some iv => softwareAesCbc core operation.key iv blocks encrypting
  else softwareCryptEcbBlocks core operation.key blocks encrypting

/-- The chaining block after `crypt_update_blocks`: the last block of the ciphertext. -/
def cryptUpdateIv (tail : Bytes) (produced : ℕ) : CryptOperation :=
  if operation.mechanism.cbc then
    if operation.mechanism.des3 then
      { operation with des3Iv := some (tail.drop (produced - tdesBlockLength)) }
    else { operation with iv := some (tail.drop (produced - aesBlockLength)) }
  else operation

def cryptUpdateBlocks (input : Bytes) (out : OutputBuffer) (operation : CryptOperation) :
    Option CryptOperation × CallResult :=
  let total := operation.buffer.length + input.length
  let blockLength := operation.mechanism.blockLength
  let retained := if !encrypting && operation.mechanism.padded then 1 else 0
  let produced := (total / blockLength - retained) * blockLength
  if out.null then (some operation, ⟨.ok, produced, []⟩)
  else if out.capacity < produced then (some operation, ⟨.bufferTooSmall, produced, []⟩)
  else
    let buffer := operation.buffer ++ input
    if produced ≠ 0 then
      let blocks := buffer.take produced
      match cryptBlocks core operation encrypting blocks with
      | .error error => (none, ⟨error, produced, []⟩)
      | .ok transformed =>
        if transformed.length ≠ produced then (none, ⟨.deviceError, produced, []⟩)
        else
          let tail := if encrypting then transformed else blocks
          (some { cryptUpdateIv operation tail produced with
                    buffer := buffer.drop produced, multipart := true },
            ⟨.ok, produced, transformed⟩)
    else (some { operation with buffer := buffer, multipart := true }, ⟨.ok, produced, []⟩)

/-- `crypt_update`: `C_EncryptUpdate`/`C_DecryptUpdate`. -/
def cryptUpdate (userLoggedIn encrypting : Bool) (input : Bytes) (out : OutputBuffer)
    (active : Option CryptOperation) : Option CryptOperation × CallResult :=
  match active with
  | none => (none, .fail .operationNotInitialized out)
  | some operation =>
    if operation.requiresLogin && !userLoggedIn then (none, .fail .userNotLoggedIn out)
    else if operation.result.isSome then (none, .fail .operationNotInitialized out)
    else cryptUpdateBlocks core encrypting input out operation

end Pkcs11rs.Model
