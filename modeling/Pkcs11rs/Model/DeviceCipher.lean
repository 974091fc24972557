import Pkcs11rs.Library.Calls
import Pkcs11rs.Model.SymmetricCore
import Pkcs11rs.Model.YubiHsmProtocol

/-!
# AES on the YubiHSM

Data that is longer than one command takes goes to the device in several (`api/crypt/encrypt.rs:590-655`,
and the branch for device keys of `crypt_update_blocks`, `api/crypt/encrypt.rs:1582-1616`).  The commands
are built by `key_data` and `crypt_cbc` (`yubihsm/commands/crypto.rs:88-125`).

The session with the device is a function on commands over an arbitrary state.
-/

set_option autoImplicit false

namespace Pkcs11rs.Model

open Pkcs11rs.Library

def maxCommandDataLength : ℕ := 8192 - 3

def yubihsmEcbChunkLength : ℕ := 2016

def yubihsmCbcChunkLength : ℕ := 2000

namespace Command

def fromVec (code : CommandCode) (data : Bytes) : Except Rv Command :=
  if data.length > maxCommandDataLength then .error .dataLenRange else .ok { code, data }

def keyData (code : CommandCode) (keyId : UInt16) (value : Bytes) : Except Rv Command :=
  if code ∉ [.signPkcs1, .decryptPkcs1, .signHmac, .signEcdsa, .deriveEcdh, .signEddsa, .wrapData,
      .unwrapData, .decryptEcb, .encryptEcb] then .error .dataInvalid
  else if code ∈ [.decryptEcb, .encryptEcb] ∧ value.length % 16 ≠ 0 then .error .dataLenRange
  else fromVec code (beBytes 2 keyId.toNat ++ value)

def cryptCbc (code : CommandCode) (keyId : UInt16) (iv value : Bytes) : Except Rv Command :=
  if code ∉ [.decryptCbc, .encryptCbc] then .error .dataInvalid
  else if value.length % 16 ≠ 0 then .error .dataLenRange
  else fromVec code (beBytes 2 keyId.toNat ++ iv ++ value)

end Command

section

variable {ε : Type} (device : Command → ε → Outcome Rv ε Bytes) (keyId : UInt16)

/-- One command of a loop over chunks: its answer is as long as the chunk. -/
def yubihsmChunk (command : Except Rv Command) (chunk : Bytes) (t : ε) : Outcome Rv ε Bytes :=
  match command with
  | .error error => (.error error, t)
  | .ok command =>
    (device command t).andThen fun response t =>
      if response.length ≠ chunk.length then (.error .deviceError, t) else (.ok response, t)

/-- The loop of `yubihsm_crypt_ecb_blocks`. -/
def yubihsmEcbLoop (encrypting : Bool) : List Bytes → Bytes → ε → Outcome Rv ε Bytes
  | [], output, t => (.ok output, t)
  | chunk :: chunks, output, t =>
    (yubihsmChunk device
      (Command.keyData (if encrypting then .encryptEcb else .decryptEcb) keyId chunk) chunk t).andThen
      fun response t => yubihsmEcbLoop encrypting chunks (output ++ response) t

def yubihsmCryptEcbBlocks (blocks : Bytes) (encrypting : Bool) (t : ε) : Outcome Rv ε Bytes :=
  if blocks.length % aesBlockLength ≠ 0 then (.error .dataLenRange, t)
  else yubihsmEcbLoop device keyId encrypting (chunks yubihsmEcbChunkLength blocks) [] t

def yubihsmMacLoop : List Bytes → Bytes → ε → Outcome Rv ε Bytes
  | [], iv, t => (.ok iv, t)
  | chunk :: chunks, iv, t =>
    (yubihsmChunk device (Command.cryptCbc .encryptCbc keyId iv chunk) chunk t).andThen fun response t =>
      yubihsmMacLoop chunks (response.drop (response.length - aesBlockLength)) t

def yubihsmCbcMac (blocks : Bytes) (t : ε) : Outcome Rv ε Bytes :=
  if blocks = [] ∨ blocks.length % aesBlockLength ≠ 0 then (.error .dataLenRange, t)
  else yubihsmMacLoop device keyId (chunks yubihsmCbcChunkLength blocks)
    (List.replicate aesBlockLength 0) t

/-- The loop of `crypt_update_blocks` for CBC with a device key. -/
def yubihsmCbcLoop (encrypting : Bool) : List Bytes → Bytes → Bytes → ε → Outcome Rv ε Bytes
  | [], _, result, t => (.ok result, t)
  | chunk :: chunks, iv, result, t =>
    (yubihsmChunk device
      (Command.cryptCbc (if encrypting then .encryptCbc else .decryptCbc) keyId iv chunk) chunk
      t).andThen fun response t =>
      let tail := if encrypting then response else chunk
      yubihsmCbcLoop encrypting chunks (tail.drop (tail.length - aesBlockLength))
        (result ++ response) t

/-- The CBC branch of `crypt_update_blocks` for a device key. -/
def yubihsmCryptCbcBlocks (iv : Option Bytes) (blocks : Bytes) (encrypting : Bool) (t : ε) :
    Outcome Rv ε Bytes :=
  match iv with
  | none => (.error .mechanismParamInvalid, t)
  | some iv =>
    yubihsmCbcLoop device keyId encrypting (chunks yubihsmCbcChunkLength blocks) iv [] t

end

end Pkcs11rs.Model
