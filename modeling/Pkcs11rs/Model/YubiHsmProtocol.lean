import Pkcs11rs.Model.ReturnValue

/-!
# The YubiHSM wire protocol

Command codes, length-prefixed frames and the mapping of device errors
(`yubihsm/commands/protocol.rs`, `yubihsm.rs:36-113, 1085-1147`).
-/

set_option autoImplicit false

namespace Pkcs11rs.Model

open Pkcs11rs.Library

inductive CommandCode where
  | echo
  | createSession
  | authenticateSession
  | sessionMessage
  | getDeviceInfo
  | resetDevice
  | getDevicePublicKey
  | sessionObject
  | deriveEcdhKdf
  | signMlDsa
  | encapsulateMlKem
  | decapsulateMlKem
  | encapsulateHybridKem
  | decapsulateHybridKem
  | closeSession
  | getStorageInfo
  | putOpaque
  | getOpaque
  | putAuthenticationKey
  | putAsymmetricKey
  | generateAsymmetricKey
  | signPkcs1
  | listObjects
  | decryptPkcs1
  | exportWrapped
  | importWrapped
  | putWrapKey
  | getLogEntries
  | getObjectInfo
  | setOption
  | getOption
  | getPseudoRandom
  | putHmacKey
  | signHmac
  | getPublicKey
  | signPss
  | signEcdsa
  | deriveEcdh
  | deleteObject
  | decryptOaep
  | generateHmacKey
  | generateWrapKey
  | verifyHmac
  | signSshCertificate
  | putTemplate
  | getTemplate
  | decryptOtp
  | createOtpAead
  | randomizeOtpAead
  | rewrapOtpAead
  | signAttestationCertificate
  | putOtpAeadKey
  | generateOtpAeadKey
  | setLogIndex
  | wrapData
  | unwrapData
  | signEddsa
  | blinkDevice
  | changeAuthenticationKey
  | putSymmetricKey
  | generateSymmetricKey
  | decryptEcb
  | encryptEcb
  | decryptCbc
  | encryptCbc
  | putPublicWrapKey
  | getRsaWrappedKey
  | putRsaWrappedKey
  | exportRsaWrapped
  | importRsaWrapped
  deriving DecidableEq, Repr

namespace CommandCode

/-- The code on the wire (`as u8`). -/
def toByte : CommandCode → UInt8
  | echo => 0x01
  | createSession => 0x03
  | authenticateSession => 0x04
  | sessionMessage => 0x05
  | getDeviceInfo => 0x06
  | resetDevice => 0x08
  | getDevicePublicKey => 0x0a
  | sessionObject => 0x0b
  | deriveEcdhKdf => 0x0c
  | signMlDsa => 0x0d
  | encapsulateMlKem => 0x0e
  | decapsulateMlKem => 0x0f
  | encapsulateHybridKem => 0x10
  | decapsulateHybridKem => 0x11
  | closeSession => 0x40
  | getStorageInfo => 0x41
  | putOpaque => 0x42
  | getOpaque => 0x43
  | putAuthenticationKey => 0x44
  | putAsymmetricKey => 0x45
  | generateAsymmetricKey => 0x46
  | signPkcs1 => 0x47
  | listObjects => 0x48
  | decryptPkcs1 => 0x49
  | exportWrapped => 0x4a
  | importWrapped => 0x4b
  | putWrapKey => 0x4c
  | getLogEntries => 0x4d
  | getObjectInfo => 0x4e
  | setOption => 0x4f
  | getOption => 0x50
  | getPseudoRandom => 0x51
  | putHmacKey => 0x52
  | signHmac => 0x53
  | getPublicKey => 0x54
  | signPss => 0x55
  | signEcdsa => 0x56
  | deriveEcdh => 0x57
  | deleteObject => 0x58
  | decryptOaep => 0x59
  | generateHmacKey => 0x5a
  | generateWrapKey => 0x5b
  | verifyHmac => 0x5c
  | signSshCertificate => 0x5d
  | putTemplate => 0x5e
  | getTemplate => 0x5f
  | decryptOtp => 0x60
  | createOtpAead => 0x61
  | randomizeOtpAead => 0x62
  | rewrapOtpAead => 0x63
  | signAttestationCertificate => 0x64
  | putOtpAeadKey => 0x65
  | generateOtpAeadKey => 0x66
  | setLogIndex => 0x67
  | wrapData => 0x68
  | unwrapData => 0x69
  | signEddsa => 0x6a
  | blinkDevice => 0x6b
  | changeAuthenticationKey => 0x6c
  | putSymmetricKey => 0x6d
  | generateSymmetricKey => 0x6e
  | decryptEcb => 0x6f
  | encryptEcb => 0x70
  | decryptCbc => 0x71
  | encryptCbc => 0x72
  | putPublicWrapKey => 0x73
  | getRsaWrappedKey => 0x74
  | putRsaWrappedKey => 0x75
  | exportRsaWrapped => 0x76
  | importRsaWrapped => 0x77

def isSessionProtocol : CommandCode → Bool
  | createSession | authenticateSession | sessionMessage => true
  | _ => false

end CommandCode

structure Command where
  code : CommandCode
  data : Bytes
  deriving DecidableEq, Repr

def commandError : UInt8 := 0x7f

def responseBit : UInt8 := 0x80

def macLength : ℕ := 8

def aesBlockSize : ℕ := 16

def pre24MessageSize : ℕ := 2048

def maxMessageSize : ℕ := 8192

def mapDeviceError : Option UInt8 → Rv
  | some 0x03 => .sessionClosed
  | some 0x05 => .sessionCount
  | some 0x07 | some 0x0a => .deviceMemory
  | some 0x08 => .dataLenRange
  | some 0x09 | some 0x0e | some 0x10 | some 0x12 => .functionRejected
  | some 0x0b | some 0x0c => .objectHandleInvalid
  | some 0x11 => .attributeValueInvalid
  | some 0xff => .functionFailed
  | _ => .deviceError

/-- `Frame`: its data fits the two length bytes. -/
structure Frame where
  command : UInt8
  data : Bytes
  length_le : data.length ≤ 65535
  deriving DecidableEq, Repr

namespace Frame

def new (command : UInt8) (data : Bytes) : Except Rv Frame :=
  if h : data.length ≤ 65535 then .ok ⟨command, data, h⟩ else .error .dataLenRange

def encode (frame : Frame) : Bytes :=
  frame.command :: beBytes 2 frame.data.length ++ frame.data

def parse : Bytes → Except Rv Frame
  | command :: high :: low :: data =>
    if data.length = beValue [high, low] then new command data else .error .deviceError
  | _ => .error .deviceError

def requireResponse (frame : Frame) (request : UInt8) : Except Rv Bytes :=
  if frame.command = commandError then .error (mapDeviceError frame.data.head?)
  else if frame.command ≠ request ||| responseBit then .error .deviceError
  else .ok frame.data

/-- Data that fit a frame. -/
theorem new_of_le {command : UInt8} {data : Bytes} (h : data.length ≤ 65535) :
    new command data = .ok ⟨command, data, h⟩ := by
  simp [new, h]

/-- What a frame has. -/
theorem new_eq_ok {command : UInt8} {data : Bytes} {frame : Frame}
    (h : new command data = .ok frame) : frame.command = command ∧ frame.data = data := by
  unfold new at h
  split at h
  · cases h
    exact ⟨rfl, rfl⟩
  · cases h

/-- The length of a frame. -/
theorem length_encode (frame : Frame) : frame.encode.length = 3 + frame.data.length := by
  simp only [encode, List.length_append, List.length_cons, length_beBytes]

/-- A frame is read if and only if it is written. -/
theorem parse_eq_ok_iff {encoded : Bytes} {frame : Frame} :
    parse encoded = .ok frame ↔ encoded = frame.encode := by
  constructor
  · intro h
    match encoded, h with
    | command :: high :: low :: data, h =>
      obtain ⟨hlen, h⟩ := require_eq_ok.mp h
      unfold new at h
      split at h
      · cases h
        simp only [encode, List.cons_append]
        rw [hlen, beBytes_beValue (w := 2) rfl]
        rfl
      · cases h
  · rintro rfl
    obtain ⟨command, data, hle⟩ := frame
    have hvalue : beValue (beBytes 2 data.length) = data.length :=
      beValue_beBytes (by rw [show 256 ^ 2 = 65536 by decide]; omega)
    have hbytes : beBytes 2 data.length =
        [UInt8.ofNat (data.length / 256 % 256), UInt8.ofNat (data.length % 256)] := rfl
    rw [hbytes] at hvalue
    simp only [encode, hbytes, List.cons_append, List.nil_append, parse, hvalue, if_true]
    exact new_of_le hle

end Frame

def secureMessageLength (dataLength : ℕ) : ℕ :=
  let innerLength := 3 + dataLength
  let encryptedLength := (innerLength + 1 + (aesBlockSize - 1)) / aesBlockSize * aesBlockSize
  3 + 1 + encryptedLength + macLength

def maximumCommandSize (major minor : UInt8) : ℕ :=
  if major < 2 ∨ (major = 2 ∧ minor < 4) then pre24MessageSize else maxMessageSize

/-- `SecureSession::validate_command` for a device of the given version. -/
def validateCommand (major minor : UInt8) (command : Command) : Except Rv Unit :=
  if command.code.isSessionProtocol || command.code = .getDeviceInfo ||
      command.code = .getDevicePublicKey then .error .dataInvalid
  else if secureMessageLength command.data.length > maximumCommandSize major minor then
    .error .dataLenRange
  else if command.code = .getPseudoRandom then
    if command.data.length ≠ 2 then .error .dataInvalid
    else if secureMessageLength (beValue command.data) > maxMessageSize then .error .dataLenRange
    else .ok ()
  else .ok ()

/-- A command that passes the check has a frame, and the sealed message has one too. -/
theorem validateCommand_length {major minor : UInt8} {command : Command}
    (h : validateCommand major minor command = .ok ()) :
    secureMessageLength command.data.length ≤ maxMessageSize := by
  obtain ⟨-, h⟩ := guard_eq_ok.mp h
  obtain ⟨hle, -⟩ := guard_eq_ok.mp h
  have hmax : maximumCommandSize major minor ≤ maxMessageSize := by
    unfold maximumCommandSize
    split
    · decide
    · exact le_refl _
  omega

end Pkcs11rs.Model
